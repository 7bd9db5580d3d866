import LineSearch.Proofs.Search.Attempts
import LineSearch.Proofs.Search.Steps

/-!
# The journal of a search

A search that is observed can write its events down. As a match carries out the steps of its tokens,
its journal is what they report up to the end that is taken, and the required end decides only which
one that is. So a match without a required end writes the front part of what any other writes
(`matchJournal_isPrefix`). Each entry tells of a branch that stands below the tokens, at a position
that a match can reach (`tells_of_mem_reported`). The journal of a search is its own entry and those
of its attempts, in the order in which they are made (`Pattern.searchJournal_eq`).
-/

namespace LineSearch

/-! ## Writing events down -/

def journaled {α : Type} (run : StateM (Array Event) α) : α × List Event :=
  let (result, events) := (run.run #[]).run
  (result, events.toList)

def matchJournal (chars : Array Char) (pos : Nat) (tokens : List Token) (index : Nat)
    (required : Option Nat) : Option Nat × List Event :=
  journaled (matchAtM Observer.journal chars pos tokens index required).run

def Pattern.searchJournal (pattern : Pattern) (chars : Array Char) : Option Span × List Event :=
  journaled (pattern.searchM Observer.journal chars).run

/-- Whatever was written before, a run returns the result and writes the events behind it. -/
def Writes {α : Type} (run : OptionT (StateM (Array Event)) α) (result : Option α)
    (events : List Event) : Prop :=
  ∀ before : Array Event, run.run.run before = pure (result, before ++ events.toArray)

theorem Writes.journaled_eq {α : Type} {run : OptionT (StateM (Array Event)) α} {result : Option α}
    {events : List Event} (h : Writes run result events) :
    journaled run.run = (result, events) := by
  unfold journaled
  rw [h #[]]
  simp

section Writes

variable {α β : Type}

theorem writes_failure : Writes (failure : OptionT (StateM (Array Event)) α) none [] := by
  intro before
  simp

theorem writes_pure (a : α) : Writes (pure a) (some a) [] := by
  intro before
  simp

theorem Writes.report {run : OptionT (StateM (Array Event)) α} {result : Option α}
    {events : List Event} (h : Writes run result events) (event : Event) :
    Writes (OptionT.lift (Observer.journal event) >>= fun _ => run) result (event :: events) := by
  intro before
  have hrest := h (before.push event)
  simp only [OptionT.run_bind, OptionT.run_lift, Option.elimM, bind_assoc, pure_bind,
    Option.elim_some, StateT.run_bind, Observer.journal, StateT.run_modify]
  rw [hrest]
  simp

theorem Writes.map {run : OptionT (StateM (Array Event)) α} {result : Option α}
    {events : List Event} (h : Writes run result events) (f : α → β) :
    Writes (f <$> run) (result.map f) events := by
  intro before
  simp [h before]

theorem Writes.orElse_of_none {first second : OptionT (StateM (Array Event)) α} {result : Option α}
    {events later : List Event} (hfirst : Writes first none events)
    (hsecond : Writes second result later) :
    Writes (first <|> second) result (events ++ later) := by
  intro before
  have hlater := hsecond (before ++ events.toArray)
  simp [Option.elimM, hfirst before, hlater]

theorem Writes.orElse_of_some {first : OptionT (StateM (Array Event)) α} {a : α}
    {events : List Event} (hfirst : Writes first (some a) events)
    (second : OptionT (StateM (Array Event)) α) :
    Writes (first <|> second) (some a) events := by
  intro before
  simp [Option.elimM, hfirst before]

end Writes

theorem writes_perform (accepts : Nat → Bool) (steps : List Step) :
    Writes
      (perform Observer.journal (fun stop => if accepts stop then pure stop else failure) steps)
      ((offered steps).find? accepts) (reported (stepsUntil accepts steps)) := by
  induction steps with
  | nil => exact writes_failure
  | cons step rest ih =>
      cases step with
      | report event => exact ih.report event
      | offer stop =>
          rw [perform, offered_offer, stepsUntil]
          cases haccepts : accepts stop with
          | true =>
              rw [List.find?_cons_of_pos haccepts]
              exact (writes_pure stop).orElse_of_some _
          | false =>
              rw [List.find?_cons_of_neg (by simp [haccepts])]
              exact writes_failure.orElse_of_none ih

/-! ## Matches -/

section Matches

variable (chars : Array Char) (pos : Nat) (tokens : List Token) (index : Nat)

theorem writes_matchAtM (required : Option Nat) :
    Writes (matchAtM Observer.journal chars pos tokens index required)
      (matchAt? chars pos tokens index required)
      (reported (stepsUntil (fun stop => required.all (· == stop))
        (matchSteps chars (tokens.drop index) pos))) := by
  rw [matchAtM, walk_eq_perform, matchAt?_eq_find?, ← offered_matchSteps]
  exact writes_perform (fun stop => required.all (· == stop)) _

theorem matchJournal_eq (required : Option Nat) :
    matchJournal chars pos tokens index required =
      (matchAt? chars pos tokens index required,
        reported (stepsUntil (fun stop => required.all (· == stop))
          (matchSteps chars (tokens.drop index) pos))) :=
  (writes_matchAtM chars pos tokens index required).journaled_eq

/-- Without a required end a match writes the front part of what it writes with one. -/
theorem matchJournal_isPrefix (required : Option Nat) :
    (matchJournal chars pos tokens index none).2 <+:
      (matchJournal chars pos tokens index required).2 := by
  rw [matchJournal_eq, matchJournal_eq]
  exact (stepsUntil_isPrefix (fun _ _ => rfl) _).filterMap _

/-- If there is no end at all, or the first one is the required one, nothing more is written. -/
theorem matchJournal_eq_of_first {stop : Nat}
    (h : (matchJournal chars pos tokens index none).1 = none ∨
      (matchJournal chars pos tokens index none).1 = some stop) :
    (matchJournal chars pos tokens index none).2 =
      (matchJournal chars pos tokens index (some stop)).2 := by
  simp only [matchJournal_eq, matchAt?_none, ← offered_matchSteps] at h ⊢
  have hfirst : ∀ first, (offered (matchSteps chars (tokens.drop index) pos)).head? = some first →
      (some stop).all (· == first) = true := by
    intro first hfirst
    rcases h with hnone | hsome
    · rw [hnone] at hfirst
      contradiction
    · rw [hsome] at hfirst
      simpa using hfirst
  rw [stepsUntil_eq_of_head? hfirst]
  rfl

end Matches

/-! ## Entries -/

/-- The event tells of a branch that stands below the tokens, with its tokens counted, at a position
that a match from the given one can reach. -/
def Tells (chars : Array Char) (tokens : List Token) (pos : Nat) (event : Event) : Prop :=
  ∃ branch start, event = .branchTried branch (tokenize branch).length start ∧
    Nested tokens branch ∧ pos ≤ start ∧ start ≤ max pos chars.size

/-- What repetitions report is reported by one of them, from where one before it ended. -/
theorem mem_reported_steps {quantifier : Quantifier} {once : Nat → List Step} {limit pos : Nat}
    {event : Event} (h : event ∈ reported (quantifier.steps once limit pos)) :
    ∃ start, pos ≤ start ∧ start ≤ max pos limit ∧ event ∈ reported (once start) := by
  cases quantifier with
  | once => exact ⟨pos, Nat.le_refl pos, Nat.le_max_left pos limit, h⟩
  | optional =>
      rw [Quantifier.steps, reported_append, reported_offer, reported_nil, List.append_nil] at h
      exact ⟨pos, Nat.le_refl pos, Nat.le_max_left pos limit, h⟩
  | repeated =>
      rw [Quantifier.steps, reported_append, reported_map_report, reported_map_offer,
        List.append_nil] at h
      fun_induction chainReports once limit pos with
      | case1 pos ih =>
          rcases List.mem_append.mp h with hfirst | hlater
          · exact ⟨pos, Nat.le_refl pos, Nat.le_max_left pos limit,
              (reported_stepsUntil_isPrefix _ _).subset hfirst⟩
          · split at hlater
            · contradiction
            · next stop hstop =>
                split at hlater
                · next honward =>
                    obtain ⟨start, hstart, hlimit, hevent⟩ := ih stop honward hlater
                    exact ⟨start, by omega, by omega, hevent⟩
                · contradiction

theorem tells_of_mem_reported (chars : Array Char) (tokens : List Token) (pos : Nat) :
    ∀ event ∈ reported (matchSteps chars tokens pos), Tells chars tokens pos event := by
  induction tokens using tokens_induction fun kind =>
    ∀ (quantifier : Quantifier) (tokens : List Token), ⟨kind, quantifier⟩ ∈ tokens →
      ∀ pos, ∀ event ∈ reported (kind.steps chars pos), Tells chars tokens pos event
    generalizing pos with
  | single kind hsingle quantifier tokens htoken pos event hevent =>
      rw [Token.Kind.steps_single chars hsingle, reported_map_offer] at hevent
      contradiction
  | group branches ih quantifier tokens htoken pos event hevent =>
      rw [Token.Kind.steps_group] at hevent
      obtain ⟨branch, hbranch, hevent⟩ := mem_reported_flatMap.mp hevent
      rcases List.mem_cons.mp hevent with rfl | hinner
      · exact ⟨branch, pos, rfl, .branch htoken hbranch, Nat.le_refl pos, Nat.le_max_left _ _⟩
      · obtain ⟨inner, start, rfl, hnested, hbounds⟩ :=
          ih branch hbranch pos event ((reported_stepsUntil_isPrefix _ _).subset hinner)
        exact ⟨inner, start, rfl, .inner htoken hbranch hnested, hbounds⟩
  | nil =>
      rw [matchSteps_nil]
      simp
  | cons token rest hkind ih =>
      intro event hevent
      have hoffered :
          (fun start => offered (token.kind.steps chars start)) = token.kind.ends chars :=
        funext (token.kind.offered_steps chars)
      rw [matchSteps_cons] at hevent
      rcases mem_reported_flatMap_expand hevent with hfirst | ⟨stop, hstop, hlater⟩
      · obtain ⟨middle, hfrom, hto, hkindEvent⟩ := mem_reported_steps hfirst
        obtain ⟨branch, start, rfl, hnested, hbounds⟩ :=
          hkind token.quantifier (token :: rest) List.mem_cons_self middle event hkindEvent
        exact ⟨branch, start, rfl, hnested, by omega, by omega⟩
      · rw [Token.steps, Quantifier.offered_steps, hoffered] at hstop
        have hbounds := token.ends_advances chars pos stop hstop
        obtain ⟨branch, start, rfl, hnested, hlaterBounds⟩ := ih stop event hlater
        exact ⟨branch, start, rfl, hnested.mono fun _ => List.mem_cons_of_mem token, by omega,
          by omega⟩

/-! ## Searches -/

def upToFirst {α : Type} (succeeds : α → Bool) : List α → List α
  | [] => []
  | item :: rest => if succeeds item then [item] else item :: upToFirst succeeds rest

theorem upToFirst_of_none {α β : Type} {f : α → Option β} {items : List α}
    (h : items.findSome? f = none) : upToFirst (fun item => (f item).isSome) items = items := by
  induction items with
  | nil => rfl
  | cons item rest ih =>
      obtain ⟨hitem, hrest⟩ := List.forall_mem_cons.mp (List.findSome?_eq_none_iff.mp h)
      rw [upToFirst, hitem, Option.isSome_none, if_neg Bool.false_ne_true,
        ih (List.findSome?_eq_none_iff.mpr hrest)]

theorem upToFirst_append {α β : Type} {f : α → Option β} {front back : List α} {item : α}
    (hfront : ∀ earlier ∈ front, f earlier = none) (hitem : (f item).isSome = true) :
    upToFirst (fun item => (f item).isSome) (front ++ item :: back) = front ++ [item] := by
  induction front with
  | nil => exact if_pos hitem
  | cons earlier rest ih =>
      obtain ⟨hearlier, hrest⟩ := List.forall_mem_cons.mp hfront
      rw [List.cons_append, upToFirst, hearlier, Option.isSome_none, if_neg Bool.false_ne_true,
        ih hrest, List.cons_append]

theorem writes_firstM {α β : Type} {run : α → OptionT (StateM (Array Event)) β}
    {result : α → Option β} {events : α → List Event}
    (h : ∀ item, Writes (run item) (result item) (events item)) (items : List α) :
    Writes (items.firstM run) (items.findSome? result)
      ((upToFirst (fun item => (result item).isSome) items).flatMap events) := by
  induction items with
  | nil => exact writes_failure
  | cons item rest ih =>
      have hitem := h item
      rw [List.firstM, List.findSome?_cons, upToFirst]
      cases hresult : result item with
      | none =>
          rw [hresult] at hitem
          exact hitem.orElse_of_none ih
      | some found =>
          rw [hresult] at hitem
          rw [Option.isSome_some, if_pos rfl, List.flatMap_singleton]
          exact hitem.orElse_of_some _

theorem range_eq_append_cons {n item : Nat} {front back : List Nat}
    (h : List.range n = front ++ item :: back) :
    front ++ [item] = List.range (item + 1) ∧ item :: back = (List.range n).drop item := by
  have hlength : n = front.length + (back.length + 1) := by
    simpa using congrArg List.length h
  have hitem : front.length = item := by
    have hget := congrArg (·[front.length]?) h
    simpa [hlength] using hget
  subst hitem
  constructor
  · have htake := congrArg (List.take (front.length + 1)) h
    rw [List.take_range, Nat.min_eq_left (by omega), List.take_length_add_append] at htake
    exact htake.symm
  · rw [h, List.drop_left]

/-- The starts at which a match is attempted, in order, up to that of the part found. -/
def Placement.attemptedStarts (placement : Placement) (length : Nat) (found : Option Span) :
    List Nat :=
  match placement with
  | .exact | .fromStart => [0]
  | .atEnd => ((List.range (length + 1)).drop (found.elim 0 (·.start))).reverse
  | .anywhere => List.range (found.elim length (·.start) + 1)

def Placement.required (placement : Placement) (length : Nat) : Option Nat :=
  match placement with
  | .exact | .atEnd => some length
  | .fromStart | .anywhere => none

namespace Pattern

variable (pattern : Pattern) (chars : Array Char)

theorem writes_attempt (required : Option Nat) (start : Nat) :
    Writes ((⟨start, ·⟩) <$> matchAtM Observer.journal chars start pattern.tokens 0 required)
      (pattern.attempt? chars required start)
      (matchJournal chars start pattern.tokens 0 required).2 := by
  rw [matchJournal_eq, attempt?]
  exact (writes_matchAtM chars start pattern.tokens 0 required).map _

variable {pattern chars}

theorem upToFirst_range {required : Option Nat} :
    upToFirst (fun start => (pattern.attempt? chars required start).isSome)
        (List.range (chars.size + 1)) =
      Placement.anywhere.attemptedStarts chars.size
        ((List.range (chars.size + 1)).findSome? (pattern.attempt? chars required)) := by
  cases hfound : (List.range (chars.size + 1)).findSome? (pattern.attempt? chars required) with
  | none => exact upToFirst_of_none hfound
  | some span =>
      obtain ⟨front, start, back, hsplit, hattempt, hfront⟩ := List.findSome?_eq_some_iff.mp hfound
      obtain ⟨rfl, -⟩ := attempt?_eq_some hattempt
      rw [hsplit, upToFirst_append hfront (by rw [hattempt, Option.isSome_some])]
      exact (range_eq_append_cons hsplit).1

theorem upToFirst_range_reverse {required : Option Nat} :
    upToFirst (fun start => (pattern.attempt? chars required start).isSome)
        (List.range (chars.size + 1)).reverse =
      Placement.atEnd.attemptedStarts chars.size
        ((List.range (chars.size + 1)).reverse.findSome? (pattern.attempt? chars required)) := by
  cases hfound :
      (List.range (chars.size + 1)).reverse.findSome? (pattern.attempt? chars required) with
  | none => exact upToFirst_of_none hfound
  | some span =>
      obtain ⟨front, start, back, hsplit, hattempt, hfront⟩ := List.findSome?_eq_some_iff.mp hfound
      obtain ⟨rfl, -⟩ := attempt?_eq_some hattempt
      rw [hsplit, upToFirst_append hfront (by rw [hattempt, Option.isSome_some])]
      rw [List.reverse_eq_append_iff, List.reverse_cons, List.append_assoc, List.singleton_append]
        at hsplit
      rw [Placement.attemptedStarts, Option.elim_some, ← (range_eq_append_cons hsplit).2,
        List.reverse_cons, List.reverse_reverse]

variable (pattern chars)

/-- A search writes its own entry and then what its attempts write, one after the other. -/
theorem searchJournal_eq :
    pattern.searchJournal chars =
      (pattern.search? chars,
        .searchStarted pattern.tokens.length chars.size pattern.placement ::
          (pattern.placement.attemptedStarts chars.size (pattern.search? chars)).flatMap
            fun start => (matchJournal chars start pattern.tokens 0
              (pattern.placement.required chars.size)).2) := by
  apply Writes.journaled_eq
  apply Writes.report
  rw [search?_eq]
  cases pattern.placement with
  | exact =>
      rw [Placement.attemptedStarts, List.flatMap_singleton]
      exact writes_attempt pattern chars _ 0
  | fromStart =>
      rw [Placement.attemptedStarts, List.flatMap_singleton]
      exact writes_attempt pattern chars _ 0
  | atEnd =>
      dsimp only
      rw [← upToFirst_range_reverse]
      exact writes_firstM (writes_attempt pattern chars _) _
  | anywhere =>
      dsimp only
      rw [← upToFirst_range]
      exact writes_firstM (writes_attempt pattern chars _) _

/-- Whether the pattern matches and which part it matches is read from one and the same search. -/
theorem journaled_isMatchM (line : Text) :
    journaled (pattern.isMatchM Observer.journal line) =
      ((pattern.searchJournal line.toArray).1.isSome, (pattern.searchJournal line.toArray).2) :=
  rfl

theorem journaled_findM (line : Text) :
    journaled (pattern.findM Observer.journal line) =
      ((pattern.searchJournal line.toArray).1.bind (Found.ofSpan? line),
        (pattern.searchJournal line.toArray).2) :=
  rfl

variable {pattern chars}

theorem le_of_mem_attemptedStarts {start : Nat}
    (h : start ∈ pattern.placement.attemptedStarts chars.size (pattern.search? chars)) :
    start ≤ chars.size := by
  cases hplacement : pattern.placement with
  | exact | fromStart =>
      rw [hplacement, Placement.attemptedStarts, List.mem_singleton] at h
      omega
  | atEnd =>
      rw [hplacement, Placement.attemptedStarts, List.mem_reverse] at h
      have hmem := List.mem_of_mem_drop h
      rw [List.mem_range] at hmem
      omega
  | anywhere =>
      rw [hplacement, Placement.attemptedStarts, List.mem_range] at h
      cases hfound : pattern.search? chars with
      | none =>
          rw [hfound, Option.elim_none] at h
          omega
      | some span =>
          have hinside := (search?_spec hfound).2.1
          rw [hfound, Option.elim_some] at h
          omega

end Pattern

/-! ## One order -/

theorem tells_of_mem_matchJournal {chars : Array Char} {pos : Nat} {tokens : List Token}
    {index : Nat} {required : Option Nat} {event : Event}
    (h : event ∈ (matchJournal chars pos tokens index required).2) :
    Tells chars (tokens.drop index) pos event := by
  rw [matchJournal_eq] at h
  exact tells_of_mem_reported chars _ pos event ((reported_stepsUntil_isPrefix _ _).subset h)

/-- Matches at one position keep to one order, whatever end is required: without one, a match writes
the front part of what it writes with one, and all of it if it fails or ends there. Each entry tells
of a branch below the tokens. A search writes its own entry and then those of its attempts, and so
does whoever asks it whether the pattern matches or which part. -/
theorem journal_keeps_one_order (chars : Array Char) (pos : Nat) (tokens : List Token)
    (index : Nat) :
    (∀ stop, (matchJournal chars pos tokens index none).2 <+:
        (matchJournal chars pos tokens index (some stop)).2) ∧
      (∀ stop, (matchJournal chars pos tokens index none).1 = none ∨
          (matchJournal chars pos tokens index none).1 = some stop →
        (matchJournal chars pos tokens index none).2 =
          (matchJournal chars pos tokens index (some stop)).2) ∧
      (∀ required, ∀ event ∈ (matchJournal chars pos tokens index required).2,
        Tells chars (tokens.drop index) pos event) ∧
      ∀ (pattern : Pattern) (line : Text), ∃ attempts : List Event,
        attempts =
            (pattern.placement.attemptedStarts line.length
              (pattern.search? line.toArray)).flatMap (fun start =>
                (matchJournal line.toArray start pattern.tokens 0
                  (pattern.placement.required line.length)).2) ∧
          (∀ event ∈ attempts, Tells line.toArray pattern.tokens 0 event) ∧
          (journaled (pattern.isMatchM Observer.journal line)).2 =
            .searchStarted pattern.tokens.length line.length pattern.placement :: attempts ∧
          (journaled (pattern.findM Observer.journal line)).2 =
            .searchStarted pattern.tokens.length line.length pattern.placement :: attempts := by
  refine ⟨fun stop => matchJournal_isPrefix chars pos tokens index (some stop),
    fun stop => matchJournal_eq_of_first chars pos tokens index,
    fun required event => tells_of_mem_matchJournal, ?_⟩
  intro pattern line
  have hlog := congrArg Prod.snd (pattern.searchJournal_eq line.toArray)
  refine ⟨_, rfl, ?_, ?_, ?_⟩
  · intro event hevent
    obtain ⟨start, hstart, hmem⟩ := List.mem_flatMap.mp hevent
    obtain ⟨branch, reached, rfl, hnested, -, hreached⟩ := tells_of_mem_matchJournal hmem
    have hinside : start ≤ line.toArray.size := Pattern.le_of_mem_attemptedStarts hstart
    exact ⟨branch, reached, rfl, hnested, Nat.zero_le reached, by omega⟩
  · rw [Pattern.journaled_isMatchM]
    exact hlog
  · rw [Pattern.journaled_findM]
    exact hlog

/-- On `abb` the tokens `(a|a(b))(b)?` go on to their last branch if the whole line is required, and
write no more than before if they must end where they end first. -/
theorem journal_keeps_one_order_of_later_branch :
    matchJournal #['a', 'b', 'b'] 0 (tokenize "(a|a(b))(b)?".toList) 0 none =
        (some 2, [.branchTried ['a'] 1 0, .branchTried ['b'] 1 1]) ∧
      (matchJournal #['a', 'b', 'b'] 0 (tokenize "(a|a(b))(b)?".toList) 0 (some 2)).2 =
        [.branchTried ['a'] 1 0, .branchTried ['b'] 1 1] ∧
      matchJournal #['a', 'b', 'b'] 0 (tokenize "(a|a(b))(b)?".toList) 0 (some 3) =
        (some 3, [.branchTried ['a'] 1 0, .branchTried ['b'] 1 1,
          .branchTried ['a', '(', 'b', ')'] 2 0, .branchTried ['b'] 1 1, .branchTried ['b'] 1 2]) ∧
      Tells #['a', 'b', 'b'] (tokenize "(a|a(b))(b)?".toList) 0 (.branchTried ['b'] 1 2) := by
  have hfirst : matchJournal #['a', 'b', 'b'] 0 (tokenize "(a|a(b))(b)?".toList) 0 none =
      (some 2, [.branchTried ['a'] 1 0, .branchTried ['b'] 1 1]) := by decide +kernel
  have hwhole : matchJournal #['a', 'b', 'b'] 0 (tokenize "(a|a(b))(b)?".toList) 0 (some 3) =
      (some 3, [.branchTried ['a'] 1 0, .branchTried ['b'] 1 1,
        .branchTried ['a', '(', 'b', ')'] 2 0, .branchTried ['b'] 1 1,
        .branchTried ['b'] 1 2]) := by
    decide +kernel
  obtain ⟨-, hsame, htells, -⟩ :=
    journal_keeps_one_order #['a', 'b', 'b'] 0 (tokenize "(a|a(b))(b)?".toList) 0
  refine ⟨hfirst, ?_, hwhole, htells (some 3) _ ?_⟩
  · rw [← hsame 2 (.inr (congrArg Prod.fst hfirst)), hfirst]
  · rw [hwhole]
    decide

end LineSearch
