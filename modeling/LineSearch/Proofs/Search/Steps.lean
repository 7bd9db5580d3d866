import LineSearch.Proofs.Search.Preference
import Mathlib.Data.List.Monad

/-!
# The steps of a walk

What a walk does can be written down before anything is known of what follows it: a list of the
events it reports and the ends it offers, in order (`matchSteps`). Carrying the list out means to
report each event and to try what follows from each end until it succeeds. That is the walk itself,
whoever observes it (`walk_eq_perform`), and the ends offered are those of `matchEnds`
(`offered_matchSteps`). So what follows decides only how much of the list is carried out.
-/

namespace LineSearch

/-! ## Steps -/

/-- What happens next in a walk: an event is reported, or an end is offered to what follows. -/
inductive Step where
  | report (event : Event)
  | offer (stop : Nat)
  deriving DecidableEq, Repr

namespace Step

def event? : Step → Option Event
  | report event => some event
  | offer _ => none

def stop? : Step → Option Nat
  | report _ => none
  | offer stop => some stop

def expand (further : Nat → List Step) : Step → List Step
  | report event => [.report event]
  | offer stop => further stop

end Step

def reported (steps : List Step) : List Event :=
  steps.filterMap Step.event?

def offered (steps : List Step) : List Nat :=
  steps.filterMap Step.stop?

/-- The steps up to the first end that is accepted, or all of them. -/
def stepsUntil (accepts : Nat → Bool) : List Step → List Step
  | [] => []
  | .report event :: rest => .report event :: stepsUntil accepts rest
  | .offer stop :: rest =>
      if accepts stop then [.offer stop] else .offer stop :: stepsUntil accepts rest

def stepsUntilEnd (steps : List Step) : List Step :=
  stepsUntil (fun _ => true) steps

section Lists

@[simp] theorem reported_nil : reported [] = [] := rfl

@[simp] theorem reported_report (event : Event) (rest : List Step) :
    reported (.report event :: rest) = event :: reported rest := rfl

@[simp] theorem reported_offer (stop : Nat) (rest : List Step) :
    reported (.offer stop :: rest) = reported rest := rfl

@[simp] theorem reported_append (first second : List Step) :
    reported (first ++ second) = reported first ++ reported second :=
  List.filterMap_append

@[simp] theorem offered_nil : offered [] = [] := rfl

@[simp] theorem offered_report (event : Event) (rest : List Step) :
    offered (.report event :: rest) = offered rest := rfl

@[simp] theorem offered_offer (stop : Nat) (rest : List Step) :
    offered (.offer stop :: rest) = stop :: offered rest := rfl

@[simp] theorem offered_append (first second : List Step) :
    offered (first ++ second) = offered first ++ offered second :=
  List.filterMap_append

@[simp] theorem reported_map_offer (stops : List Nat) : reported (stops.map .offer) = [] := by
  simp [reported, List.filterMap_map, Function.comp_def, Step.event?]

@[simp] theorem offered_map_offer (stops : List Nat) : offered (stops.map .offer) = stops := by
  simp [offered, List.filterMap_map, Function.comp_def, Step.stop?]

@[simp] theorem reported_map_report (events : List Event) :
    reported (events.map .report) = events := by
  simp [reported, List.filterMap_map, Function.comp_def, Step.event?]

@[simp] theorem offered_map_report (events : List Event) : offered (events.map .report) = [] := by
  simp [offered, List.filterMap_map, Function.comp_def, Step.stop?]

theorem offered_flatMap_expand (further : Nat → List Step) (steps : List Step) :
    offered (steps.flatMap (Step.expand further)) =
      (offered steps).flatMap fun stop => offered (further stop) := by
  induction steps with
  | nil => rfl
  | cons step rest ih =>
      rw [List.flatMap_cons, offered_append, ih]
      cases step <;> rfl

theorem offered_stepsUntilEnd (steps : List Step) :
    offered (stepsUntilEnd steps) = (offered steps).head?.toList := by
  induction steps with
  | nil => rfl
  | cons step rest ih =>
      cases step with
      | report event => exact ih
      | offer stop => rfl

/-- Who accepts fewer ends carries out more of the steps. -/
theorem stepsUntil_isPrefix {loose strict : Nat → Bool}
    (h : ∀ stop, strict stop = true → loose stop = true) (steps : List Step) :
    stepsUntil loose steps <+: stepsUntil strict steps := by
  induction steps with
  | nil => exact List.prefix_rfl
  | cons step rest ih =>
      cases step with
      | report event => exact List.cons_prefix_cons.mpr ⟨rfl, ih⟩
      | offer stop =>
          rw [stepsUntil, stepsUntil]
          cases hloose : loose stop with
          | false =>
              have hstrict : strict stop = false := by
                cases hstrict : strict stop with
                | false => rfl
                | true => exact absurd (h stop hstrict) (by simp [hloose])
              rw [hstrict]
              exact List.cons_prefix_cons.mpr ⟨rfl, ih⟩
          | true =>
              rw [if_pos rfl]
              split
              · exact List.prefix_rfl
              · exact List.cons_prefix_cons.mpr ⟨rfl, List.nil_prefix⟩

theorem stepsUntil_eq_self {accepts : Nat → Bool} {steps : List Step}
    (h : ∀ stop ∈ offered steps, accepts stop = false) : stepsUntil accepts steps = steps := by
  induction steps with
  | nil => rfl
  | cons step rest ih =>
      cases step with
      | report event => rw [stepsUntil, ih h]
      | offer stop =>
          obtain ⟨hstop, hrest⟩ := List.forall_mem_cons.mp h
          rw [stepsUntil, hstop, ih hrest, if_neg Bool.false_ne_true]

theorem reported_stepsUntil_isPrefix (accepts : Nat → Bool) (steps : List Step) :
    reported (stepsUntil accepts steps) <+: reported steps := by
  have hall : stepsUntil (fun _ => false) steps = steps := stepsUntil_eq_self fun _ _ => rfl
  have hprefix : stepsUntil accepts steps <+: stepsUntil (fun _ => false) steps :=
    stepsUntil_isPrefix (fun _ => False.elim ∘ Bool.false_ne_true) steps
  rw [hall] at hprefix
  exact hprefix.filterMap _

theorem stepsUntil_eq_of_head? {accepts : Nat → Bool} {steps : List Step}
    (h : ∀ stop, (offered steps).head? = some stop → accepts stop = true) :
    stepsUntil accepts steps = stepsUntilEnd steps := by
  induction steps with
  | nil => rfl
  | cons step rest ih =>
      cases step with
      | report event => rw [stepsUntil, ih h, stepsUntilEnd, stepsUntilEnd, stepsUntil]
      | offer stop => rw [stepsUntil, if_pos (h stop rfl), stepsUntilEnd, stepsUntil, if_pos rfl]

theorem mem_reported_flatMap {α : Type} {event : Event} {items : List α} {steps : α → List Step} :
    event ∈ reported (items.flatMap steps) ↔ ∃ item ∈ items, event ∈ reported (steps item) := by
  rw [reported, List.filterMap_flatMap, List.mem_flatMap]
  rfl

theorem mem_reported_flatMap_expand {event : Event} {further : Nat → List Step}
    {steps : List Step} (h : event ∈ reported (steps.flatMap (Step.expand further))) :
    event ∈ reported steps ∨ ∃ stop ∈ offered steps, event ∈ reported (further stop) := by
  obtain ⟨step, hmem, hevent⟩ := mem_reported_flatMap.mp h
  cases step with
  | report entry =>
      obtain rfl := List.mem_singleton.mp hevent
      exact .inl (List.mem_filterMap.mpr ⟨_, hmem, rfl⟩)
  | offer stop => exact .inr ⟨stop, List.mem_filterMap.mpr ⟨_, hmem, rfl⟩, hevent⟩

end Lists

/-! ## The steps that tokens take -/

/-- What repetitions report: each tries its steps up to the first end, and where that made way, the
next one begins there. -/
def chainReports (once : Nat → List Step) (limit pos : Nat) : List Event :=
  reported (stepsUntilEnd (once pos)) ++
    match (offered (once pos)).head? with
    | none => []
    | some stop => if _hstop : pos < stop ∧ stop ≤ limit then chainReports once limit stop else []
termination_by limit - pos

/-- The steps of as many occurrences as the quantifier allows, given those of a single one. All
repetitions are made before the first of their ends is offered. -/
def Quantifier.steps (quantifier : Quantifier) (once : Nat → List Step) (limit pos : Nat) :
    List Step :=
  match quantifier with
  | .once => once pos
  | .optional => once pos ++ [.offer pos]
  | .repeated =>
      (chainReports once limit pos).map .report ++
        (chainEnds (fun start => (offered (once start)).head?) limit pos).map .offer

mutual

/-- The steps of one occurrence. Each branch of a group is reported and then walked alone, up to the
end that it prefers. -/
def Token.Kind.steps (chars : Array Char) (kind : Token.Kind) (pos : Nat) : List Step :=
  match kind with
  | .group branches =>
      branches.flatMap fun branch =>
        .report (.branchTried branch (tokenize branch).length pos) ::
          stepsUntilEnd (matchSteps chars (tokenize branch) pos)
  | kind => if acceptedAt kind.accepts chars pos then [.offer (pos + 1)] else []
termination_by kind.weight
decreasing_by exact weight_tokenize_lt (by assumption)

def matchSteps (chars : Array Char) (tokens : List Token) (pos : Nat) : List Step :=
  match tokens with
  | [] => [.offer pos]
  | token :: rest =>
      (token.quantifier.steps (fun start => token.kind.steps chars start) chars.size pos).flatMap
        (Step.expand fun stop => matchSteps chars rest stop)
termination_by weight tokens
decreasing_by all_goals rw [weight_cons]; omega

end

def branchSteps (chars : Array Char) (branch : Text) (pos : Nat) : List Step :=
  .report (.branchTried branch (tokenize branch).length pos) ::
    stepsUntilEnd (matchSteps chars (tokenize branch) pos)

def Token.steps (chars : Array Char) (token : Token) (pos : Nat) : List Step :=
  token.quantifier.steps (token.kind.steps chars) chars.size pos

theorem matchSteps_nil (chars : Array Char) (pos : Nat) :
    matchSteps chars [] pos = [.offer pos] := by
  rw [matchSteps]

theorem matchSteps_cons (chars : Array Char) (token : Token) (rest : List Token) (pos : Nat) :
    matchSteps chars (token :: rest) pos =
      (token.steps chars pos).flatMap (Step.expand (matchSteps chars rest)) := by
  rw [matchSteps, Token.steps]

theorem Token.Kind.steps_group (chars : Array Char) (branches : List Text) (pos : Nat) :
    (Token.Kind.group branches).steps chars pos =
      branches.flatMap fun branch => branchSteps chars branch pos := by
  rw [Token.Kind.steps]
  rfl

theorem Token.Kind.steps_single (chars : Array Char) {kind : Token.Kind}
    (h : kind.isSingle = true) (pos : Nat) :
    kind.steps chars pos = (kind.ends chars pos).map .offer := by
  rw [Token.Kind.ends_single chars h]
  cases kind with
  | group branches => contradiction
  | _ =>
      rw [Token.Kind.steps]
      · split <;> rfl
      · simp

/-! ## The ends offered -/

theorem Quantifier.offered_steps (quantifier : Quantifier) (once : Nat → List Step)
    (limit pos : Nat) :
    offered (quantifier.steps once limit pos) =
      quantifier.ends (fun start => offered (once start)) limit pos := by
  cases quantifier with
  | once => rfl
  | optional => rw [steps, offered_append, ends]; rfl
  | repeated => rw [steps, offered_append, offered_map_report, offered_map_offer]; rfl

theorem Token.Kind.offered_steps_group {chars : Array Char} {branches : List Text}
    (h : ∀ branch ∈ branches, ∀ pos, offered (matchSteps chars (tokenize branch) pos) =
      matchEnds chars (tokenize branch) pos) (pos : Nat) :
    offered ((Token.Kind.group branches).steps chars pos) =
      (Token.Kind.group branches).ends chars pos := by
  rw [steps_group, ends_group]
  induction branches with
  | nil => rfl
  | cons branch rest ih =>
      obtain ⟨hbranch, hrest⟩ := List.forall_mem_cons.mp h
      rw [List.flatMap_cons, offered_append, ih hrest, branchSteps, offered_report,
        offered_stepsUntilEnd, hbranch]
      rw [List.filterMap_eq_flatMap_toList, List.filterMap_eq_flatMap_toList, List.flatMap_cons]

/-- The ends offered are those that the tokens offer, in their order of preference. -/
theorem offered_matchSteps (chars : Array Char) (tokens : List Token) (pos : Nat) :
    offered (matchSteps chars tokens pos) = matchEnds chars tokens pos := by
  induction tokens using tokens_induction fun kind =>
    ∀ pos, offered (kind.steps chars pos) = kind.ends chars pos generalizing pos with
  | single kind hsingle pos => rw [Token.Kind.steps_single chars hsingle, offered_map_offer]
  | group branches ih pos => exact Token.Kind.offered_steps_group ih pos
  | nil => rw [matchSteps_nil, matchEnds_nil]; rfl
  | cons token rest hkind ih =>
      have htoken : offered (token.steps chars pos) = token.ends chars pos := by
        rw [Token.steps, Quantifier.offered_steps, Token.ends]
        simp only [hkind]
      rw [matchSteps_cons, offered_flatMap_expand, htoken, matchEnds_cons]
      simp only [ih]

theorem chainReports_eq_nil {once : Nat → List Step} (h : ∀ start, reported (once start) = [])
    (limit pos : Nat) : chainReports once limit pos = [] := by
  fun_induction chainReports once limit pos with
  | case1 pos ih =>
      have hfirst : reported (stepsUntilEnd (once pos)) = [] :=
        List.prefix_nil.mp (h pos ▸ reported_stepsUntil_isPrefix _ (once pos))
      rw [hfirst, List.nil_append]
      split
      · rfl
      · next stop _ =>
          split
          · next honward => exact ih stop honward
          · rfl

theorem Quantifier.steps_map_offer (quantifier : Quantifier) (once : Nat → List Nat)
    (limit pos : Nat) :
    quantifier.steps (fun start => (once start).map .offer) limit pos =
      (quantifier.ends once limit pos).map .offer := by
  cases quantifier with
  | once => rfl
  | optional => rw [steps, ends, List.map_append, List.map_singleton]
  | repeated =>
      rw [steps, chainReports_eq_nil fun start => reported_map_offer (once start), ends]
      simp only [offered_map_offer, List.map_nil, List.nil_append]

theorem Token.steps_single (chars : Array Char) {token : Token}
    (h : token.kind.isSingle = true) (pos : Nat) :
    token.steps chars pos = (token.ends chars pos).map .offer := by
  have hkind : token.kind.steps chars = fun start => (token.kind.ends chars start).map .offer :=
    funext (Kind.steps_single chars h)
  rw [steps, hkind, Quantifier.steps_map_offer, ends]

theorem Token.Kind.offered_steps (chars : Array Char) (kind : Token.Kind) (pos : Nat) :
    offered (kind.steps chars pos) = kind.ends chars pos := by
  cases kind with
  | group branches =>
      exact offered_steps_group (fun branch _ => offered_matchSteps chars (tokenize branch)) pos
  | _ => rw [steps_single chars rfl, offered_map_offer]

/-! ## Carrying steps out -/

section Perform

variable {m : Type → Type} [Monad m]

/-- Carries the steps out: events are reported, and what follows is tried from each end that is
offered until it succeeds. -/
def perform (observe : Observer m) (next : Nat → OptionT m Nat) (steps : List Step) :
    OptionT m Nat :=
  match steps with
  | [] => failure
  | .report event :: rest => OptionT.lift (observe event) >>= fun _ => perform observe next rest
  | .offer stop :: rest => next stop <|> perform observe next rest

theorem perform_offers (observe : Observer m) (next : Nat → OptionT m Nat) (stops : List Nat) :
    perform observe next (stops.map .offer) = stops.firstM next := by
  induction stops with
  | nil => rfl
  | cons stop rest ih => rw [List.map_cons, perform, ih, List.firstM]

variable [LawfulMonad m] (observe : Observer m) (next : Nat → OptionT m Nat)

theorem lift_bind_orElse {α β : Type} (action : m α) (first : α → OptionT m β)
    (second : OptionT m β) :
    ((OptionT.lift action >>= first) <|> second) =
      (OptionT.lift action >>= fun a => first a <|> second) := by
  apply OptionT.ext
  simp [Option.elimM]

theorem pure_orElse {α : Type} (a : α) (second : OptionT m α) : (pure a <|> second) = pure a := by
  apply OptionT.ext
  simp

theorem perform_offer (stop : Nat) : perform observe next [.offer stop] = next stop := by
  rw [perform, perform, orElse_failure]

theorem perform_append (front back : List Step) :
    perform observe next (front ++ back) =
      (perform observe next front <|> perform observe next back) := by
  induction front with
  | nil => exact (failure_orElse _).symm
  | cons step rest ih =>
      cases step with
      | report event => rw [List.cons_append, perform, perform, ih, lift_bind_orElse]
      | offer stop => rw [List.cons_append, perform, perform, ih, orElse_assoc]

theorem perform_flatMap_expand (further : Nat → List Step) (steps : List Step) :
    perform observe next (steps.flatMap (Step.expand further)) =
      perform observe (fun stop => perform observe next (further stop)) steps := by
  induction steps with
  | nil => rfl
  | cons step rest ih =>
      rw [List.flatMap_cons, perform_append, ih]
      cases step with
      | report event =>
          rw [Step.expand, perform, perform, lift_bind_orElse, perform, failure_orElse]
      | offer stop => rw [Step.expand, perform]

theorem perform_reports (events : List Event) (rest : List Step) :
    perform observe next (events.map .report ++ rest) =
      (OptionT.lift (events.forM observe) >>= fun _ => perform observe next rest) := by
  induction events with
  | nil =>
      apply OptionT.ext
      simp
  | cons event events ih =>
      rw [List.map_cons, List.cons_append, perform, ih]
      apply OptionT.ext
      simp

theorem perform_flatMap {α : Type} (steps : α → List Step) (items : List α) :
    perform observe next (items.flatMap steps) =
      items.firstM fun item => perform observe next (steps item) := by
  induction items with
  | nil => rfl
  | cons item rest ih => rw [List.flatMap_cons, perform_append, ih, List.firstM]

/-- Who takes the first end that is offered carries out the steps up to it. -/
theorem perform_pure_bind (steps : List Step) :
    perform observe pure steps >>= next = perform observe next (stepsUntilEnd steps) := by
  induction steps with
  | nil => exact failure_bind next
  | cons step rest ih =>
      cases step with
      | report event =>
          rw [perform, bind_assoc, stepsUntilEnd, stepsUntil, perform]
          simp only [ih, stepsUntilEnd]
      | offer stop =>
          rw [perform, pure_orElse, pure_bind]
          exact (perform_offer observe next stop).symm

theorem run_perform_pure (steps : List Step) :
    (perform observe pure steps).run =
      ((reported (stepsUntilEnd steps)).forM observe >>= fun _ => pure (offered steps).head?) := by
  induction steps with
  | nil => simp [perform, stepsUntilEnd, stepsUntil]
  | cons step rest ih =>
      cases step with
      | report event =>
          rw [perform]
          simp [ih, stepsUntilEnd, stepsUntil]
      | offer stop =>
          rw [perform, pure_orElse]
          simp [stepsUntilEnd, stepsUntil]

/-! ## A walk carries out the steps -/

/-- The loop over repetitions reports what they report and collects their ends. -/
theorem repetitionEnds_eq {once : Nat → List Step} {repetition : Nat → OptionT m Nat}
    (h : ∀ start, repetition start = perform observe pure (once start)) (limit pos : Nat)
    (made : List Nat) :
    repetitionEnds repetition limit pos made =
      ((chainReports once limit pos).forM observe >>= fun _ =>
        pure (chainEnds (fun start => (offered (once start)).head?) limit pos ++ made)) := by
  fun_induction chainReports once limit pos generalizing made with
  | case1 pos ih =>
      rw [repetitionEnds, h, run_perform_pure, chainEnds]
      cases hfirst : (offered (once pos)).head? with
      | none => simp
      | some stop =>
          by_cases honward : pos < stop ∧ stop ≤ limit
          · simp [honward, ih stop honward]
          · simp [honward]

namespace Token

section Group

variable {chars : Array Char} {tryBranch : Text → Nat → OptionT m Nat} {branches : List Text}
  (hbranch : ∀ branch ∈ branches, ∀ (start : Nat) (next : Nat → OptionT m Nat),
    tryBranch branch start >>= next = perform observe next (branchSteps chars branch start))

include hbranch

theorem firstM_branches_eq_perform (start : Nat) :
    (branches.firstM fun branch => tryBranch branch start >>= next) =
      perform observe next ((Kind.group branches).steps chars start) := by
  rw [Kind.steps_group, perform_flatMap]
  exact firstM_congr fun branch hmem => hbranch branch hmem start next

theorem walk_group_eq_perform (quantifier : Quantifier) (start : Nat) :
    Token.walk tryBranch chars ⟨.group branches, quantifier⟩ start next =
      perform observe next (Token.steps chars ⟨.group branches, quantifier⟩ start) := by
  have honce := firstM_branches_eq_perform observe next hbranch start
  unfold walk steps Quantifier.steps
  cases quantifier with
  | once => exact honce
  | optional =>
      dsimp only
      rw [honce, perform_append, perform_offer]
  | repeated =>
      have hrepetition : ∀ start, firstBranchEnd tryBranch branches start =
          perform observe pure ((Kind.group branches).steps chars start) := by
        intro start
        rw [← firstM_branches_eq_perform observe pure hbranch start, firstBranchEnd]
        exact firstM_congr fun branch _ => (bind_pure _).symm
      dsimp only
      rw [repetitionEnds_eq observe hrepetition, List.append_nil, perform_reports, perform_offers]
      apply OptionT.ext
      simp

end Group

end Token

/-- Whoever observes a walk and whatever follows it, it is the steps carried out. -/
theorem walk_eq_perform (chars : Array Char) (tokens : List Token) (pos : Nat) :
    walk (branchEnd observe chars) chars tokens pos next =
      perform observe next (matchSteps chars tokens pos) := by
  induction tokens using tokens_induction fun kind =>
    ∀ (quantifier : Quantifier) (pos : Nat) (next : Nat → OptionT m Nat),
      Token.walk (branchEnd observe chars) chars ⟨kind, quantifier⟩ pos next =
        perform observe next (Token.steps chars ⟨kind, quantifier⟩ pos)
    generalizing pos next with
  | single kind hsingle quantifier start next =>
      rw [Token.walk_of_isSingle _ chars hsingle, Token.steps_single chars hsingle, perform_offers,
        Token.charEnds_eq_ends chars hsingle]
  | group branches ih quantifier start next =>
      apply Token.walk_group_eq_perform
      intro branch hmem start next
      have hwalk := ih branch hmem pure start
      rw [branchEnd_eq, bind_assoc, branchSteps, perform]
      simp only [hwalk, perform_pure_bind]
  | nil => rw [matchSteps_nil, perform_offer, walk]
  | cons token rest hkind ih =>
      rw [walk, hkind, matchSteps_cons, perform_flatMap_expand]
      simp only [ih]

end Perform

end LineSearch
