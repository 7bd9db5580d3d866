import LineSearch.Proofs.Search.Ends
import LineSearch.Search.Span
import Mathlib.Data.List.Basic

/-!
# Walking takes the first end that goes on

A walk tries the ends of one token after the other and gives each of them to what follows. Here the
walk that nobody observes is compared with the list of ends: it is the first success of what follows
among them (`run_walk`), a branch prefers the head of its list (`run_branchEnd`), and a match at a
position is the first end that the required end allows (`matchAt?_eq_find?`).
-/

namespace LineSearch

/-! ## Choice and sequence without an observer -/

section Unobserved

variable {α β γ : Type}

theorem run_orElse (first second : OptionT Id β) :
    (first <|> second).run.run = first.run.run.or second.run.run := by
  cases hfirst : first.run.run with
  | none => simp [Option.elimM, hfirst]
  | some b => simp [Option.elimM, hfirst]

theorem run_bind (first : OptionT Id α) (next : α → OptionT Id β) :
    (first >>= next).run.run = first.run.run.bind fun a => (next a).run.run := by
  cases hfirst : first.run.run with
  | none => simp [Option.elimM, hfirst]
  | some a => simp [Option.elimM, hfirst]

theorem run_lift_bind (first : Id α) (next : α → OptionT Id β) :
    (OptionT.lift first >>= next).run.run = (next first.run).run.run := rfl

theorem run_firstM (next : α → OptionT Id β) (items : List α) :
    (items.firstM next).run.run = items.findSome? fun item => (next item).run.run := by
  induction items with
  | nil => rfl
  | cons item rest ih =>
      rw [List.firstM, run_orElse, ih, List.findSome?_cons]
      cases (next item).run.run with
      | none => rfl
      | some b => rfl

theorem findSome?_filterMap (f : α → Option β) (g : β → Option γ) (items : List α) :
    (items.filterMap f).findSome? g = items.findSome? fun item => (f item).bind g := by
  rw [← List.head?_filterMap, List.filterMap_filterMap, List.head?_filterMap]

theorem findSome?_flatMap (f : α → List β) (g : β → Option γ) (items : List α) :
    (items.flatMap f).findSome? g = items.findSome? fun item => (f item).findSome? g := by
  rw [← List.head?_filterMap, List.filterMap_flatMap, List.head?_flatMap]
  simp only [List.head?_filterMap]

theorem findSome?_congr {f g : α → Option β} {items : List α}
    (h : ∀ item ∈ items, f item = g item) : items.findSome? f = items.findSome? g := by
  rw [← List.head?_filterMap, ← List.head?_filterMap, List.filterMap_congr h]

theorem findSome?_pure (items : List α) :
    (items.findSome? fun item => (pure item : OptionT Id α).run.run) = items.head? := by
  cases items with
  | nil => rfl
  | cons item rest => rfl

end Unobserved

/-! ## Single characters -/

theorem le_runEnd (accepts : Char → Bool) (chars : Array Char) (pos : Nat) :
    pos ≤ runEnd accepts chars pos := by
  fun_induction runEnd accepts chars pos with
  | case1 pos hinside haccepts ih => omega
  | case2 pos hinside haccepts => exact Nat.le_refl pos
  | case3 pos houtside => exact Nat.le_refl pos

namespace Token

theorem walk_of_isSingle {m : Type → Type} [Monad m] (tryBranch : Text → Nat → OptionT m Nat)
    (chars : Array Char) {token : Token} (hsingle : token.kind.isSingle = true) (pos : Nat)
    (next : Nat → OptionT m Nat) :
    token.walk tryBranch chars pos next = (token.charEnds chars pos).firstM next := by
  unfold walk
  split
  · next branches hkind =>
      rw [hkind] at hsingle
      contradiction
  · rfl

/-- Counting a run and giving characters back one at a time offers the ends of repetitions. -/
theorem reverse_run_eq_chainEnds (accepts : Char → Bool) (chars : Array Char) (pos : Nat) :
    (List.range' (pos + 1) (runEnd accepts chars pos - pos)).reverse =
      chainEnds (fun start => if acceptedAt accepts chars start then some (start + 1) else none)
        chars.size pos := by
  fun_induction runEnd accepts chars pos with
  | case1 pos hinside haccepts ih =>
      have hstep : acceptedAt accepts chars pos = true := by simp [acceptedAt, hinside, haccepts]
      have honward : pos < pos + 1 ∧ pos + 1 ≤ chars.size := by omega
      have hcount : runEnd accepts chars (pos + 1) - pos =
          runEnd accepts chars (pos + 1) - (pos + 1) + 1 := by
        have hle := le_runEnd accepts chars (pos + 1)
        omega
      rw [chainEnds, hcount, List.range'_succ, List.reverse_cons, ih]
      simp [hstep, honward]
  | case2 pos hinside haccepts =>
      rw [chainEnds]
      simp [acceptedAt, hinside, haccepts]
  | case3 pos houtside =>
      rw [chainEnds]
      simp [acceptedAt, houtside]

theorem charEnds_eq_ends (chars : Array Char) {token : Token} (hsingle : token.kind.isSingle = true)
    (pos : Nat) : token.charEnds chars pos = token.ends chars pos := by
  have honce : ∀ start, token.kind.ends chars start =
      if acceptedAt token.accepts chars start then [start + 1] else [] :=
    Kind.ends_single chars hsingle
  unfold charEnds ends Quantifier.ends
  cases token.quantifier with
  | once => rw [honce]
  | optional =>
      rw [honce]
      cases acceptedAt token.accepts chars pos <;> rfl
  | repeated =>
      dsimp only
      rw [reverse_run_eq_chainEnds]
      congr 1
      funext start
      rw [honce]
      cases acceptedAt token.accepts chars start <;> simp

end Token

/-! ## Groups -/

/-- The loop over repetitions collects their ends in front of those it was given. -/
theorem run_repetitionEnds (repetition : Nat → OptionT Id Nat) (limit pos : Nat) (made : List Nat) :
    (repetitionEnds repetition limit pos made).run =
      chainEnds (fun start => (repetition start).run.run) limit pos ++ made := by
  fun_induction chainEnds (fun start => (repetition start).run.run) limit pos generalizing made with
  | case1 pos hnone =>
      rw [repetitionEnds]
      simp [hnone]
  | case2 pos stop hstop honward ih =>
      rw [repetitionEnds]
      simp [hstop, honward, ih]
  | case3 pos stop hstop hstuck =>
      rw [repetitionEnds]
      simp [hstop, hstuck]

namespace Token

variable {tryBranch : Text → Nat → OptionT Id Nat} (chars : Array Char) {branches : List Text}
  (hbranch : ∀ branch ∈ branches, ∀ start,
    (tryBranch branch start).run.run = (matchEnds chars (tokenize branch) start).head?)

include hbranch

theorem findSome?_branches {β : Type} (g : Nat → Option β) (start : Nat) :
    (branches.findSome? fun branch => (tryBranch branch start).run.run.bind g) =
      ((Kind.group branches).ends chars start).findSome? g := by
  rw [Kind.ends_group, findSome?_filterMap]
  apply findSome?_congr
  intro branch hmem
  rw [hbranch branch hmem]

theorem run_firstBranchEnd (start : Nat) :
    (firstBranchEnd tryBranch branches start).run.run =
      ((Kind.group branches).ends chars start).head? := by
  rw [firstBranchEnd, run_firstM, ← findSome?_pure, ← findSome?_branches chars hbranch]
  simp

theorem run_walk_group (quantifier : Quantifier) (start : Nat) (next : Nat → OptionT Id Nat) :
    (Token.walk tryBranch chars ⟨.group branches, quantifier⟩ start next).run.run =
      (Token.ends chars ⟨.group branches, quantifier⟩ start).findSome? fun stop =>
        (next stop).run.run := by
  have honce : ∀ start, (branches.firstM fun branch => tryBranch branch start >>= next).run.run =
      ((Kind.group branches).ends chars start).findSome? fun stop => (next stop).run.run := by
    intro start
    rw [run_firstM, ← findSome?_branches chars hbranch]
    simp only [run_bind]
  unfold walk ends Quantifier.ends
  cases quantifier with
  | once => exact honce start
  | optional =>
      dsimp only
      rw [run_orElse, honce, List.findSome?_append, List.findSome?_singleton]
  | repeated =>
      dsimp only
      rw [run_lift_bind, run_firstM, run_repetitionEnds, List.append_nil]
      simp only [run_firstBranchEnd chars hbranch]

end Token

/-! ## Sequences -/

/-- What follows is given the ends one after the other, and the first that it goes on from is
taken. -/
theorem run_walk (chars : Array Char) (tokens : List Token) (pos : Nat)
    (finish : Nat → OptionT Id Nat) :
    (walk (branchEnd Observer.silent chars) chars tokens pos finish).run.run =
      (matchEnds chars tokens pos).findSome? fun stop => (finish stop).run.run := by
  induction tokens using tokens_induction fun kind =>
    ∀ (quantifier : Quantifier) (pos : Nat) (next : Nat → OptionT Id Nat),
      (Token.walk (branchEnd Observer.silent chars) chars ⟨kind, quantifier⟩ pos next).run.run =
        (Token.ends chars ⟨kind, quantifier⟩ pos).findSome? fun stop => (next stop).run.run
    generalizing pos finish with
  | single kind hsingle quantifier start next =>
      rw [Token.walk_of_isSingle _ chars hsingle, run_firstM, Token.charEnds_eq_ends chars hsingle]
  | group branches ih quantifier start next =>
      have hbranch : ∀ branch ∈ branches, ∀ start,
          (branchEnd Observer.silent chars branch start).run.run =
            (matchEnds chars (tokenize branch) start).head? := by
        intro branch hmem start
        rw [branchEnd_eq, run_lift_bind]
        exact (ih branch hmem start pure).trans (findSome?_pure _)
      exact Token.run_walk_group chars hbranch quantifier start next
  | nil =>
      rw [matchEnds_nil, walk]
      simp
  | cons token rest hkind ih =>
      rw [matchEnds_cons, walk, hkind, findSome?_flatMap]
      simp only [ih]

/-- A branch that is matched alone prefers the first of its ends. -/
theorem run_branchEnd (chars : Array Char) (branch : Text) (pos : Nat) :
    (branchEnd Observer.silent chars branch pos).run.run =
      (matchEnds chars (tokenize branch) pos).head? := by
  rw [branchEnd_eq, run_lift_bind, run_walk]
  exact findSome?_pure _

/-- A match takes the first end that is the required one, or the first of all. -/
theorem matchAt?_eq_find? (chars : Array Char) (pos : Nat) (tokens : List Token) (index : Nat)
    (required : Option Nat) :
    matchAt? chars pos tokens index required =
      (matchEnds chars (tokens.drop index) pos).find? fun stop => required.all (· == stop) := by
  rw [matchAt?, matchAtM, run_walk, ← List.findSome?_guard]
  rfl

theorem all_beq_eq_true_iff {required : Option Nat} {stop : Nat} :
    required.all (· == stop) = true ↔ ∀ last, required = some last → stop = last := by
  cases required with
  | none => simp
  | some last =>
      simp only [Option.all_some, beq_iff_eq, Option.some.injEq, forall_eq']
      exact eq_comm

theorem matchAt?_eq_some {chars : Array Char} {pos : Nat} {tokens : List Token} {index stop : Nat}
    {required : Option Nat} (h : matchAt? chars pos tokens index required = some stop) :
    stop ∈ matchEnds chars (tokens.drop index) pos ∧ ∀ last, required = some last → stop = last := by
  rw [matchAt?_eq_find?] at h
  have hrequired : required.all (· == stop) = true := by simpa using List.find?_some h
  exact ⟨List.mem_of_find?_eq_some h, all_beq_eq_true_iff.mp hrequired⟩

theorem matchAt?_isSome_iff {chars : Array Char} {pos : Nat} {tokens : List Token} {index : Nat}
    {required : Option Nat} :
    (matchAt? chars pos tokens index required).isSome = true ↔
      ∃ stop ∈ matchEnds chars (tokens.drop index) pos, ∀ last, required = some last → stop = last := by
  rw [matchAt?_eq_find?, List.find?_isSome]
  simp only [all_beq_eq_true_iff]

theorem matchAt?_none (chars : Array Char) (pos : Nat) (tokens : List Token) (index : Nat) :
    matchAt? chars pos tokens index none = (matchEnds chars (tokens.drop index) pos).head? := by
  rw [matchAt?_eq_find?]
  cases matchEnds chars (tokens.drop index) pos <;> simp

theorem matchAt?_some (chars : Array Char) (pos : Nat) (tokens : List Token) (index stop : Nat) :
    matchAt? chars pos tokens index (some stop) =
      if stop ∈ matchEnds chars (tokens.drop index) pos then some stop else none := by
  cases hmatch : matchAt? chars pos tokens index (some stop) with
  | none =>
      have habsent : stop ∉ matchEnds chars (tokens.drop index) pos := by
        intro hmem
        have hsome := matchAt?_isSome_iff.mpr ⟨stop, hmem, fun last h => Option.some.inj h⟩
        simp [hmatch] at hsome
      rw [if_neg habsent]
  | some other =>
      obtain ⟨hmem, hlast⟩ := matchAt?_eq_some hmatch
      obtain rfl := hlast stop rfl
      rw [if_pos hmem]

/-- One list of ends, made without regard to any required end, decides every match: without a
required end its head is taken, and with one, that end if it is in the list. The last part says what
the list holds for repetitions, where the definition bounds the positions: whatever a kind offers
first, a repetition that stays where it began is the last, and behind any other the next begins. -/
theorem matchAt?_decided_by_ends (chars : Array Char) (pos : Nat) (tokens : List Token)
    (index : Nat) :
    matchAt? chars pos tokens index none = (matchEnds chars (tokens.drop index) pos).head? ∧
      (∀ stop, matchAt? chars pos tokens index (some stop) =
        if stop ∈ matchEnds chars (tokens.drop index) pos then some stop else none) ∧
      ∀ (kind : Token.Kind) (start : Nat),
        Token.ends chars ⟨kind, .repeated⟩ start =
          match (kind.ends chars start).head? with
          | none => []
          | some stop =>
              if stop = start then [start]
              else Token.ends chars ⟨kind, .repeated⟩ stop ++ [stop] := by
  refine ⟨matchAt?_none chars pos tokens index, matchAt?_some chars pos tokens index, ?_⟩
  intro kind start
  exact chainEnds_eq (kind.ends_advances chars) start

end LineSearch
