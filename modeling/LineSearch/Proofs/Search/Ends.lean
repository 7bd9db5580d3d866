import LineSearch.Proofs.Token.Nesting
import LineSearch.Search.Walk
import Mathlib.Logic.Relation

/-!
# The ends that tokens offer

Every match of a sequence of tokens from a position has an end, and the ends come in one order of
preference that depends on nothing behind the sequence. `matchEnds` lists them without walking: a
kind lists the ends of a single occurrence, `Quantifier.ends` makes of them the ends of a token, and
a sequence concatenates, over the ends of its first token, the ends of the rest from there. No end
lies before the position or behind the line (`matchEnds_advances`), so repetitions make progress
until they stop, and `chainEnds_eq` gives them without the bound that their definition carries.
-/

namespace LineSearch

/-! ## Repetitions -/

/-- The ends of one or more repetitions, the farthest first: each begins where the one before it
ended, and one that makes no way is the last. -/
def chainEnds (first : Nat → Option Nat) (limit pos : Nat) : List Nat :=
  match first pos with
  | none => []
  | some stop =>
      if _hstop : pos < stop ∧ stop ≤ limit then chainEnds first limit stop ++ [stop] else [stop]
termination_by limit - pos

def Quantifier.ends (quantifier : Quantifier) (once : Nat → List Nat) (limit pos : Nat) :
    List Nat :=
  match quantifier with
  | .once => once pos
  | .optional => once pos ++ [pos]
  | .repeated => chainEnds (fun start => (once start).head?) limit pos

/-! ## Kinds and sequences -/

mutual

/-- The ends of one occurrence: of a group, what each of its branches prefers when it is matched
alone, the earlier branches first. -/
def Token.Kind.ends (chars : Array Char) (kind : Token.Kind) (pos : Nat) : List Nat :=
  match kind with
  | .group branches => branches.filterMap fun branch => (matchEnds chars (tokenize branch) pos).head?
  | kind => if acceptedAt kind.accepts chars pos then [pos + 1] else []
termination_by kind.weight
decreasing_by exact weight_tokenize_lt (by assumption)

/-- The ends of the tokens one after the other, in order of preference. -/
def matchEnds (chars : Array Char) (tokens : List Token) (pos : Nat) : List Nat :=
  match tokens with
  | [] => [pos]
  | token :: rest =>
      (token.quantifier.ends (fun start => token.kind.ends chars start) chars.size pos).flatMap
        fun stop => matchEnds chars rest stop
termination_by weight tokens
decreasing_by all_goals rw [weight_cons]; omega

end

def Token.ends (chars : Array Char) (token : Token) (pos : Nat) : List Nat :=
  token.quantifier.ends (token.kind.ends chars) chars.size pos

@[simp] theorem matchEnds_nil (chars : Array Char) (pos : Nat) : matchEnds chars [] pos = [pos] := by
  rw [matchEnds]

theorem matchEnds_cons (chars : Array Char) (token : Token) (rest : List Token) (pos : Nat) :
    matchEnds chars (token :: rest) pos =
      (token.ends chars pos).flatMap (matchEnds chars rest) := by
  rw [matchEnds, Token.ends]

theorem matchEnds_singleton (chars : Array Char) (token : Token) (pos : Nat) :
    matchEnds chars [token] pos = token.ends chars pos := by
  have hnil : matchEnds chars [] = fun stop => [stop] := funext (matchEnds_nil chars)
  rw [matchEnds_cons, hnil, List.flatMap_singleton']

theorem Token.Kind.ends_group (chars : Array Char) (branches : List Text) (pos : Nat) :
    (Token.Kind.group branches).ends chars pos =
      branches.filterMap fun branch => (matchEnds chars (tokenize branch) pos).head? := by
  rw [Token.Kind.ends]

theorem Token.Kind.ends_group_append (chars : Array Char) (branches further : List Text)
    (pos : Nat) :
    (Token.Kind.group (branches ++ further)).ends chars pos =
      (Token.Kind.group branches).ends chars pos ++
        (Token.Kind.group further).ends chars pos := by
  rw [ends_group, ends_group, ends_group, List.filterMap_append]

theorem Token.Kind.ends_single (chars : Array Char) {kind : Token.Kind}
    (h : kind.isSingle = true) (pos : Nat) :
    kind.ends chars pos = if acceptedAt kind.accepts chars pos then [pos + 1] else [] := by
  cases kind with
  | group branches => contradiction
  | _ => rw [Token.Kind.ends]; simp

/-! ## Which ends are offered -/

section Membership

variable {chars : Array Char} {pos stop : Nat}

theorem mem_matchEnds_nil : stop ∈ matchEnds chars [] pos ↔ stop = pos := by
  rw [matchEnds_nil, List.mem_singleton]

theorem mem_matchEnds_cons {token : Token} {rest : List Token} :
    stop ∈ matchEnds chars (token :: rest) pos ↔
      ∃ middle ∈ token.ends chars pos, stop ∈ matchEnds chars rest middle := by
  rw [matchEnds_cons, List.mem_flatMap]

theorem Token.Kind.mem_ends_group {branches : List Text} :
    stop ∈ (Token.Kind.group branches).ends chars pos ↔
      ∃ branch ∈ branches, (matchEnds chars (tokenize branch) pos).head? = some stop := by
  rw [Token.Kind.ends_group, List.mem_filterMap]

theorem Token.Kind.mem_ends_single {kind : Token.Kind} (hsingle : kind.isSingle = true) :
    stop ∈ kind.ends chars pos ↔ acceptedAt kind.accepts chars pos = true ∧ stop = pos + 1 := by
  rw [Token.Kind.ends_single chars hsingle]
  cases acceptedAt kind.accepts chars pos <;> simp

theorem Quantifier.mem_ends_optional {once : Nat → List Nat} {limit : Nat} :
    stop ∈ Quantifier.optional.ends once limit pos ↔ stop ∈ once pos ∨ stop = pos := by
  rw [Quantifier.ends, List.mem_append, List.mem_singleton]

end Membership

/-! ## No end lies before the position or behind the line -/

/-- Every end lies between the position it is offered from and the limit, which only a position
behind the limit already passes. -/
def Advances (limit : Nat) (ends : Nat → List Nat) : Prop :=
  ∀ pos, ∀ stop ∈ ends pos, pos ≤ stop ∧ stop ≤ max pos limit

theorem Advances.of_head? {limit pos stop : Nat} {ends : Nat → List Nat} (h : Advances limit ends)
    (hfirst : (ends pos).head? = some stop) : pos ≤ stop ∧ stop ≤ max pos limit :=
  h pos stop (List.mem_of_mem_head? hfirst)

section Chain

variable {once : Nat → List Nat} {limit : Nat} (h : Advances limit once)

include h

/-- Repetitions without the bound: as long as one makes way, the next begins where it ended. -/
theorem chainEnds_eq (pos : Nat) :
    chainEnds (fun start => (once start).head?) limit pos =
      match (once pos).head? with
      | none => []
      | some stop =>
          if stop = pos then [pos]
          else chainEnds (fun start => (once start).head?) limit stop ++ [stop] := by
  rw [chainEnds]
  cases hfirst : (once pos).head? with
  | none => rfl
  | some stop =>
      have hbounds := h.of_head? hfirst
      by_cases hstop : stop = pos
      · simp [hstop]
      · have honward : pos < stop ∧ stop ≤ limit := by omega
        simp [hstop, honward]

/-- The ends of repetitions are what one or more of them reach. -/
theorem mem_chainEnds_iff (pos stop : Nat) :
    stop ∈ chainEnds (fun start => (once start).head?) limit pos ↔
      Relation.TransGen (fun start stop => (once start).head? = some stop) pos stop := by
  constructor
  · intro hmem
    fun_induction chainEnds (fun start => (once start).head?) limit pos with
    | case1 pos hnone => contradiction
    | case2 pos middle hmiddle honward ih =>
        rcases List.mem_append.mp hmem with hlater | hlast
        · exact .head hmiddle (ih hlater)
        · obtain rfl := List.mem_singleton.mp hlast
          exact .single hmiddle
    | case3 pos middle hmiddle hstuck =>
        obtain rfl := List.mem_singleton.mp hmem
        exact .single hmiddle
  · intro hreach
    induction hreach using Relation.TransGen.head_induction_on with
    | single hstep =>
        rw [chainEnds_eq h, hstep]
        dsimp only
        split <;> simp_all
    | @head pos middle hstep hrest ih =>
        rw [chainEnds_eq h, hstep]
        dsimp only
        by_cases hstuck : middle = pos
        · subst hstuck
          rw [chainEnds_eq h, hstep] at ih
          simpa using ih
        · rw [if_neg hstuck]
          exact List.mem_append_left _ ih

theorem Quantifier.ends_advances (quantifier : Quantifier) :
    Advances limit (quantifier.ends once limit) := by
  intro pos stop hmem
  cases quantifier with
  | once => exact h pos stop hmem
  | optional =>
      rcases mem_ends_optional.mp hmem with honce | rfl
      · exact h pos stop honce
      · omega
  | repeated =>
      induction (mem_chainEnds_iff h pos stop).mp hmem with
      | single hstep => exact h.of_head? hstep
      | tail _ hstep ih =>
          have hlast := h.of_head? hstep
          have hbefore := ih ((mem_chainEnds_iff h pos _).mpr ‹_›)
          omega

end Chain

theorem acceptedAt_iff {accepts : Char → Bool} {chars : Array Char} {pos : Nat} :
    acceptedAt accepts chars pos = true ↔ ∃ c, chars[pos]? = some c ∧ accepts c = true := by
  rw [acceptedAt, Option.any_eq_true]

theorem lt_size_of_acceptedAt {accepts : Char → Bool} {chars : Array Char} {pos : Nat}
    (h : acceptedAt accepts chars pos = true) : pos < chars.size := by
  obtain ⟨c, hc, -⟩ := acceptedAt_iff.mp h
  exact (Array.getElem?_eq_some_iff.mp hc).1

/-- The matches of any tokens from a position end at it or between it and the end of the line. -/
theorem matchEnds_advances (chars : Array Char) (tokens : List Token) :
    Advances chars.size (matchEnds chars tokens) := by
  induction tokens using tokens_induction fun kind => Advances chars.size (kind.ends chars) with
  | single kind hsingle =>
      intro pos stop hmem
      obtain ⟨haccepted, rfl⟩ := (Token.Kind.mem_ends_single hsingle).mp hmem
      have hinside := lt_size_of_acceptedAt haccepted
      omega
  | group branches ih =>
      intro pos stop hmem
      obtain ⟨branch, hbranch, hfirst⟩ := Token.Kind.mem_ends_group.mp hmem
      exact (ih branch hbranch).of_head? hfirst
  | nil =>
      intro pos stop hmem
      obtain rfl := mem_matchEnds_nil.mp hmem
      omega
  | cons token rest hkind ih =>
      intro pos stop hmem
      obtain ⟨middle, hmiddle, hstop⟩ := mem_matchEnds_cons.mp hmem
      have hfirst := token.quantifier.ends_advances hkind pos middle hmiddle
      have hrest := ih middle stop hstop
      omega

theorem Token.Kind.ends_advances (chars : Array Char) (kind : Token.Kind) :
    Advances chars.size (kind.ends chars) := by
  intro pos stop hmem
  apply matchEnds_advances chars [⟨kind, .once⟩] pos stop
  rwa [matchEnds_singleton]

theorem Token.ends_advances (chars : Array Char) (token : Token) :
    Advances chars.size (token.ends chars) :=
  token.quantifier.ends_advances (token.kind.ends_advances chars)

end LineSearch
