import LineSearch.Proofs.Search.Preference

/-!
# Every match comes to an end

The walk along a line recurs in two ways that no text bounds by itself: a branch is read and matched
as a pattern of its own at the same position, and a repeated group goes on as long as it makes way.
The definitions carry bounds for both. Here the work of a match is described without any bound, as
tasks that are done by doing other tasks (`Returns`), so a match that went on for ever would return
nothing. Every task returns exactly one result, and for a match it is what the bounded definition
computes (`matching_terminates`): texts get shorter by two characters from a group to its branches,
and repetitions that make way come to the end of the line.
-/

namespace LineSearch

/-! ## Tasks -/

/-- What is to be done next in a match. If an end is required, the whole must end there. -/
inductive Task where
  /-- Match the tokens from the position on. -/
  | sequence (tokens : List Token) (pos : Nat) (required : Option Nat)
  /-- Match the tokens from the first of the positions where that succeeds. -/
  | anyEnd (starts : List Nat) (tokens : List Token) (required : Option Nat)
  /-- Match the first of the branches behind which the tokens match, and the tokens. -/
  | anyBranch (branches : List Text) (pos : Nat) (tokens : List Token) (required : Option Nat)
  /-- Repeat the branches from the position on, where repetitions with the given ends were made, the
  last one first; then match the tokens behind the last repetition where that succeeds. -/
  | repetitions (branches : List Text) (pos : Nat) (made : List Nat) (tokens : List Token)
      (required : Option Nat)

/-- The task returns the result, the end of a match or none, by doing what it consists of in order.
A task that does not come to an end returns nothing. -/
inductive Returns (chars : Array Char) : Task → Option Nat → Prop
  -- sequences, by the kind and the quantifier of the first token
  | finished {pos : Nat} {required : Option Nat} :
      Returns chars (.sequence [] pos required)
        (if required.all (· == pos) then some pos else none)
  | single {token : Token} {rest : List Token} {pos : Nat} {required result : Option Nat} :
      token.kind.isSingle = true →
      Returns chars (.anyEnd (token.charEnds chars pos) rest required) result →
      Returns chars (.sequence (token :: rest) pos required) result
  | group {branches : List Text} {rest : List Token} {pos : Nat} {required result : Option Nat} :
      Returns chars (.anyBranch branches pos rest required) result →
      Returns chars (.sequence (⟨.group branches, .once⟩ :: rest) pos required) result
  | optionalTaken {branches : List Text} {rest : List Token} {pos stop : Nat}
      {required : Option Nat} :
      Returns chars (.anyBranch branches pos rest required) (some stop) →
      Returns chars (.sequence (⟨.group branches, .optional⟩ :: rest) pos required) (some stop)
  | optionalLeft {branches : List Text} {rest : List Token} {pos : Nat}
      {required result : Option Nat} :
      Returns chars (.anyBranch branches pos rest required) none →
      Returns chars (.sequence rest pos required) result →
      Returns chars (.sequence (⟨.group branches, .optional⟩ :: rest) pos required) result
  | repeated {branches : List Text} {rest : List Token} {pos : Nat} {required result : Option Nat} :
      Returns chars (.repetitions branches pos [] rest required) result →
      Returns chars (.sequence (⟨.group branches, .repeated⟩ :: rest) pos required) result
  -- one position after the other
  | noEnd {tokens : List Token} {required : Option Nat} :
      Returns chars (.anyEnd [] tokens required) none
  | endAccepted {start stop : Nat} {others : List Nat} {tokens : List Token}
      {required : Option Nat} :
      Returns chars (.sequence tokens start required) (some stop) →
      Returns chars (.anyEnd (start :: others) tokens required) (some stop)
  | endRejected {start : Nat} {others : List Nat} {tokens : List Token}
      {required result : Option Nat} :
      Returns chars (.sequence tokens start required) none →
      Returns chars (.anyEnd others tokens required) result →
      Returns chars (.anyEnd (start :: others) tokens required) result
  -- one branch after the other, each matched alone and with no required end
  | noBranch {pos : Nat} {tokens : List Token} {required : Option Nat} :
      Returns chars (.anyBranch [] pos tokens required) none
  | branchFails {branch : Text} {others : List Text} {pos : Nat} {tokens : List Token}
      {required result : Option Nat} :
      Returns chars (.sequence (tokenize branch) pos none) none →
      Returns chars (.anyBranch others pos tokens required) result →
      Returns chars (.anyBranch (branch :: others) pos tokens required) result
  | branchAccepted {branch : Text} {others : List Text} {pos middle stop : Nat}
      {tokens : List Token} {required : Option Nat} :
      Returns chars (.sequence (tokenize branch) pos none) (some middle) →
      Returns chars (.sequence tokens middle required) (some stop) →
      Returns chars (.anyBranch (branch :: others) pos tokens required) (some stop)
  | branchRejected {branch : Text} {others : List Text} {pos middle : Nat} {tokens : List Token}
      {required result : Option Nat} :
      Returns chars (.sequence (tokenize branch) pos none) (some middle) →
      Returns chars (.sequence tokens middle required) none →
      Returns chars (.anyBranch others pos tokens required) result →
      Returns chars (.anyBranch (branch :: others) pos tokens required) result
  -- the loop over repetitions, which nothing but its own progress stops
  | repetitionFails {branches : List Text} {pos : Nat} {made : List Nat} {tokens : List Token}
      {required result : Option Nat} :
      Returns chars (.anyBranch branches pos [] none) none →
      Returns chars (.anyEnd made tokens required) result →
      Returns chars (.repetitions branches pos made tokens required) result
  | repetitionStays {branches : List Text} {pos : Nat} {made : List Nat} {tokens : List Token}
      {required result : Option Nat} :
      Returns chars (.anyBranch branches pos [] none) (some pos) →
      Returns chars (.anyEnd (pos :: made) tokens required) result →
      Returns chars (.repetitions branches pos made tokens required) result
  | repetitionAdvances {branches : List Text} {pos stop : Nat} {made : List Nat}
      {tokens : List Token} {required result : Option Nat} :
      Returns chars (.anyBranch branches pos [] none) (some stop) → stop ≠ pos →
      Returns chars (.repetitions branches stop (stop :: made) tokens required) result →
      Returns chars (.repetitions branches pos made tokens required) result

def Task.value (chars : Array Char) : Task → Option Nat
  | .sequence tokens pos required => matchAt? chars pos tokens 0 required
  | .anyEnd starts tokens required =>
      starts.findSome? fun start => matchAt? chars start tokens 0 required
  | .anyBranch branches pos tokens required =>
      ((Token.Kind.group branches).ends chars pos).findSome? fun start =>
        matchAt? chars start tokens 0 required
  | .repetitions branches pos made tokens required =>
      (Token.ends chars ⟨.group branches, .repeated⟩ pos ++ made).findSome? fun start =>
        matchAt? chars start tokens 0 required

/-! ## What the bounded definitions compute -/

namespace Task

variable (chars : Array Char) (pos : Nat) (tokens rest : List Token) (required : Option Nat)
  (branches : List Text)

theorem value_sequence_nil :
    value chars (.sequence [] pos required) =
      if required.all (· == pos) then some pos else none := by
  rw [value, matchAt?_eq_find?, List.drop_nil, matchEnds_nil, List.find?_singleton]

theorem value_sequence_cons (token : Token) :
    value chars (.sequence (token :: rest) pos required) =
      value chars (.anyEnd (token.ends chars pos) rest required) := by
  simp only [value, matchAt?_eq_find?, List.drop_zero, matchEnds_cons, List.find?_flatMap]

theorem value_group :
    value chars (.sequence (⟨.group branches, .once⟩ :: rest) pos required) =
      value chars (.anyBranch branches pos rest required) := by
  rw [value_sequence_cons]
  rfl

theorem value_optional :
    value chars (.sequence (⟨.group branches, .optional⟩ :: rest) pos required) =
      (value chars (.anyBranch branches pos rest required)).or
        (value chars (.sequence rest pos required)) := by
  rw [value_sequence_cons]
  simp only [value, Token.ends, Quantifier.ends, List.findSome?_append, List.findSome?_singleton]

theorem value_repeated :
    value chars (.sequence (⟨.group branches, .repeated⟩ :: rest) pos required) =
      value chars (.repetitions branches pos [] rest required) := by
  rw [value_sequence_cons]
  simp only [value, List.append_nil]

theorem value_anyEnd_cons (start : Nat) (others : List Nat) :
    value chars (.anyEnd (start :: others) tokens required) =
      (value chars (.sequence tokens start required)).or
        (value chars (.anyEnd others tokens required)) := by
  simp only [value, List.findSome?_cons]
  cases matchAt? chars start tokens 0 required with
  | none => rfl
  | some stop => rfl

theorem value_anyBranch_nil : value chars (.anyBranch [] pos tokens required) = none := by
  rw [value, Token.Kind.ends_group]
  rfl

theorem value_anyBranch_cons (branch : Text) (others : List Text) :
    value chars (.anyBranch (branch :: others) pos tokens required) =
      ((value chars (.sequence (tokenize branch) pos none)).bind fun middle =>
        value chars (.sequence tokens middle required)).or
          (value chars (.anyBranch others pos tokens required)) := by
  have hbranch : value chars (.sequence (tokenize branch) pos none) =
      (matchEnds chars (tokenize branch) pos).head? := matchAt?_none chars pos _ 0
  simp only [value, Token.Kind.ends_group, findSome?_filterMap, List.findSome?_cons] at hbranch ⊢
  rw [hbranch]
  cases (matchEnds chars (tokenize branch) pos).head?.bind fun middle =>
    matchAt? chars middle tokens 0 required with
  | none => rfl
  | some stop => rfl

/-- A repetition takes the first end, as nothing stands behind it. -/
theorem value_anyBranch_alone :
    value chars (.anyBranch branches pos [] none) =
      ((Token.Kind.group branches).ends chars pos).head? := by
  have hnil : ∀ start, matchAt? chars start [] 0 none = some start :=
    fun start => value_sequence_nil chars start none
  simp only [value, hnil]
  exact findSome?_pure _

theorem value_repetitions (made : List Nat) :
    value chars (.repetitions branches pos made tokens required) =
      match value chars (.anyBranch branches pos [] none) with
      | none => value chars (.anyEnd made tokens required)
      | some stop =>
          if stop = pos then value chars (.anyEnd (pos :: made) tokens required)
          else value chars (.repetitions branches stop (stop :: made) tokens required) := by
  have hchain := chainEnds_eq ((Token.Kind.group branches).ends_advances chars) pos
  rw [value_anyBranch_alone]
  simp only [value, Token.ends, Quantifier.ends]
  rw [hchain]
  cases ((Token.Kind.group branches).ends chars pos).head? with
  | none => rfl
  | some stop =>
      dsimp only
      split
      · rfl
      · rw [List.append_assoc]
        rfl

end Task

/-! ## A result is what the bounded definitions compute -/

theorem Returns.eq_value {chars : Array Char} {task : Task} {result : Option Nat}
    (h : Returns chars task result) : result = task.value chars := by
  induction h with
  | finished => exact (Task.value_sequence_nil ..).symm
  | single hsingle _ ih =>
      rw [Task.value_sequence_cons, ← Token.charEnds_eq_ends _ hsingle, ih]
  | group _ ih => rw [Task.value_group, ih]
  | optionalTaken _ ih => rw [Task.value_optional, ← ih, Option.some_or]
  | optionalLeft _ _ ihgroup ihrest => rw [Task.value_optional, ← ihgroup, ← ihrest, Option.none_or]
  | repeated _ ih => rw [Task.value_repeated, ih]
  | noEnd => rfl
  | endAccepted _ ih => rw [Task.value_anyEnd_cons, ← ih, Option.some_or]
  | endRejected _ _ ihfirst ihothers =>
      rw [Task.value_anyEnd_cons, ← ihfirst, ← ihothers, Option.none_or]
  | noBranch => exact (Task.value_anyBranch_nil ..).symm
  | branchFails _ _ ihbranch ihothers =>
      rw [Task.value_anyBranch_cons, ← ihbranch, ← ihothers, Option.bind_none, Option.none_or]
  | branchAccepted _ _ ihbranch ihrest =>
      rw [Task.value_anyBranch_cons, ← ihbranch, Option.bind_some, ← ihrest, Option.some_or]
  | branchRejected _ _ _ ihbranch ihrest ihothers =>
      rw [Task.value_anyBranch_cons, ← ihbranch, Option.bind_some, ← ihrest, ← ihothers,
        Option.none_or]
  | repetitionFails _ _ ihgroup ihrest => rw [Task.value_repetitions, ← ihgroup, ihrest]
  | repetitionStays _ _ ihgroup ihrest =>
      rw [Task.value_repetitions, ← ihgroup, ihrest]
      exact (if_pos rfl).symm
  | repetitionAdvances _ hadvances _ ihgroup ihrest =>
      rw [Task.value_repetitions, ← ihgroup, ihrest]
      exact (if_neg hadvances).symm

/-! ## Every task returns -/

section Rest

variable {chars : Array Char} {tokens : List Token} {required : Option Nat}
  (hrest : ∀ pos, Returns chars (.sequence tokens pos required)
    (Task.value chars (.sequence tokens pos required)))

include hrest

theorem returns_anyEnd (starts : List Nat) :
    Returns chars (.anyEnd starts tokens required)
      (Task.value chars (.anyEnd starts tokens required)) := by
  induction starts with
  | nil => exact .noEnd
  | cons start others ih =>
      have hfirst := hrest start
      rw [Task.value_anyEnd_cons]
      cases hvalue : Task.value chars (.sequence tokens start required) with
      | none =>
          rw [hvalue] at hfirst
          exact .endRejected hfirst ih
      | some stop =>
          rw [hvalue] at hfirst
          exact .endAccepted hfirst

variable {branches : List Text}
  (hbranches : ∀ branch ∈ branches, ∀ pos, Returns chars (.sequence (tokenize branch) pos none)
    (Task.value chars (.sequence (tokenize branch) pos none)))

include hbranches

theorem returns_anyBranch (pos : Nat) :
    Returns chars (.anyBranch branches pos tokens required)
      (Task.value chars (.anyBranch branches pos tokens required)) := by
  induction branches with
  | nil =>
      rw [Task.value_anyBranch_nil]
      exact .noBranch
  | cons branch others ih =>
      obtain ⟨hbranch, hothers⟩ := List.forall_mem_cons.mp hbranches
      have hfirst := hbranch pos
      rw [Task.value_anyBranch_cons]
      cases hvalue : Task.value chars (.sequence (tokenize branch) pos none) with
      | none =>
          rw [hvalue] at hfirst
          exact .branchFails hfirst (ih hothers)
      | some middle =>
          rw [hvalue] at hfirst
          have hbehind := hrest middle
          rw [Option.bind_some]
          cases hlast : Task.value chars (.sequence tokens middle required) with
          | none =>
              rw [hlast] at hbehind
              exact .branchRejected hfirst hbehind (ih hothers)
          | some stop =>
              rw [hlast] at hbehind
              exact .branchAccepted hfirst hbehind

theorem returns_repetitions (pos : Nat) (made : List Nat) :
    Returns chars (.repetitions branches pos made tokens required)
      (Task.value chars (.repetitions branches pos made tokens required)) := by
  -- what is left of the line gets shorter, as a repetition that makes way stays on it
  induction hleft : chars.size - pos using Nat.strongRecOn generalizing pos made with
  | ind left ih =>
      -- a repetition is a group with nothing behind it
      have hnothing : ∀ pos, Returns chars (.sequence [] pos none)
          (Task.value chars (.sequence [] pos none)) := by
        intro pos
        rw [Task.value_sequence_nil]
        exact .finished
      have hrepetition := returns_anyBranch hnothing hbranches pos
      rw [Task.value_repetitions]
      cases hvalue : Task.value chars (.anyBranch branches pos [] none) with
      | none =>
          rw [hvalue] at hrepetition
          exact .repetitionFails hrepetition (returns_anyEnd hrest made)
      | some stop =>
          rw [hvalue] at hrepetition
          rw [Task.value_anyBranch_alone] at hvalue
          have hbounds := ((Token.Kind.group branches).ends_advances chars).of_head? hvalue
          by_cases hstays : stop = pos
          · subst hstays
            dsimp only
            rw [if_pos rfl]
            exact .repetitionStays hrepetition (returns_anyEnd hrest (stop :: made))
          · dsimp only
            rw [if_neg hstays]
            exact .repetitionAdvances hrepetition hstays
              (ih (chars.size - stop) (by omega) stop (stop :: made) rfl)

end Rest

theorem returns_sequence (chars : Array Char) (tokens : List Token) (pos : Nat)
    (required : Option Nat) :
    Returns chars (.sequence tokens pos required)
      (Task.value chars (.sequence tokens pos required)) := by
  induction tokens using tokens_induction fun kind =>
    ∀ (quantifier : Quantifier) (rest : List Token) (required : Option Nat),
      (∀ pos, Returns chars (.sequence rest pos required)
        (Task.value chars (.sequence rest pos required))) →
      ∀ pos, Returns chars (.sequence (⟨kind, quantifier⟩ :: rest) pos required)
        (Task.value chars (.sequence (⟨kind, quantifier⟩ :: rest) pos required))
    generalizing pos required with
  | single kind hsingle quantifier rest required hrest pos =>
      rw [Task.value_sequence_cons, ← Token.charEnds_eq_ends chars hsingle]
      exact .single hsingle (returns_anyEnd hrest _)
  | group branches ih quantifier rest required hrest pos =>
      have hbranches := fun branch hmem pos => ih branch hmem pos none
      have hgroup := returns_anyBranch hrest hbranches pos
      cases quantifier with
      | once =>
          rw [Task.value_group]
          exact .group hgroup
      | optional =>
          rw [Task.value_optional]
          cases hvalue : Task.value chars (.anyBranch branches pos rest required) with
          | none =>
              rw [hvalue] at hgroup
              exact .optionalLeft hgroup (hrest pos)
          | some stop =>
              rw [hvalue] at hgroup
              exact .optionalTaken hgroup
      | repeated =>
          rw [Task.value_repeated]
          exact .repeated (returns_repetitions hrest hbranches pos [])
  | nil =>
      rw [Task.value_sequence_nil]
      exact .finished
  | cons token rest hkind ih => exact hkind token.quantifier rest required (ih · required) pos

/-- The one result of a match is the end that is computed for it. -/
theorem returns_iff_eq_matchAt? {chars : Array Char} {tokens : List Token} {pos index : Nat}
    {required result : Option Nat} :
    Returns chars (.sequence (tokens.drop index) pos required) result ↔
      result = matchAt? chars pos tokens index required := by
  have hvalue : Task.value chars (.sequence (tokens.drop index) pos required) =
      matchAt? chars pos tokens index required := rfl
  constructor
  · intro h
    exact h.eq_value.trans hvalue
  · rintro rfl
    exact hvalue ▸ returns_sequence chars (tokens.drop index) pos required

/-! ## Repetitions -/

/-- The ends of repetitions that are made from a position on until none is possible or one stays
where it began, in the order in which they are made. -/
inductive Repeats (first : Nat → Option Nat) : Nat → List Nat → Prop
  | fails {pos : Nat} : first pos = none → Repeats first pos []
  | stays {pos : Nat} : first pos = some pos → Repeats first pos [pos]
  | advances {pos stop : Nat} {ends : List Nat} :
      first pos = some stop → stop ≠ pos → Repeats first stop ends →
      Repeats first pos (stop :: ends)

/-- Repetitions with these ends come to the end of the line: each begins where the one before it
ended and makes way, but for the last one, which may stay where it began. -/
structure MakesWay (limit pos : Nat) (ends : List Nat) : Prop where
  count : ends.length ≤ limit - pos + 1
  advances : (pos :: ends.dropLast).IsChain (· < ·)
  last : (pos :: ends).IsChain (· ≤ ·)
  inside : ∀ stop ∈ ends, stop ≤ max pos limit

section Repetitions

variable {once : Nat → List Nat} {limit : Nat} (h : Advances limit once)

include h

theorem repeats_reverse_chainEnds (pos : Nat) :
    Repeats (fun start => (once start).head?) pos
      (chainEnds (fun start => (once start).head?) limit pos).reverse := by
  fun_induction chainEnds (fun start => (once start).head?) limit pos with
  | case1 pos hnone => exact .fails hnone
  | case2 pos stop hstop honward ih =>
      rw [List.reverse_append]
      exact .advances hstop (by omega) ih
  | case3 pos stop hstop hstuck =>
      have hbounds := h.of_head? hstop
      obtain rfl : stop = pos := by omega
      exact .stays hstop

theorem Repeats.makesWay {pos : Nat} {ends : List Nat}
    (hrepeats : Repeats (fun start => (once start).head?) pos ends) : MakesWay limit pos ends := by
  induction hrepeats with
  | fails hnone => exact ⟨Nat.zero_le _, .singleton _, .singleton _, nofun⟩
  | @stays pos hstop =>
      refine ⟨Nat.le_add_left 1 _, .singleton pos, .cons_cons (Nat.le_refl pos) (.singleton pos), ?_⟩
      intro stop hmem
      rw [List.mem_singleton.mp hmem]
      exact Nat.le_max_left pos limit
  | @advances pos stop ends hstop hmoved _ ih =>
      have hbounds := h.of_head? hstop
      have hless : pos < stop := by omega
      have hcount := ih.count
      refine ⟨?_, ?_, .cons_cons (Nat.le_of_lt hless) ih.last, ?_⟩
      · rw [List.length_cons]
        omega
      · cases ends with
        | nil => exact .singleton pos
        | cons next ends => exact .cons_cons hless ih.advances
      · intro last hmem
        rcases List.mem_cons.mp hmem with rfl | hlater
        · exact hbounds.2
        · have hinside := ih.inside last hlater
          omega

end Repetitions

/-- The texts of branches get ever shorter from a group to the groups inside. -/
theorem wellFounded_branches :
    WellFounded fun branch pattern : Text => ∃ token ∈ tokenize pattern, branch ∈ token.branches := by
  refine Subrelation.wf ?_ (measure List.length).wf
  rintro branch pattern ⟨token, hmem, hbranch⟩
  have hshorter := length_branch_of_mem_tokenize hmem branch hbranch
  show branch.length < pattern.length
  omega

/-- Every match comes to exactly one result, the one that is computed for it, though nothing but the
work itself bounds it. It goes from a group to ever shorter texts, as a branch is at least two
characters shorter than the pattern it was read from. And the loop over the repetitions of a group
comes to an end, as every repetition but the last makes way and none leaves the line. -/
theorem matching_terminates (chars : Array Char) :
    (∀ tokens pos index required result,
      Returns chars (.sequence (tokens.drop index) pos required) result ↔
        result = matchAt? chars pos tokens index required) ∧
    (∀ pattern, ∀ token ∈ tokenize pattern, ∀ branch ∈ token.branches,
      branch.length + 2 ≤ pattern.length) ∧
    WellFounded (fun branch pattern : Text =>
      ∃ token ∈ tokenize pattern, branch ∈ token.branches) ∧
    ∀ branches pos, ∃ ends,
      Repeats (fun start =>
        (firstBranchEnd (branchEnd Observer.silent chars) branches start).run.run) pos ends ∧
      (repetitionEnds (firstBranchEnd (branchEnd Observer.silent chars) branches) chars.size pos
        []).run = ends.reverse ∧
      MakesWay chars.size pos ends := by
  refine ⟨fun _ _ _ _ _ => returns_iff_eq_matchAt?, fun _ _ => length_branch_of_mem_tokenize,
    wellFounded_branches, ?_⟩
  intro branches pos
  have hadvances := (Token.Kind.group branches).ends_advances chars
  have hrepeats := repeats_reverse_chainEnds hadvances pos
  have hfirst : ∀ start, (firstBranchEnd (branchEnd Observer.silent chars) branches start).run.run =
      ((Token.Kind.group branches).ends chars start).head? :=
    Token.run_firstBranchEnd chars fun branch _ start => run_branchEnd chars branch start
  refine ⟨_, ?_, ?_, hrepeats.makesWay hadvances⟩
  · simpa only [hfirst] using hrepeats
  · rw [run_repetitionEnds, List.append_nil, List.reverse_reverse]
    simp only [hfirst]

/-- A group whose first branch is empty is repeated once and stays where it began. -/
theorem matching_terminates_of_empty_branch :
    ⟨.group [[], ['a']], .repeated⟩ ∈ tokenize ['(', '|', 'a', ')', '+'] ∧
      ['a'] ∈ (Token.mk (.group [[], ['a']]) .repeated).branches ∧
      ['a'].length + 2 ≤ ['(', '|', 'a', ')', '+'].length ∧
      Returns #['a'] (.sequence [⟨.group [[], ['a']], .repeated⟩] 0 none) (some 0) := by
  have hmem : ⟨.group [[], ['a']], .repeated⟩ ∈ tokenize ['(', '|', 'a', ')', '+'] := by
    decide +kernel
  have hbranch : ['a'] ∈ (Token.mk (.group [[], ['a']]) .repeated).branches := by decide
  obtain ⟨hreturns, hshorter, -, -⟩ := matching_terminates #['a']
  refine ⟨hmem, hbranch, hshorter _ _ hmem _ hbranch, ?_⟩
  exact (hreturns [⟨.group [[], ['a']], .repeated⟩] 0 0 none (some 0)).mpr (by decide +kernel)

end LineSearch
