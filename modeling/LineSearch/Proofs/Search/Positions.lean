import LineSearch.Proofs.Search.Found
import LineSearch.Proofs.Token.Scanning

/-!
# Matching by position

A match as a machine carries it out moves an index along the tokens and a position along the line,
cuts out the rest of the line to count a run of characters, and scans the text of a branch whenever
it tries it. Every operation is checked here (`checkedMatchAt`). The index comes to the same tokens
as taking one after the other off (`checkedWalk_eq`), and as a character is only taken where one
stands, no sum leaves the line (`Token.checkedEnds_eq`). What is left are the scans of the branches,
which meet no fault unless a branch is too long for its groups to be counted
(`agrees_checkedMatchAt`). The position and the index a match is given may lie anywhere.
-/

namespace LineSearch

open Checked

/-! ## The operations of a match -/

/-- The positions where a token that takes single characters may end, the farthest first. The rest
of the line is only cut out for repetitions behind which there is a character. -/
def Token.checkedEnds (token : Token) (chars : Array Char) (pos : Nat) : Checked (List Nat) :=
  if acceptedAt token.accepts chars pos then
    match token.quantifier with
    | .once => do return [← advance chars.size pos 1]
    | .optional => do return [← advance chars.size pos 1, pos]
    | .repeated => do
        require (pos < chars.size) .slice
        let rest ← slice chars pos chars.size
        let count := (rest.takeWhile token.accepts).length
        (List.range' 1 count).reverse.mapM (advance chars.size pos)
  else
    match token.quantifier with
    | .optional => return [pos]
    | .once | .repeated => return []

def Token.checkedWalk (tryBranch : Text → Nat → OptionT Checked Nat) (chars : Array Char)
    (token : Token) (pos : Nat) (next : Nat → OptionT Checked Nat) : OptionT Checked Nat :=
  match token.kind with
  | .group _ => token.walk tryBranch chars pos next
  | _ => OptionT.lift (token.checkedEnds chars pos) >>= (·.firstM next)

def checkedWalk (tryBranch : Text → Nat → OptionT Checked Nat) (chars : Array Char)
    (tokens : List Token) (index pos : Nat) (finish : Nat → OptionT Checked Nat) :
    OptionT Checked Nat :=
  if _hindex : index < tokens.length then
    tokens[index].checkedWalk tryBranch chars pos fun stop => do
      OptionT.lift (require (index + 1 ≤ tokens.length) .overflow)
      checkedWalk tryBranch chars tokens (index + 1) stop finish
  else
    finish pos
termination_by tokens.length - index

def checkedBranchEnd (chars : Array Char) (branch : Text) (pos : Nat) : OptionT Checked Nat := do
  let tokens ← OptionT.lift (Scan.tokens branch.toArray 0)
  checkedWalk
    (fun inner start =>
      if _hshorter : inner.length < branch.length then checkedBranchEnd chars inner start
      else OptionT.lift (throw .standstill))
    chars tokens 0 pos pure
termination_by branch.length

def checkedMatchAt (chars : Array Char) (pos : Nat) (tokens : List Token) (index : Nat)
    (required : Option Nat) : Checked (Option Nat) :=
  (checkedWalk (checkedBranchEnd chars) chars tokens index pos fun stop =>
    if required.all (· == stop) then pure stop else failure).run

/-! ## Operations without faults -/

section SingleCharacters

variable (chars : Array Char)

theorem runEnd_eq (accepts : Char → Bool) (pos : Nat) :
    runEnd accepts chars pos =
      pos + ((segment chars pos chars.size).takeWhile accepts).length := by
  fun_induction runEnd accepts chars pos with
  | case1 pos hinside haccepts ih =>
      rw [ih, segment_cons hinside hinside, List.takeWhile_cons_of_pos haccepts, List.length_cons]
      omega
  | case2 pos hinside haccepts =>
      rw [segment_cons hinside hinside, List.takeWhile_cons_of_neg haccepts]
      rfl
  | case3 pos houtside =>
      rw [segment_of_size_le _ (Nat.le_of_not_lt houtside)]
      rfl

theorem runEnd_of_not_accepted {accepts : Char → Bool} {pos : Nat}
    (h : ¬ acceptedAt accepts chars pos = true) : runEnd accepts chars pos = pos := by
  rw [runEnd]
  split
  · next hinside =>
      have hnot : accepts chars[pos] = false := by simpa [acceptedAt, hinside] using h
      rw [hnot, if_neg Bool.false_ne_true]
  · rfl

theorem mapM_advance {last pos : Nat} {counts : List Nat}
    (h : ∀ count ∈ counts, pos + count ≤ last) :
    counts.mapM (advance last pos) = pure (counts.map (pos + ·)) := by
  induction counts with
  | nil => rfl
  | cons count rest ih =>
      obtain ⟨hcount, hrest⟩ := List.forall_mem_cons.mp h
      rw [List.mapM_cons, advance_of_le hcount, ih hrest]
      rfl

theorem Token.checkedEnds_eq (token : Token) (pos : Nat) :
    token.checkedEnds chars pos = pure (token.charEnds chars pos) := by
  unfold checkedEnds charEnds
  by_cases haccepted : acceptedAt token.accepts chars pos = true
  · have hinside := lt_size_of_acceptedAt haccepted
    have hadvance : advance chars.size pos 1 = pure (pos + 1) := advance_of_le hinside
    rw [if_pos haccepted, if_pos haccepted, if_pos haccepted]
    cases token.quantifier with
    | once | optional =>
        dsimp only
        rw [hadvance, pure_bind]
    | repeated =>
        have hrun := runEnd_eq chars token.accepts pos
        have hlength : ((segment chars pos chars.size).takeWhile token.accepts).length ≤
            (segment chars pos chars.size).length := (List.takeWhile_sublist _).length_le
        rw [length_segment (Nat.le_refl _)] at hlength
        dsimp only
        rw [require_of hinside, pure_bind, slice_of_le (Nat.le_of_lt hinside) (Nat.le_refl _),
          pure_bind, mapM_advance, List.map_reverse, List.map_add_range', hrun,
          Nat.add_sub_cancel_left]
        intro count hcount
        rw [List.mem_reverse, List.mem_range'_1] at hcount
        omega
  · rw [if_neg haccepted, if_neg haccepted, if_neg haccepted]
    cases token.quantifier with
    | once | optional => rfl
    | repeated =>
        dsimp only
        rw [runEnd_of_not_accepted chars haccepted, Nat.sub_self]
        rfl

end SingleCharacters

theorem lift_pure_bind {α β : Type} (a : α) (next : α → OptionT Checked β) :
    OptionT.lift (pure a) >>= next = next a := by
  apply OptionT.ext
  simp

section Walks

variable (tryBranch : Text → Nat → OptionT Checked Nat) (chars : Array Char)

theorem Token.checkedWalk_eq (token : Token) :
    token.checkedWalk tryBranch chars = token.walk tryBranch chars := by
  funext pos next
  unfold checkedWalk
  split
  · rfl
  · next kind hkind =>
      have hsingle : token.kind.isSingle = true := by
        cases hgroup : token.kind with
        | group branches => exact absurd hgroup (hkind branches)
        | _ => rfl
      rw [checkedEnds_eq, lift_pure_bind, walk_of_isSingle tryBranch chars hsingle]

/-- Moving an index along the tokens meets no fault and comes to the same as taking one after the
other off them. -/
theorem checkedWalk_eq (tokens : List Token) (index pos : Nat)
    (finish : Nat → OptionT Checked Nat) :
    checkedWalk tryBranch chars tokens index pos finish =
      walk tryBranch chars (tokens.drop index) pos finish := by
  fun_induction checkedWalk tryBranch chars tokens index pos finish with
  | case1 index pos hmore ih =>
      rw [List.drop_eq_getElem_cons hmore, walk, Token.checkedWalk_eq]
      simp only [ih, require_of (Nat.succ_le_of_lt hmore), lift_pure_bind]
  | case2 index pos hend =>
      rw [List.drop_eq_nil_of_le (Nat.le_of_not_lt hend), walk]

end Walks

/-! ## Branches -/

section Branches

variable {deep : Prop} {chars : Array Char}

/-- Where the text of a branch is no shorter than the largest number of open groups, scanning it may
run out of numbers; its own branches are shorter. -/
theorem agrees_checkedBranchEnd {branch : Text} {pos : Nat} {value : Option Nat}
    (hdeep : 2 ^ 31 ≤ branch.length → deep)
    (h : Agrees deep (walk (checkedBranchEnd chars) chars (tokenize branch) pos pure).run value) :
    Agrees deep (checkedBranchEnd chars branch pos).run value := by
  have hscan : Agrees deep (Scan.tokens branch.toArray 0) (tokenize branch) := by
    apply (Scan.agrees_tokens 0 (standsAt_zero branch)).mono
    rwa [List.size_toArray]
  rw [checkedBranchEnd]
  apply agrees_lift_bind hscan
  rw [checkedWalk_eq, List.drop_zero]
  have hsame : ∀ token ∈ tokenize branch, ∀ inner ∈ token.branches,
      (fun start =>
        if _hshorter : inner.length < branch.length then checkedBranchEnd chars inner start
        else OptionT.lift (throw .standstill)) = checkedBranchEnd chars inner := by
    intro token htoken inner hinner
    have hshorter := length_branch_of_mem_tokenize htoken inner hinner
    funext start
    rw [dif_pos (by omega)]
  rw [walk_congr hsame]
  exact h

theorem agrees_repetitionEnds {repetition : Nat → OptionT Checked Nat} {once : Nat → Option Nat}
    (h : ∀ start, Agrees deep (repetition start).run (once start)) (limit pos : Nat)
    (made : List Nat) :
    Agrees deep (repetitionEnds repetition limit pos made) (chainEnds once limit pos ++ made) := by
  fun_induction chainEnds once limit pos generalizing made with
  | case1 pos hnone =>
      rw [repetitionEnds]
      apply (h pos).bind
      rw [hnone]
      exact agrees_pure made
  | case2 pos stop hstop honward ih =>
      rw [repetitionEnds, List.append_assoc]
      apply (h pos).bind
      rw [hstop]
      dsimp only
      rw [dif_pos honward]
      exact ih (stop :: made)
  | case3 pos stop hstop hstuck =>
      rw [repetitionEnds]
      apply (h pos).bind
      rw [hstop]
      dsimp only
      rw [dif_neg hstuck]
      exact agrees_pure (stop :: made)

section Groups

variable {tryBranch : Text → Nat → OptionT Checked Nat} {branches : List Text}
  (hbranch : ∀ branch ∈ branches, ∀ start,
    Agrees deep (tryBranch branch start).run (matchEnds chars (tokenize branch) start).head?)

include hbranch

theorem agrees_firstM_branches (start : Nat) {next : Nat → OptionT Checked Nat}
    {result : Nat → Option Nat} (hnext : ∀ stop, Agrees deep (next stop).run (result stop)) :
    Agrees deep (branches.firstM fun branch => tryBranch branch start >>= next).run
      (((Token.Kind.group branches).ends chars start).findSome? result) := by
  rw [Token.Kind.ends_group, findSome?_filterMap]
  apply agrees_firstM
  intro branch hmem
  exact (hbranch branch hmem start).andThen hnext

theorem agrees_firstBranchEnd (start : Nat) :
    Agrees deep (firstBranchEnd tryBranch branches start).run
      ((Token.Kind.group branches).ends chars start).head? := by
  have hfirst := agrees_firstM_branches hbranch start agrees_run_pure
  have hhead : ((Token.Kind.group branches).ends chars start).findSome? some =
      ((Token.Kind.group branches).ends chars start).head? := findSome?_pure _
  rw [hhead] at hfirst
  simpa only [firstBranchEnd, bind_pure] using hfirst

theorem agrees_walk_group (quantifier : Quantifier) (start : Nat)
    {next : Nat → OptionT Checked Nat} {result : Nat → Option Nat}
    (hnext : ∀ stop, Agrees deep (next stop).run (result stop)) :
    Agrees deep (Token.walk tryBranch chars ⟨.group branches, quantifier⟩ start next).run
      ((Token.ends chars ⟨.group branches, quantifier⟩ start).findSome? result) := by
  have honce := agrees_firstM_branches hbranch start hnext
  unfold Token.walk Token.ends Quantifier.ends
  cases quantifier with
  | once => exact honce
  | optional =>
      dsimp only
      rw [List.findSome?_append, List.findSome?_singleton]
      exact honce.orElse (hnext start)
  | repeated =>
      have hends := agrees_repetitionEnds (agrees_firstBranchEnd hbranch) chars.size start []
      rw [List.append_nil] at hends
      exact agrees_lift_bind hends (agrees_firstM fun stop _ => hnext stop)

end Groups

/-- No operation of a walk meets a fault, unless a branch below the tokens is too long. -/
theorem agrees_walk {tokens : List Token} (pos : Nat) {next : Nat → OptionT Checked Nat}
    {result : Nat → Option Nat} (hnext : ∀ stop, Agrees deep (next stop).run (result stop))
    (hdeep : ∀ token ∈ tokens, ∀ branch ∈ token.branches, 2 ^ 31 ≤ branch.length → deep) :
    Agrees deep (walk (checkedBranchEnd chars) chars tokens pos next).run
      ((matchEnds chars tokens pos).findSome? result) := by
  induction tokens using tokens_induction fun kind =>
    ∀ (quantifier : Quantifier) (pos : Nat) (next : Nat → OptionT Checked Nat)
      (result : Nat → Option Nat), (∀ stop, Agrees deep (next stop).run (result stop)) →
      (∀ branch ∈ (Token.mk kind quantifier).branches, 2 ^ 31 ≤ branch.length → deep) →
      Agrees deep (Token.walk (checkedBranchEnd chars) chars ⟨kind, quantifier⟩ pos next).run
        ((Token.ends chars ⟨kind, quantifier⟩ pos).findSome? result)
    generalizing pos next result with
  | single kind hsingle quantifier start next result hnext _ =>
      rw [Token.walk_of_isSingle _ chars hsingle, Token.charEnds_eq_ends chars hsingle]
      exact agrees_firstM fun stop _ => hnext stop
  | group branches ih quantifier start next result hnext hdeep =>
      apply agrees_walk_group _ quantifier start hnext
      intro branch hmem start
      have hinners : ∀ token ∈ tokenize branch, ∀ inner ∈ token.branches,
          2 ^ 31 ≤ inner.length → deep := by
        intro token htoken inner hinner hlong
        have hshorter := length_branch_of_mem_tokenize htoken inner hinner
        exact hdeep branch hmem (by omega)
      have hwalk := ih branch hmem start agrees_run_pure hinners
      have hhead : (matchEnds chars (tokenize branch) start).findSome? some =
          (matchEnds chars (tokenize branch) start).head? := findSome?_pure _
      rw [hhead] at hwalk
      exact agrees_checkedBranchEnd (hdeep branch hmem) hwalk
  | nil =>
      rw [matchEnds_nil, walk, List.findSome?_singleton]
      exact hnext pos
  | cons token rest hkind ih =>
      obtain ⟨hbranches, hrest⟩ := List.forall_mem_cons.mp hdeep
      rw [matchEnds_cons, walk, findSome?_flatMap]
      exact hkind token.quantifier pos _ _ (fun stop => ih stop hnext hrest) hbranches

end Branches

/-- A branch of one of the tokens is so long that the groups open in it may be too many to count. -/
def HasLongBranch (tokens : List Token) : Prop :=
  ∃ token ∈ tokens, ∃ branch ∈ token.branches, 2 ^ 31 ≤ branch.length

/-- Wherever a match begins, whatever the tokens and the index are, no operation of it meets a
fault, unless a branch among the tokens is too long. -/
theorem agrees_checkedMatchAt (chars : Array Char) (pos : Nat) (tokens : List Token) (index : Nat)
    (required : Option Nat) :
    Agrees (HasLongBranch tokens) (checkedMatchAt chars pos tokens index required)
      (matchAt? chars pos tokens index required) := by
  rw [checkedMatchAt, checkedWalk_eq, matchAt?_eq_find?, ← List.findSome?_guard]
  apply agrees_walk
  · intro stop
    rw [Option.guard]
    split
    · exact agrees_run_pure stop
    · exact agrees_failure
  · intro token htoken branch hbranch hlong
    exact ⟨token, List.mem_of_mem_drop htoken, branch, hbranch, hlong⟩

end LineSearch
