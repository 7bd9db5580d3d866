import LineSearch.Proofs.Search.Preference
import LineSearch.Proofs.Text.Segment
import Mathlib.Data.List.Lex
import Mathlib.Order.Bounds.Basic

/-!
# Without groups the first token takes as much as it can

A sequence of single characters shares the line out: each token takes some of the characters, as
many as its quantifier allows, and the next begins behind them. A match is one such sharing. Of all
that there are it is the one whose counts come last in the lexicographic order, so the first token
takes as many characters as it can without spoiling the match, then the second, and so on
(`match_is_greatest_sharing`).
-/

namespace LineSearch

/-! ## Sharing characters out -/

def Quantifier.Allows : Quantifier → Nat → Prop
  | .once, count => count = 1
  | .optional, count => count ≤ 1
  | .repeated, count => 1 ≤ count

def Covers (accepts : Char → Bool) (chars : Array Char) (start stop : Nat) : Prop :=
  stop ≤ chars.size ∧ ∀ c ∈ segment chars start stop, accepts c = true

/-- From a position on, each token in turn takes as many characters as its count says. -/
inductive Shares (chars : Array Char) : List Token → Nat → List Nat → Prop
  | nil {pos : Nat} : Shares chars [] pos []
  | cons {token : Token} {rest : List Token} {pos count : Nat} {counts : List Nat} :
      token.quantifier.Allows count → Covers token.accepts chars pos (pos + count) →
      Shares chars rest (pos + count) counts → Shares chars (token :: rest) pos (count :: counts)

/-- The counts with which the tokens share the characters out and end where they must. -/
def validCounts (chars : Array Char) (tokens : List Token) (pos : Nat) (required : Option Nat) :
    Set (List Nat) :=
  {counts | Shares chars tokens pos counts ∧ ∀ last, required = some last → pos + counts.sum = last}

/-! ## One token -/

section OneToken

variable {chars : Array Char} {pos : Nat}

theorem covers_self (accepts : Char → Bool) (hpos : pos ≤ chars.size) :
    Covers accepts chars pos pos := by
  refine ⟨hpos, ?_⟩
  rw [segment_self]
  exact List.forall_mem_nil _

theorem covers_cons_iff {accepts : Char → Bool} (hinside : pos < chars.size) {stop : Nat}
    (h : pos < stop) :
    Covers accepts chars pos stop ↔
      accepts chars[pos] = true ∧ Covers accepts chars (pos + 1) stop := by
  unfold Covers
  rw [segment_cons hinside h, List.forall_mem_cons]
  exact and_left_comm

theorem covers_succ_iff {accepts : Char → Bool} :
    Covers accepts chars pos (pos + 1) ↔ acceptedAt accepts chars pos = true := by
  by_cases hinside : pos < chars.size
  · rw [covers_cons_iff hinside (Nat.lt_succ_self pos)]
    simp [acceptedAt, hinside, covers_self accepts (Nat.succ_le_of_lt hinside)]
  · exact iff_of_false (fun h => hinside h.1) fun h => hinside (lt_size_of_acceptedAt h)

/-- A run reaches as far as all characters are accepted. -/
theorem le_runEnd_iff {accepts : Char → Bool} (hpos : pos ≤ chars.size) {stop : Nat}
    (hstop : pos ≤ stop) : stop ≤ runEnd accepts chars pos ↔ Covers accepts chars pos stop := by
  fun_induction runEnd accepts chars pos with
  | case1 pos hinside haccepts ih =>
      rcases Nat.eq_or_lt_of_le hstop with rfl | hlater
      · have hreach := le_runEnd accepts chars (pos + 1)
        exact iff_of_true (by omega) (covers_self accepts hpos)
      · rw [ih hinside hlater, covers_cons_iff hinside hlater]
        exact (and_iff_right haccepts).symm
  | case2 pos hinside haccepts =>
      rcases Nat.eq_or_lt_of_le hstop with rfl | hlater
      · exact iff_of_true (Nat.le_refl pos) (covers_self accepts hpos)
      · rw [covers_cons_iff hinside hlater]
        exact iff_of_false (Nat.not_le.mpr hlater) fun h => haccepts h.1
  | case3 pos houtside =>
      constructor
      · intro hle
        obtain rfl := Nat.le_antisymm hle hstop
        exact covers_self accepts hpos
      · intro hcovers
        have hsize := hcovers.1
        omega

theorem Token.mem_charEnds_iff {token : Token} (hpos : pos ≤ chars.size) {stop : Nat} :
    stop ∈ token.charEnds chars pos ↔ ∃ count, token.quantifier.Allows count ∧
      Covers token.accepts chars pos (pos + count) ∧ stop = pos + count := by
  unfold charEnds
  cases token.quantifier with
  | once =>
      simp only [Quantifier.Allows, exists_eq_left, covers_succ_iff]
      split <;> simp [*]
  | optional =>
      simp only [Quantifier.Allows, Nat.le_one_iff_eq_zero_or_eq_one, or_and_right, exists_or,
        exists_eq_left, Nat.add_zero, covers_self token.accepts hpos, covers_succ_iff, true_and]
      split <;> simp [*, or_comm]
  | repeated =>
      rw [List.mem_reverse, List.mem_range'_1]
      constructor
      · rintro ⟨hfirst, hlast⟩
        refine ⟨stop - pos, Nat.le_sub_of_add_le' hfirst, ?_, by omega⟩
        rw [Nat.add_sub_cancel' (by omega)]
        exact (le_runEnd_iff hpos (by omega)).mp (by omega)
      · rintro ⟨count, hcount, hcovers, rfl⟩
        have hreach := (le_runEnd_iff hpos (Nat.le_add_right pos count)).mpr hcovers
        have hcount : 1 ≤ count := hcount
        omega

theorem Token.pairwise_charEnds (token : Token) (chars : Array Char) (pos : Nat) :
    (token.charEnds chars pos).Pairwise (· > ·) := by
  unfold charEnds
  cases token.quantifier with
  | once =>
      dsimp only
      split <;> simp
  | optional =>
      dsimp only
      split <;> simp
  | repeated => exact List.pairwise_reverse.mpr (List.pairwise_lt_range' 1)

end OneToken

/-! ## Sequences -/

def sharings (chars : Array Char) (tokens : List Token) (pos : Nat) : List (List Nat) :=
  match tokens with
  | [] => [[]]
  | token :: rest =>
      (token.charEnds chars pos).flatMap fun stop =>
        (sharings chars rest stop).map fun counts => (stop - pos) :: counts

section Sequences

variable {chars : Array Char} {tokens : List Token} {pos : Nat}

theorem mem_sharings_iff (hpos : pos ≤ chars.size) {counts : List Nat} :
    counts ∈ sharings chars tokens pos ↔ Shares chars tokens pos counts := by
  induction tokens generalizing pos counts with
  | nil =>
      rw [sharings, List.mem_singleton]
      constructor
      · rintro rfl
        exact .nil
      · intro h
        cases h
        rfl
  | cons token rest ih =>
      simp only [sharings, List.mem_flatMap, List.mem_map]
      constructor
      · rintro ⟨stop, hstop, later, hlater, rfl⟩
        obtain ⟨count, hallows, hcovers, rfl⟩ := (Token.mem_charEnds_iff hpos).mp hstop
        rw [Nat.add_sub_cancel_left]
        exact .cons hallows hcovers ((ih hcovers.1).mp hlater)
      · intro h
        cases h with
        | @cons _ _ _ count later hallows hcovers hlater =>
            refine ⟨pos + count, (Token.mem_charEnds_iff hpos).mpr ⟨count, hallows, hcovers, rfl⟩,
              later, (ih hcovers.1).mpr hlater, ?_⟩
            rw [Nat.add_sub_cancel_left]

theorem le_of_mem_charEnds {token : Token} (hpos : pos ≤ chars.size) {stop : Nat}
    (h : stop ∈ token.charEnds chars pos) : pos ≤ stop ∧ stop ≤ chars.size := by
  obtain ⟨count, -, hcovers, rfl⟩ := (Token.mem_charEnds_iff hpos).mp h
  exact ⟨Nat.le_add_right pos count, hcovers.1⟩

theorem pairwise_sharings (hpos : pos ≤ chars.size) :
    (sharings chars tokens pos).Pairwise (· > ·) := by
  induction tokens generalizing pos with
  | nil => exact List.pairwise_singleton _ _
  | cons token rest ih =>
      -- where the first token takes as much, the counts behind it decide, and else the first count
      rw [sharings, List.pairwise_flatMap]
      constructor
      · intro stop hstop
        rw [List.pairwise_map]
        apply (ih (le_of_mem_charEnds hpos hstop).2).imp
        intro counts later hlater
        exact List.cons_lt_cons_iff.mpr (.inr ⟨rfl, hlater⟩)
      · apply (token.pairwise_charEnds chars pos).imp_of_mem
        intro stop earlier hstop hearlier hless counts hcounts others hothers
        obtain ⟨_, -, rfl⟩ := List.mem_map.mp hcounts
        obtain ⟨_, -, rfl⟩ := List.mem_map.mp hothers
        have hbound := (le_of_mem_charEnds hpos hearlier).1
        exact List.cons_lt_cons_iff.mpr (.inl (by omega))

/-- The ends that single characters offer are those of the sharings, in the same order. -/
theorem map_sharings (hsingle : ∀ token ∈ tokens, token.kind.isSingle = true)
    (hpos : pos ≤ chars.size) :
    (sharings chars tokens pos).map (fun counts => pos + counts.sum) =
      matchEnds chars tokens pos := by
  induction tokens generalizing pos with
  | nil =>
      rw [matchEnds_nil]
      rfl
  | cons token rest ih =>
      obtain ⟨htoken, hrest⟩ := List.forall_mem_cons.mp hsingle
      rw [matchEnds_cons, ← Token.charEnds_eq_ends chars htoken, sharings, List.map_flatMap]
      apply List.flatMap_congr
      intro stop hstop
      obtain ⟨hstart, hinside⟩ := le_of_mem_charEnds hpos hstop
      rw [← ih hrest hinside, List.map_map]
      apply List.map_congr_left
      intro counts _
      simp only [Function.comp_apply, List.sum_cons]
      omega

end Sequences

/-- The first of a falling list is the greatest. -/
theorem find?_eq_some_iff_isGreatest {α : Type} [LinearOrder α] {items : List α}
    (hfalling : items.Pairwise (· > ·)) (holds : α → Bool) (a : α) :
    items.find? holds = some a ↔ IsGreatest {item | item ∈ items ∧ holds item = true} a := by
  induction items with
  | nil => simp [IsGreatest]
  | cons first rest ih =>
      obtain ⟨hfirst, hrest⟩ := List.pairwise_cons.mp hfalling
      cases hholds : holds first with
      | true =>
          have hgreatest :
              IsGreatest {item | item ∈ first :: rest ∧ holds item = true} first := by
            refine ⟨⟨List.mem_cons_self, hholds⟩, ?_⟩
            rintro item ⟨hmem, -⟩
            rcases List.mem_cons.mp hmem with rfl | hlater
            · exact le_rfl
            · exact (hfirst item hlater).le
          rw [List.find?_cons_of_pos hholds, Option.some.injEq]
          constructor
          · rintro rfl
            exact hgreatest
          · exact hgreatest.unique
      | false =>
          have hsame : {item | item ∈ first :: rest ∧ holds item = true} =
              {item | item ∈ rest ∧ holds item = true} := by
            ext item
            constructor
            · rintro ⟨hmem, hitem⟩
              rcases List.mem_cons.mp hmem with rfl | hlater
              · rw [hholds] at hitem
                contradiction
              · exact ⟨hlater, hitem⟩
            · rintro ⟨hmem, hitem⟩
              exact ⟨List.mem_cons_of_mem first hmem, hitem⟩
          rw [List.find?_cons_of_neg (by simp [hholds]), ih hrest, hsame]

/-! ## Matches -/

theorem mem_validCounts_iff {chars : Array Char} {tokens : List Token} {pos : Nat}
    (hpos : pos ≤ chars.size) {required : Option Nat} {counts : List Nat} :
    counts ∈ validCounts chars tokens pos required ↔ counts ∈ sharings chars tokens pos ∧
      required.all (· == pos + counts.sum) = true := by
  rw [mem_sharings_iff hpos, all_beq_eq_true_iff]
  rfl

/-- Where no token is a group there is no match exactly if the tokens cannot share the characters
out, and otherwise the match ends behind the characters of the sharing that comes last in the
lexicographic order of the counts. -/
theorem match_is_greatest_sharing {tokens : List Token}
    (hsingle : ∀ token ∈ tokens, token.kind.isSingle = true) {chars : Array Char} {pos : Nat}
    (hpos : pos ≤ chars.size) (index : Nat) (required : Option Nat) :
    (matchAt? chars pos tokens index required = none ↔
      ¬ ∃ counts, counts ∈ validCounts chars (tokens.drop index) pos required) ∧
    ∀ stop, matchAt? chars pos tokens index required = some stop ↔
      ∃ counts, IsGreatest (validCounts chars (tokens.drop index) pos required) counts ∧
        stop = pos + counts.sum := by
  have hrest : ∀ token ∈ tokens.drop index, token.kind.isSingle = true :=
    fun token hmem => hsingle token (List.mem_of_mem_drop hmem)
  have hmatch : matchAt? chars pos tokens index required =
      ((sharings chars (tokens.drop index) pos).find? fun counts =>
        required.all (· == pos + counts.sum)).map fun counts => pos + counts.sum := by
    rw [matchAt?_eq_find?, ← map_sharings hrest hpos, List.find?_map]
    rfl
  have hvalid : validCounts chars (tokens.drop index) pos required =
      {counts | counts ∈ sharings chars (tokens.drop index) pos ∧
        required.all (· == pos + counts.sum) = true} :=
    Set.ext fun counts => mem_validCounts_iff hpos
  rw [hmatch]
  constructor
  · rw [Option.map_eq_none_iff, List.find?_eq_none, not_exists]
    simp only [mem_validCounts_iff hpos, not_and]
  · intro stop
    rw [Option.map_eq_some_iff, hvalid]
    apply exists_congr
    intro counts
    rw [find?_eq_some_iff_isGreatest (pairwise_sharings hpos)]
    exact and_congr_right fun _ => eq_comm

/-- The tokens `a+`, `[ab]+` and `b?` share `aabb` out from the first letter on; if the match must
end in front of the last letter, three characters are shared out, and if it must end at once, none
can be. -/
theorem match_is_greatest_sharing_of_overlapping_runs :
    (∀ token ∈ [⟨.literal 'a', .repeated⟩, ⟨.charClass ['a', 'b'] false, .repeated⟩,
        (⟨.literal 'b', .optional⟩ : Token)], token.kind.isSingle = true) ∧
      0 ≤ #['a', 'a', 'b', 'b'].size ∧
      (∃ counts, IsGreatest (validCounts #['a', 'a', 'b', 'b'] [⟨.literal 'a', .repeated⟩,
        ⟨.charClass ['a', 'b'] false, .repeated⟩, ⟨.literal 'b', .optional⟩] 0 (some 3)) counts ∧
        3 = 0 + counts.sum) ∧
      ¬ ∃ counts, counts ∈ validCounts #['a', 'a', 'b', 'b'] [⟨.literal 'a', .repeated⟩,
        ⟨.charClass ['a', 'b'] false, .repeated⟩, ⟨.literal 'b', .optional⟩] 0 (some 0) := by
  have hsingle : ∀ token ∈ [⟨.literal 'a', .repeated⟩, ⟨.charClass ['a', 'b'] false, .repeated⟩,
      (⟨.literal 'b', .optional⟩ : Token)], token.kind.isSingle = true := by decide
  have hpos : 0 ≤ #['a', 'a', 'b', 'b'].size := Nat.zero_le _
  refine ⟨hsingle, hpos, ?_, ?_⟩
  · exact ((match_is_greatest_sharing hsingle hpos 0 (some 3)).2 3).mp (by decide +kernel)
  · exact (match_is_greatest_sharing hsingle hpos 0 (some 0)).1.mp (by decide +kernel)

end LineSearch
