import LineSearch.Proofs.Search.Preference

/-!
# Matching on a suffix of the line

Matching never looks at what stands in front of its start. The ends that tokens offer on a suffix of
the line are those that they offer from the same place on the whole line, counted from where the
suffix begins; so a match on the suffix is the match on the line, with the required end moved as
well.
-/

namespace LineSearch

theorem acceptedAt_extract (accepts : Char → Bool) (chars : Array Char) (offset pos : Nat) :
    acceptedAt accepts (chars.extract offset) pos = acceptedAt accepts chars (offset + pos) := by
  have hread : (chars.extract offset)[pos]? = chars[offset + pos]? := by
    rw [Array.getElem?_extract]
    by_cases hpos : pos < chars.size - offset
    · simp [hpos]
    · have hbehind : chars.size ≤ offset + pos := by omega
      simp [hpos, hbehind]
  rw [acceptedAt, hread, acceptedAt]

section Shifted

variable {offset : Nat}

/-- Repetitions that move with the line offer ends that move with it. -/
theorem map_chainEnds {first inner : Nat → Option Nat}
    (h : ∀ pos, (inner pos).map (offset + ·) = first (offset + pos)) (limit pos : Nat) :
    (chainEnds inner limit pos).map (offset + ·) =
      chainEnds first (offset + limit) (offset + pos) := by
  -- along the repetitions on the suffix: both limits move alike, so both loops stop together
  fun_induction chainEnds inner limit pos with
  | case1 pos hnone =>
      have hfirst : first (offset + pos) = none := by rw [← h, hnone, Option.map_none]
      rw [chainEnds, hfirst]
      rfl
  | case2 pos stop hstop honward ih =>
      have hfirst : first (offset + pos) = some (offset + stop) := by
        rw [← h, hstop, Option.map_some]
      have honward' : offset + pos < offset + stop ∧ offset + stop ≤ offset + limit := by omega
      rw [List.map_append, ih]
      conv_rhs => rw [chainEnds, hfirst]
      dsimp only
      rw [dif_pos honward', List.map_singleton]
  | case3 pos stop hstop hstuck =>
      have hfirst : first (offset + pos) = some (offset + stop) := by
        rw [← h, hstop, Option.map_some]
      have hstuck' : ¬ (offset + pos < offset + stop ∧ offset + stop ≤ offset + limit) := by omega
      rw [chainEnds, hfirst]
      dsimp only
      rw [dif_neg hstuck', List.map_singleton]

theorem Quantifier.map_ends {once inner : Nat → List Nat}
    (h : ∀ pos, (inner pos).map (offset + ·) = once (offset + pos)) (quantifier : Quantifier)
    (limit pos : Nat) :
    (quantifier.ends inner limit pos).map (offset + ·) =
      quantifier.ends once (offset + limit) (offset + pos) := by
  cases quantifier with
  | once => exact h pos
  | optional => rw [ends, List.map_append, h, ends, List.map_singleton]
  | repeated =>
      apply map_chainEnds
      intro start
      rw [← h, List.head?_map]

end Shifted

/-- The ends on a suffix of the line, put where the suffix begins, are the ends on the line. -/
theorem map_matchEnds_extract {chars : Array Char} {offset : Nat} (hoffset : offset ≤ chars.size)
    (tokens : List Token) (pos : Nat) :
    (matchEnds (chars.extract offset) tokens pos).map (offset + ·) =
      matchEnds chars tokens (offset + pos) := by
  have hsize : offset + (chars.extract offset).size = chars.size := by
    rw [Array.size_extract]
    omega
  induction tokens using tokens_induction fun kind =>
    ∀ pos, (kind.ends (chars.extract offset) pos).map (offset + ·) = kind.ends chars (offset + pos)
    generalizing pos with
  | single kind hsingle pos =>
      rw [Token.Kind.ends_single _ hsingle, Token.Kind.ends_single _ hsingle, acceptedAt_extract]
      split <;> rfl
  | group branches ih pos =>
      rw [Token.Kind.ends_group, Token.Kind.ends_group, List.map_filterMap]
      apply List.filterMap_congr
      intro branch hmem
      rw [← ih branch hmem, List.head?_map]
  | nil => rw [matchEnds_nil, matchEnds_nil, List.map_singleton]
  | cons token rest hkind ih =>
      have htoken : (token.ends (chars.extract offset) pos).map (offset + ·) =
          token.ends chars (offset + pos) := by
        rw [Token.ends, token.quantifier.map_ends hkind, hsize, Token.ends]
      rw [matchEnds_cons, matchEnds_cons, ← htoken, List.map_flatMap, List.flatMap_map]
      simp only [ih]

theorem matchAt?_extract {chars : Array Char} {offset : Nat} (hoffset : offset ≤ chars.size)
    (pos : Nat) (tokens : List Token) (index : Nat) (required : Option Nat) :
    (matchAt? (chars.extract offset) pos tokens index required).map (offset + ·) =
      matchAt? chars (offset + pos) tokens index (required.map (offset + ·)) := by
  rw [matchAt?_eq_find?, matchAt?_eq_find?, ← map_matchEnds_extract hoffset, List.find?_map]
  congr 2
  funext stop
  cases required <;> simp

end LineSearch
