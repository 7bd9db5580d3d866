import LineSearch.Proofs.Search.Found
import LineSearch.Proofs.Search.Greedy
import LineSearch.Proofs.Search.Placements

/-!
# Finding in the part found

If no token is a group, the part that a search finds is found again, as a whole, when it is searched
by itself. What stood in front of it is not missed, as matching never looks there. What stood behind
it is not missed either: on the front part of a line the tokens can share the characters out in the
same ways as on the line, up to the cut (`shares_extract_iff`), so the sharing that came last on the
line comes last on any front part that holds it. This needs the tokens to be single characters. A
branch of a group is committed to the end it prefers, and cutting the line can change that end: from
the start of `abbbc` the pattern `(a(bbb)?|ab)b` takes `abb`, but from the start of `abb` only `ab`.
-/

namespace LineSearch

/-! ## Sharing out the front part of a line -/

section FrontPart

variable {chars : Array Char} {limit : Nat}

theorem segment_extract {start stop : Nat} (hstop : stop ≤ limit) :
    segment (chars.extract 0 limit) start stop = segment chars start stop := by
  rw [segment, Array.extract_extract, Nat.zero_add, Nat.zero_add, Nat.min_eq_left hstop, segment]

theorem covers_extract_iff (hlimit : limit ≤ chars.size) {accepts : Char → Bool}
    {start stop : Nat} :
    Covers accepts (chars.extract 0 limit) start stop ↔
      Covers accepts chars start stop ∧ stop ≤ limit := by
  have hsize : (chars.extract 0 limit).size = limit := by
    rw [Array.size_extract]
    omega
  unfold Covers
  rw [hsize]
  constructor
  · rintro ⟨hstop, haccepted⟩
    rw [segment_extract hstop] at haccepted
    exact ⟨⟨Nat.le_trans hstop hlimit, haccepted⟩, hstop⟩
  · rintro ⟨⟨_, haccepted⟩, hstop⟩
    rw [segment_extract hstop]
    exact ⟨hstop, haccepted⟩

/-- On the front part of a line the characters are shared out as on the line, up to the cut. -/
theorem shares_extract_iff (hlimit : limit ≤ chars.size) {tokens : List Token} {pos : Nat}
    (hpos : pos ≤ limit) {counts : List Nat} :
    Shares (chars.extract 0 limit) tokens pos counts ↔
      Shares chars tokens pos counts ∧ pos + counts.sum ≤ limit := by
  constructor
  · intro h
    induction h with
    | nil => exact ⟨.nil, hpos⟩
    | @cons token rest pos count counts hallows hcovers _ ih =>
        obtain ⟨hcovers, hmiddle⟩ := (covers_extract_iff hlimit).mp hcovers
        obtain ⟨hrest, hsum⟩ := ih hmiddle
        refine ⟨.cons hallows hcovers hrest, ?_⟩
        rw [List.sum_cons]
        omega
  · rintro ⟨h, hsum⟩
    induction h with
    | nil => exact .nil
    | @cons token rest pos count counts hallows hcovers _ ih =>
        rw [List.sum_cons] at hsum
        have hmiddle : pos + count ≤ limit := by omega
        exact .cons hallows ((covers_extract_iff hlimit).mpr ⟨hcovers, hmiddle⟩)
          (ih hmiddle (by omega))

end FrontPart

/-! ## The preferred end -/

section PreferredEnd

variable {tokens : List Token} (hsingle : ∀ token ∈ tokens, token.kind.isSingle = true)
  {chars : Array Char} {pos : Nat}

include hsingle

theorem head?_matchEnds_eq_some_iff (hpos : pos ≤ chars.size) {stop : Nat} :
    (matchEnds chars tokens pos).head? = some stop ↔
      ∃ counts, IsGreatest {counts | Shares chars tokens pos counts} counts ∧
        pos + counts.sum = stop := by
  have hfirst : (sharings chars tokens pos).head? =
      (sharings chars tokens pos).find? fun _ => true := by
    cases sharings chars tokens pos <;> rfl
  have hshares : {counts | counts ∈ sharings chars tokens pos ∧ true = true} =
      {counts | Shares chars tokens pos counts} := by
    ext counts
    simp [mem_sharings_iff hpos]
  rw [← map_sharings hsingle hpos, List.head?_map, Option.map_eq_some_iff, hfirst]
  apply exists_congr
  intro counts
  rw [find?_eq_some_iff_isGreatest (pairwise_sharings hpos), hshares]

/-- The tokens prefer the same end if the line stops there. -/
theorem head?_matchEnds_extract (hpos : pos ≤ chars.size) {stop : Nat}
    (h : (matchEnds chars tokens pos).head? = some stop) :
    (matchEnds (chars.extract 0 stop) tokens pos).head? = some stop := by
  have hbounds := (matchEnds_advances chars tokens).of_head? h
  have hlimit : stop ≤ chars.size := by omega
  obtain ⟨counts, ⟨hshares, hgreatest⟩, hsum⟩ := (head?_matchEnds_eq_some_iff hsingle hpos).mp h
  have hcut : pos ≤ (chars.extract 0 stop).size := by
    rw [Array.size_extract]
    omega
  rw [head?_matchEnds_eq_some_iff hsingle hcut]
  refine ⟨counts, ⟨?_, ?_⟩, hsum⟩
  · exact (shares_extract_iff hlimit hbounds.1).mpr ⟨hshares, Nat.le_of_eq hsum⟩
  · intro others hothers
    exact hgreatest ((shares_extract_iff hlimit hbounds.1).mp hothers).1

end PreferredEnd

/-! ## Searching the part found -/

namespace Placement

variable {tokens : List Token} {chars : Array Char} {span : Span}

theorem search?_fromStart_eq_some_iff :
    search? .fromStart tokens chars = some span ↔
      span.start = 0 ∧ (matchEnds chars tokens 0).head? = some span.stop := by
  simp only [search?, Pattern.search?_eq, placement_pattern, Pattern.attempt?, tokens_pattern,
    matchAt?_none, List.drop_zero, Option.map_eq_some_iff]
  constructor
  · rintro ⟨stop, hfirst, rfl⟩
    exact ⟨rfl, hfirst⟩
  · rintro ⟨hstart, hfirst⟩
    exact ⟨span.stop, hfirst, by rw [← hstart]⟩

theorem extract_extract_suffix (chars : Array Char) (offset start : Nat) :
    (chars.extract offset).extract start = chars.extract (offset + start) := by
  rw [Array.extract_extract]
  apply Array.ext
  · simp only [Array.size_extract]
    omega
  · intro i _ _
    rw [Array.getElem_extract, Array.getElem_extract]

theorem mem_suffixStarts_extract_iff {placement : Placement} {offset start : Nat}
    (hoffset : offset ≤ chars.size) :
    start ∈ placement.suffixStarts tokens (chars.extract offset) ↔
      offset + start ∈ placement.suffixStarts tokens chars := by
  have hsize : (chars.extract offset).size = chars.size - offset := by
    rw [Array.size_extract, Nat.min_self]
  have hinside : start ≤ (chars.extract offset).size ↔ offset + start ≤ chars.size := by omega
  have hcut := extract_extract_suffix chars offset start
  exact and_congr hinside (by rw [hcut])

/-- The shortest suffix that is matched as a whole is the shortest of its own such suffixes. -/
theorem search?_atEnd_extract (h : search? .atEnd tokens chars = some span) :
    search? .atEnd tokens (chars.extract span.start span.stop) =
      some ⟨0, span.stop - span.start⟩ := by
  obtain ⟨⟨hmem, hgreatest⟩, hstop⟩ := search?_atEnd_eq_some_iff.mp h
  have hstart : span.start ≤ chars.size := hmem.1
  rw [hstop, search?_atEnd_eq_some_iff]
  refine ⟨⟨?_, ?_⟩, by rw [Array.size_extract, Nat.min_self]⟩
  · exact (mem_suffixStarts_extract_iff hstart).mpr hmem
  · intro start hlater
    have hbound := hgreatest ((mem_suffixStarts_extract_iff hstart).mp hlater)
    show start ≤ 0
    omega

section SingleCharacters

variable (hsingle : ∀ token ∈ tokens, token.kind.isSingle = true)

include hsingle

theorem search?_fromStart_extract {length : Nat}
    (h : search? .fromStart tokens chars = some ⟨0, length⟩) :
    search? .fromStart tokens (chars.extract 0 length) = some ⟨0, length⟩ := by
  have hfirst := (search?_fromStart_eq_some_iff.mp h).2
  exact search?_fromStart_eq_some_iff.mpr
    ⟨rfl, head?_matchEnds_extract hsingle (Nat.zero_le _) hfirst⟩

theorem search?_anywhere_extract (h : search? .anywhere tokens chars = some span) :
    search? .anywhere tokens (chars.extract span.start span.stop) =
      some ⟨0, span.stop - span.start⟩ := by
  obtain ⟨⟨hmem, _⟩, hbounds, hfound⟩ := search?_anywhere_eq_some_iff.mp h
  -- the part is the front part of the suffix on which it was found
  have hpart : (chars.extract span.start).extract 0 (span.stop - span.start) =
      chars.extract span.start span.stop := by
    have hstop := (Pattern.bounds_of_search? h).2
    rw [Array.extract_extract, Nat.add_zero]
    congr 1
    omega
  have hagain := search?_fromStart_extract hsingle hfound
  rw [hpart] at hagain
  have hwhole : (chars.extract span.start span.stop).extract 0 =
      chars.extract span.start span.stop := Array.extract_size
  rw [search?_anywhere_eq_some_iff]
  refine ⟨⟨⟨Nat.zero_le _, ?_⟩, fun _ _ => Nat.zero_le _⟩, Nat.zero_le _, ?_⟩
  · rw [hwhole, hagain]
    rfl
  · rw [hwhole]
    exact hagain

/-- In every placement the part found is found again as a whole. -/
theorem search?_extract (placement : Placement) (h : search? placement tokens chars = some span) :
    search? placement tokens (chars.extract span.start span.stop) =
      some ⟨0, span.stop - span.start⟩ := by
  cases placement with
  | exact =>
      obtain rfl := eq_of_search?_exact h
      rw [Array.extract_size]
      exact h
  | fromStart =>
      obtain ⟨start, stop⟩ := span
      obtain rfl : start = 0 := start_of_search?_fromStart h
      exact search?_fromStart_extract hsingle h
  | atEnd => exact search?_atEnd_extract h
  | anywhere => exact search?_anywhere_extract hsingle h

end SingleCharacters

end Placement

theorem Pattern.pattern_placement (pattern : Pattern) :
    pattern.placement.pattern pattern.tokens = pattern := by
  obtain ⟨tokens, startBound, endBound⟩ := pattern
  cases startBound <;> cases endBound <;> rfl

theorem Found.text_ofSpan (line : Text) (span : Span) :
    (Found.ofSpan line span).text.toArray = line.toArray.extract span.start span.stop := by
  simp [Found.ofSpan, List.drop_take]

theorem Found.ofSpan_whole (text : Text) :
    Found.ofSpan text ⟨0, text.length⟩ = ⟨0, Text.utf8Length text, text⟩ := by
  simp [Found.ofSpan]

/-- Where no token is a group, wherever the pattern must lie, the part found in a line is found
again as a whole when it is searched by itself. -/
theorem found_part_found_again {pattern : Pattern}
    (hsingle : ∀ token ∈ pattern.tokens, token.kind.isSingle = true) {line : Text} {found : Found}
    (h : pattern.find? line = some found) :
    pattern.search? found.text.toArray = some ⟨0, found.text.length⟩ ∧
      pattern.find? found.text = some ⟨0, Text.utf8Length found.text, found.text⟩ := by
  rw [Pattern.find?_eq] at h
  obtain ⟨span, hsearch, rfl⟩ := Option.map_eq_some_iff.mp h
  have hbounds := Pattern.bounds_of_search? hsearch
  have hlength : (Found.ofSpan line span).text.length = span.stop - span.start := by
    rw [← List.size_toArray, Found.text_ofSpan, Array.size_extract]
    omega
  have hagain : pattern.search? (Found.ofSpan line span).text.toArray =
      some ⟨0, (Found.ofSpan line span).text.length⟩ := by
    rw [← pattern.pattern_placement] at hsearch ⊢
    rw [Found.text_ofSpan, hlength]
    exact Placement.search?_extract hsingle pattern.placement hsearch
  refine ⟨hagain, ?_⟩
  rw [Pattern.find?_eq, hagain, Option.map_some, Found.ofSpan_whole]

/-- In `abébbéc` the tokens `[éb]+b` give letters back and take `bébb`, which they take whole when
it is searched alone; bound to the end of `bébb` they take `bb`. -/
theorem found_part_found_again_of_wide_letters :
    (∀ token ∈ [⟨.charClass ['é', 'b'] false, .repeated⟩, (⟨.literal 'b', .once⟩ : Token)],
        token.kind.isSingle = true) ∧
      (Pattern.find? ⟨[⟨.charClass ['é', 'b'] false, .repeated⟩, ⟨.literal 'b', .once⟩], false, false⟩
          ['a', 'b', 'é', 'b', 'b', 'é', 'c'] = some ⟨1, 6, ['b', 'é', 'b', 'b']⟩ ∧
        Pattern.find? ⟨[⟨.charClass ['é', 'b'] false, .repeated⟩, ⟨.literal 'b', .once⟩], false, false⟩
          ['b', 'é', 'b', 'b'] = some ⟨0, 5, ['b', 'é', 'b', 'b']⟩) ∧
      Pattern.find? ⟨[⟨.charClass ['é', 'b'] false, .repeated⟩, ⟨.literal 'b', .once⟩], false, true⟩
          ['b', 'é', 'b', 'b'] = some ⟨3, 5, ['b', 'b']⟩ ∧
        Pattern.find? ⟨[⟨.charClass ['é', 'b'] false, .repeated⟩, ⟨.literal 'b', .once⟩], false, true⟩
          ['b', 'b'] = some ⟨0, 2, ['b', 'b']⟩ := by
  have hsingle : ∀ token ∈ [⟨.charClass ['é', 'b'] false, .repeated⟩,
      (⟨.literal 'b', .once⟩ : Token)], token.kind.isSingle = true := by decide
  have hanywhere : Pattern.find?
      ⟨[⟨.charClass ['é', 'b'] false, .repeated⟩, ⟨.literal 'b', .once⟩], false, false⟩
      ['a', 'b', 'é', 'b', 'b', 'é', 'c'] = some ⟨1, 6, ['b', 'é', 'b', 'b']⟩ := by decide +kernel
  have hatEnd : Pattern.find?
      ⟨[⟨.charClass ['é', 'b'] false, .repeated⟩, ⟨.literal 'b', .once⟩], false, true⟩
      ['b', 'é', 'b', 'b'] = some ⟨3, 5, ['b', 'b']⟩ := by decide +kernel
  refine ⟨hsingle, ⟨hanywhere, ?_⟩, hatEnd, ?_⟩
  · exact (found_part_found_again hsingle hanywhere).2
  · exact (found_part_found_again hsingle hatEnd).2

end LineSearch
