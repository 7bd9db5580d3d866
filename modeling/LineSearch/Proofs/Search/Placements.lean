import LineSearch.Proofs.Search.Attempts
import LineSearch.Proofs.Search.Suffix
import Mathlib.Order.Bounds.Basic

/-!
# The placements agree with one another

A search anywhere is a search from the start of one suffix of the line after another, the longest
first, and a search at the end is a search for the whole of one suffix after another, the shortest
first. So the part found anywhere begins at the least start from which the tokens match, the part
found at the end at the greatest start from which they match the whole rest, and a line that is
matched as a whole is matched in every other placement too (`searches_agree`).
-/

namespace LineSearch

namespace Placement

def pattern (placement : Placement) (tokens : List Token) : Pattern :=
  match placement with
  | .exact => ⟨tokens, true, true⟩
  | .fromStart => ⟨tokens, true, false⟩
  | .atEnd => ⟨tokens, false, true⟩
  | .anywhere => ⟨tokens, false, false⟩

@[simp] theorem placement_pattern (placement : Placement) (tokens : List Token) :
    (placement.pattern tokens).placement = placement := by
  cases placement <;> rfl

@[simp] theorem tokens_pattern (placement : Placement) (tokens : List Token) :
    (placement.pattern tokens).tokens = tokens := by
  cases placement <;> rfl

def search? (placement : Placement) (tokens : List Token) (chars : Array Char) : Option Span :=
  (placement.pattern tokens).search? chars

/-- The starts of the suffixes of the line on which such a search succeeds. -/
def suffixStarts (placement : Placement) (tokens : List Token) (chars : Array Char) : Set Nat :=
  {start | start ≤ chars.size ∧ (placement.search? tokens (chars.extract start)).isSome = true}

end Placement

/-! ## Searching one suffix after another -/

def Span.shift (offset : Nat) (span : Span) : Span :=
  ⟨offset + span.start, offset + span.stop⟩

theorem Pattern.map_attempt?_extract (pattern : Pattern) {chars : Array Char} {start : Nat}
    (hstart : start ≤ chars.size) (required : Option Nat) :
    (pattern.attempt? (chars.extract start) required 0).map (Span.shift start) =
      pattern.attempt? chars (required.map (start + ·)) start := by
  have hmatch := matchAt?_extract hstart 0 pattern.tokens 0 required
  rw [Nat.add_zero] at hmatch
  rw [attempt?, attempt?, ← hmatch, Option.map_map, Option.map_map]
  rfl

/-- In an ordered list the first success is the one with no success before it. -/
theorem findSome?_eq_some_iff_of_pairwise {α β : Type} {before : α → α → Prop}
    (hasymm : ∀ a b, before a b → ¬ before b a) {items : List α} (hordered : items.Pairwise before)
    (f : α → Option β) (b : β) :
    items.findSome? f = some b ↔
      ∃ a ∈ items, f a = some b ∧ ∀ item ∈ items, before item a → f item = none := by
  rw [List.findSome?_eq_some_iff]
  constructor
  · rintro ⟨front, a, back, rfl, hfirst, hfront⟩
    refine ⟨a, by simp, hfirst, ?_⟩
    intro item hitem hbefore
    have hback := List.pairwise_cons.mp (List.pairwise_append.mp hordered).2.1
    rcases List.mem_append.mp hitem with hmem | hmem
    · exact hfront item hmem
    · rcases List.mem_cons.mp hmem with rfl | hmem
      · exact absurd hbefore (hasymm _ _ hbefore)
      · exact absurd hbefore (hasymm _ _ (hback.1 item hmem))
  · rintro ⟨a, hmem, hfirst, hnone⟩
    obtain ⟨front, back, rfl⟩ := List.append_of_mem hmem
    refine ⟨front, a, back, rfl, hfirst, ?_⟩
    intro item hitem
    have hbefore := (List.pairwise_append.mp hordered).2.2 item hitem a List.mem_cons_self
    exact hnone item (List.mem_append_left _ hitem) hbefore

theorem mem_starts {length start : Nat} : start ∈ List.range (length + 1) ↔ start ≤ length := by
  rw [List.mem_range, Nat.lt_succ_iff]

theorem mem_reverse_starts {length start : Nat} :
    start ∈ (List.range (length + 1)).reverse ↔ start ≤ length := by
  rw [List.mem_reverse, mem_starts]

namespace Placement

/-- What is found on the first of the suffixes with one of the starts that has a match. -/
def firstOnSuffix? (placement : Placement) (tokens : List Token) (chars : Array Char)
    (starts : List Nat) : Option Span :=
  starts.findSome? fun start =>
    (placement.search? tokens (chars.extract start)).map (Span.shift start)

theorem search?_anywhere (tokens : List Token) (chars : Array Char) :
    search? .anywhere tokens chars =
      firstOnSuffix? .fromStart tokens chars (List.range (chars.size + 1)) := by
  simp only [firstOnSuffix?, search?, Pattern.search?_eq, placement_pattern]
  apply findSome?_congr
  intro start hmem
  have hstart := mem_starts.mp hmem
  exact ((pattern .fromStart tokens).map_attempt?_extract hstart none).symm

theorem search?_atEnd (tokens : List Token) (chars : Array Char) :
    search? .atEnd tokens chars =
      firstOnSuffix? .exact tokens chars (List.range (chars.size + 1)).reverse := by
  simp only [firstOnSuffix?, search?, Pattern.search?_eq, placement_pattern]
  apply findSome?_congr
  intro start hmem
  have hstart := mem_reverse_starts.mp hmem
  -- the end of the suffix is the end of the line
  have hsize : start + (chars.extract start).size = chars.size := by
    rw [Array.size_extract]
    omega
  have hattempt := (pattern .exact tokens).map_attempt?_extract hstart
    (some (chars.extract start).size)
  rw [Option.map_some, hsize] at hattempt
  exact hattempt.symm

section FirstOnSuffix

variable {placement : Placement} {tokens : List Token} {chars : Array Char} {starts : List Nat}
  (hstarts : ∀ start, start ∈ starts ↔ start ≤ chars.size)

include hstarts

theorem firstOnSuffix?_eq_none_iff :
    firstOnSuffix? placement tokens chars starts = none ↔
      ∀ start ≤ chars.size, search? placement tokens (chars.extract start) = none := by
  simp [firstOnSuffix?, List.findSome?_eq_none_iff, hstarts]

/-- The suffix that is found on is one with a match, and none with a match is tried before it. -/
theorem firstOnSuffix?_eq_some_iff {before : Nat → Nat → Prop}
    (hasymm : ∀ a b, before a b → ¬ before b a) (hordered : starts.Pairwise before) (span : Span)
    (hzero : ∀ chars found, search? placement tokens chars = some found → found.start = 0) :
    firstOnSuffix? placement tokens chars starts = some span ↔
      (span.start ∈ suffixStarts placement tokens chars ∧
        ∀ other ∈ suffixStarts placement tokens chars, ¬ before other span.start) ∧
        span.start ≤ span.stop ∧
          search? placement tokens (chars.extract span.start) =
            some ⟨0, span.stop - span.start⟩ := by
  rw [firstOnSuffix?, findSome?_eq_some_iff_of_pairwise hasymm hordered]
  constructor
  · rintro ⟨start, hmem, hfirst, hnone⟩
    obtain ⟨⟨first, length⟩, hfound, rfl⟩ := Option.map_eq_some_iff.mp hfirst
    obtain rfl : first = 0 := hzero _ _ hfound
    have hinside := (hstarts start).mp hmem
    have hlength : start + length - start = length := Nat.add_sub_cancel_left ..
    simp only [Span.shift, Nat.add_zero, hlength]
    refine ⟨⟨⟨hinside, Option.isSome_of_mem hfound⟩, ?_⟩, Nat.le_add_right start length, hfound⟩
    rintro other ⟨hother, hsome⟩ hbefore
    have hskipped := Option.map_eq_none_iff.mp (hnone other ((hstarts other).mpr hother) hbefore)
    rw [hskipped] at hsome
    contradiction
  · rintro ⟨⟨⟨hinside, -⟩, hnone⟩, hstart, hfound⟩
    refine ⟨span.start, (hstarts span.start).mpr hinside, ?_, ?_⟩
    · rw [hfound, Option.map_some, Span.shift, Nat.add_zero, Nat.add_sub_cancel' hstart]
    · intro other hmem hbefore
      apply Option.map_eq_none_iff.mpr
      apply Option.not_isSome_iff_eq_none.mp
      intro hsome
      exact hnone other ⟨(hstarts other).mp hmem, hsome⟩ hbefore

end FirstOnSuffix

/-! ## Agreement -/

section Agreement

variable {tokens : List Token} {chars : Array Char} {span : Span}

/-- Only the whole line is found as a whole. -/
theorem eq_of_search?_exact (h : search? .exact tokens chars = some span) :
    span = ⟨0, chars.size⟩ := by
  obtain ⟨hstart, hstop⟩ := (Pattern.search?_spec h).1
  rw [← hstart, ← hstop]

theorem start_of_search?_fromStart (h : search? .fromStart tokens chars = some span) :
    span.start = 0 :=
  (Pattern.search?_spec h).1

theorem search?_anywhere_eq_some_iff :
    search? .anywhere tokens chars = some span ↔
      IsLeast (suffixStarts .fromStart tokens chars) span.start ∧ span.start ≤ span.stop ∧
        search? .fromStart tokens (chars.extract span.start) =
          some ⟨0, span.stop - span.start⟩ := by
  have hordered : (List.range (chars.size + 1)).Pairwise (· < ·) := List.pairwise_lt_range
  rw [search?_anywhere, firstOnSuffix?_eq_some_iff (fun _ => mem_starts)
    (fun _ _ => Nat.lt_asymm) hordered span fun _ _ => start_of_search?_fromStart]
  simp only [IsLeast, mem_lowerBounds, Nat.not_lt]

theorem search?_atEnd_eq_some_iff :
    search? .atEnd tokens chars = some span ↔
      IsGreatest (suffixStarts .exact tokens chars) span.start ∧ span.stop = chars.size := by
  have hzero : ∀ chars found, search? .exact tokens chars = some found → found.start = 0 := by
    intro chars found hfound
    rw [eq_of_search?_exact hfound]
  have hordered : (List.range (chars.size + 1)).reverse.Pairwise (· > ·) :=
    List.pairwise_reverse.mpr List.pairwise_lt_range
  rw [search?_atEnd, firstOnSuffix?_eq_some_iff (fun _ => mem_reverse_starts)
    (fun _ _ => Nat.lt_asymm) hordered span hzero]
  simp only [IsGreatest, mem_upperBounds, Nat.not_lt]
  apply and_congr_right
  rintro ⟨⟨hinside, hsome⟩, -⟩
  -- a suffix that is matched as a whole is matched from its start to the end of the line
  obtain ⟨found, hfound⟩ := Option.isSome_iff_exists.mp hsome
  have hwhole := eq_of_search?_exact hfound
  rw [Array.size_extract, Nat.min_self] at hwhole
  rw [hfound, hwhole, Option.some_inj, Span.mk.injEq]
  omega

/-- What is found in a stricter placement is found, perhaps with another end, in a looser one. -/
theorem isSome_search?_of_allows {strict loose : Placement}
    (hallows : ∀ span, strict.Allows chars.size span → loose.Allows chars.size span)
    (h : (search? strict tokens chars).isSome = true) :
    (search? loose tokens chars).isSome = true := by
  obtain ⟨span, hstrict, hoffers⟩ := Pattern.search?_isSome_iff.mp h
  rw [placement_pattern] at hstrict
  rw [tokens_pattern] at hoffers
  apply Pattern.search?_isSome_iff.mpr
  rw [placement_pattern, tokens_pattern]
  exact ⟨span, hallows span hstrict, hoffers⟩

end Agreement

/-- Anywhere, the part found starts at the least start from which the tokens match the suffix of the
line, and is what they match there; at the end, it starts at the greatest start from which they
match the whole suffix, and runs to the end of the line. Nothing is found where no suffix is matched
so. A match of the whole line is found in all placements, and one from the start or at the end is
found anywhere. -/
theorem searches_agree (tokens : List Token) (chars : Array Char) :
    ((∀ span, search? .anywhere tokens chars = some span ↔
        IsLeast (suffixStarts .fromStart tokens chars) span.start ∧ span.start ≤ span.stop ∧
          search? .fromStart tokens (chars.extract span.start) =
            some ⟨0, span.stop - span.start⟩) ∧
      (search? .anywhere tokens chars = none ↔
        ∀ start ≤ chars.size, search? .fromStart tokens (chars.extract start) = none)) ∧
    ((∀ span, search? .atEnd tokens chars = some span ↔
        IsGreatest (suffixStarts .exact tokens chars) span.start ∧ span.stop = chars.size) ∧
      (search? .atEnd tokens chars = none ↔
        ∀ start ≤ chars.size, search? .exact tokens (chars.extract start) = none)) ∧
    (∀ span, search? .exact tokens chars = some span → span = ⟨0, chars.size⟩) ∧
    ((search? .exact tokens chars).isSome = true →
      (search? .fromStart tokens chars).isSome = true ∧
        (search? .atEnd tokens chars).isSome = true) ∧
    ((search? .fromStart tokens chars).isSome = true ∨
        (search? .atEnd tokens chars).isSome = true →
      (search? .anywhere tokens chars).isSome = true) := by
  refine ⟨⟨fun _ => search?_anywhere_eq_some_iff, ?_⟩, ⟨fun _ => search?_atEnd_eq_some_iff, ?_⟩,
    fun _ => eq_of_search?_exact, ?_, ?_⟩
  · rw [search?_anywhere, firstOnSuffix?_eq_none_iff fun _ => mem_starts]
  · rw [search?_atEnd, firstOnSuffix?_eq_none_iff fun _ => mem_reverse_starts]
  · intro hexact
    have hwhole : ∀ span, Placement.exact.Allows chars.size span →
        span.start = 0 ∧ span.stop = chars.size := fun _ hallows => hallows
    exact ⟨isSome_search?_of_allows (fun span hallows => (hwhole span hallows).1) hexact,
      isSome_search?_of_allows (fun span hallows => (hwhole span hallows).2) hexact⟩
  · rintro (hstart | hend)
    · exact isSome_search?_of_allows (fun _ _ => trivial) hstart
    · exact isSome_search?_of_allows (fun _ _ => trivial) hend

/-- A repeated group matches `abaa` as a whole, though its last letter alone is found at the end. -/
theorem searches_agree_on_repeated_group :
    (search? .exact [⟨.group [['a', 'b'], ['a']], .repeated⟩] #['a', 'b', 'a', 'a'] =
        some ⟨0, 4⟩ ∧
      (search? .fromStart [⟨.group [['a', 'b'], ['a']], .repeated⟩]
          #['a', 'b', 'a', 'a']).isSome = true) ∧
    (search? .atEnd [⟨.group [['a', 'b'], ['a']], .repeated⟩] #['a', 'b', 'a', 'a'] =
        some ⟨3, 4⟩ ∧
      (search? .anywhere [⟨.group [['a', 'b'], ['a']], .repeated⟩]
          #['a', 'b', 'a', 'a']).isSome = true) := by
  have hexact : search? .exact [⟨.group [['a', 'b'], ['a']], .repeated⟩] #['a', 'b', 'a', 'a'] =
      some ⟨0, 4⟩ := by decide +kernel
  have hend : search? .atEnd [⟨.group [['a', 'b'], ['a']], .repeated⟩] #['a', 'b', 'a', 'a'] =
      some ⟨3, 4⟩ := by decide +kernel
  obtain ⟨-, -, -, hwhole, hpart⟩ :=
    searches_agree [⟨.group [['a', 'b'], ['a']], .repeated⟩] #['a', 'b', 'a', 'a']
  exact ⟨⟨hexact, (hwhole (by rw [hexact]; rfl)).1⟩, hend, hpart (.inr (by rw [hend]; rfl))⟩

end Placement

end LineSearch
