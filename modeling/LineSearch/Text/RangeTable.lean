/-!
# Sets of characters given by ranges of code points

A character property is stored as the increasing list of its ranges, and that they increase is part
of the table. Membership halves the part of the table that can still hold the code point, so its
cost is logarithmic in the number of ranges. `RangeTable.contains_iff` says that nothing is lost by
looking only there.
-/

namespace LineSearch.Text

/-- The code points from `first` to `last`, both included. -/
structure CodeRange where
  first : Nat
  last : Nat
  deriving DecidableEq, Repr

def CodeRange.increasing : List CodeRange → Bool
  | [] => true
  | [range] => range.first ≤ range.last
  | range :: next :: rest =>
      range.first ≤ range.last && range.last < next.first && increasing (next :: rest)

theorem CodeRange.first_le_last_of_increasing {ranges : List CodeRange} {i : Nat}
    (h : increasing ranges = true) (hbound : i < ranges.length) :
    ranges[i].first ≤ ranges[i].last := by
  fun_induction increasing ranges generalizing i with
  | case1 => exact absurd hbound (Nat.not_lt_zero i)
  | case2 range =>
      obtain rfl : i = 0 := by simp at hbound; exact hbound
      simpa using h
  | case3 range next rest ih =>
      simp only [Bool.and_eq_true, decide_eq_true_eq] at h
      cases i with
      | zero => exact h.1.1
      | succ i => exact ih h.2 (by simpa using hbound)

theorem CodeRange.last_lt_first_of_increasing {ranges : List CodeRange} {i : Nat}
    (h : increasing ranges = true) (hbound : i + 1 < ranges.length) :
    ranges[i].last < ranges[i + 1].first := by
  fun_induction increasing ranges generalizing i with
  | case1 => exact absurd hbound (Nat.not_lt_zero _)
  | case2 range => simp at hbound
  | case3 range next rest ih =>
      simp only [Bool.and_eq_true, decide_eq_true_eq] at h
      cases i with
      | zero => exact h.1.2
      | succ i => exact ih h.2 (by simpa using hbound)

structure RangeTable where
  ranges : Array CodeRange
  increasing : CodeRange.increasing ranges.toList = true

namespace RangeTable

/-- Whether one of the ranges from index `low` up to, not including, `high` holds the code point. -/
def holds (table : RangeTable) (code low high : Nat) (hhigh : high ≤ table.ranges.size) : Bool :=
  if _hopen : low < high then
    let middle := (low + high) / 2
    have _hmiddle : middle < table.ranges.size := by omega
    if code < table.ranges[middle].first then
      table.holds code low middle (by omega)
    else if table.ranges[middle].last < code then
      table.holds code (middle + 1) high hhigh
    else
      true
  else
    false
termination_by high - low

def contains (table : RangeTable) (c : Char) : Bool :=
  table.holds c.toNat 0 table.ranges.size (Nat.le_refl _)

theorem first_le_last (table : RangeTable) {i : Nat} (hbound : i < table.ranges.size) :
    table.ranges[i].first ≤ table.ranges[i].last :=
  CodeRange.first_le_last_of_increasing table.increasing hbound

theorem last_lt_first (table : RangeTable) {i j : Nat} (hbefore : i < j)
    (hbound : j < table.ranges.size) : table.ranges[i].last < table.ranges[j].first := by
  induction j with
  | zero => omega
  | succ j ih =>
      have hstep := CodeRange.last_lt_first_of_increasing table.increasing hbound
      simp only [Array.getElem_toList] at hstep
      rcases Nat.lt_or_eq_of_le (Nat.le_of_lt_succ hbefore) with hearlier | rfl
      · have hreached := ih hearlier (by omega)
        have hproper := table.first_le_last (i := j) (by omega)
        omega
      · exact hstep

theorem first_le_first (table : RangeTable) {i j : Nat} (hle : i ≤ j)
    (hbound : j < table.ranges.size) : table.ranges[i].first ≤ table.ranges[j].first := by
  rcases Nat.lt_or_eq_of_le hle with hlt | rfl
  · have hproper := table.first_le_last (i := i) (by omega)
    exact Nat.le_trans hproper (Nat.le_of_lt (table.last_lt_first hlt hbound))
  · exact Nat.le_refl _

theorem last_le_last (table : RangeTable) {i j : Nat} (hle : i ≤ j)
    (hbound : j < table.ranges.size) : table.ranges[i].last ≤ table.ranges[j].last := by
  rcases Nat.lt_or_eq_of_le hle with hlt | rfl
  · exact Nat.le_trans (Nat.le_of_lt (table.last_lt_first hlt hbound)) (table.first_le_last hbound)
  · exact Nat.le_refl _

theorem holds_iff (table : RangeTable) (code low high : Nat) (hhigh : high ≤ table.ranges.size) :
    table.holds code low high hhigh = true ↔
      ∃ i, ∃ hbound : i < table.ranges.size, low ≤ i ∧ i < high ∧
        table.ranges[i].first ≤ code ∧ code ≤ table.ranges[i].last := by
  fun_induction holds table code low high hhigh with
  | case1 low high hhigh hopen middle hmiddle hbefore ih =>
      rw [ih]
      constructor
      · rintro ⟨i, hi, hlow, hlt, hcode⟩
        exact ⟨i, hi, hlow, by omega, hcode⟩
      · rintro ⟨i, hi, hlow, hlt, hcode⟩
        refine ⟨i, hi, hlow, ?_, hcode⟩
        apply Nat.lt_of_not_le
        intro hpast
        have hfirst := table.first_le_first hpast hi
        omega
  | case2 low high hhigh hopen middle hmiddle hnotBefore hafter ih =>
      rw [ih]
      constructor
      · rintro ⟨i, hi, hlow, hlt, hcode⟩
        exact ⟨i, hi, by omega, hlt, hcode⟩
      · rintro ⟨i, hi, hlow, hlt, hcode⟩
        refine ⟨i, hi, ?_, hlt, hcode⟩
        apply Nat.lt_of_not_le
        intro hpast
        have hlast := table.last_le_last hpast hmiddle
        omega
  | case3 low high hhigh hopen middle hmiddle hnotBefore hnotAfter =>
      simp only [true_iff]
      exact ⟨middle, hmiddle, by omega, by omega, by omega, by omega⟩
  | case4 low high hhigh hclosed =>
      simp only [Bool.false_eq_true, false_iff]
      rintro ⟨i, hi, hlow, hlt, hcode⟩
      omega

/-- The characters of a table are those whose code point lies in one of its ranges. -/
theorem contains_iff (table : RangeTable) (c : Char) :
    table.contains c = true ↔
      ∃ range ∈ table.ranges, range.first ≤ c.toNat ∧ c.toNat ≤ range.last := by
  rw [contains, holds_iff]
  constructor
  · rintro ⟨i, hbound, _, _, hcode⟩
    exact ⟨table.ranges[i], Array.getElem_mem hbound, hcode⟩
  · rintro ⟨range, hmem, hcode⟩
    obtain ⟨i, hbound, rfl⟩ := Array.mem_iff_getElem.mp hmem
    exact ⟨i, hbound, Nat.zero_le i, hbound, hcode⟩

end RangeTable

end LineSearch.Text
