import LineSearch.Text.Basic

/-!
# Segments of a line

The characters of a line between two positions. Segments that meet are put together and taken apart
at the position where they meet, and the segments of a line are its contiguous parts: those from the
start are its prefixes and those up to the end its suffixes.
-/

namespace LineSearch

def segment (chars : Array Char) (start stop : Nat) : Text :=
  (chars.extract start stop).toList

variable {chars : Array Char}

theorem segment_append {start middle stop : Nat} (hfront : start ≤ middle) (hback : middle ≤ stop) :
    segment chars start middle ++ segment chars middle stop = segment chars start stop := by
  rw [segment, segment, ← Array.toList_append, Array.extract_append_extract,
    Nat.min_eq_left hfront, Nat.max_eq_right hback, segment]

theorem length_segment {start stop : Nat} (hstop : stop ≤ chars.size) :
    (segment chars start stop).length = stop - start := by
  rw [segment, Array.length_toList, Array.size_extract, Nat.min_eq_left hstop]

theorem segment_self (pos : Nat) : segment chars pos pos = [] := by
  simp [segment]

theorem segment_of_size_le {start : Nat} (stop : Nat) (h : chars.size ≤ start) :
    segment chars start stop = [] := by
  rw [← List.length_eq_zero_iff]
  simp [segment]
  omega

theorem segment_succ {pos : Nat} (h : pos < chars.size) :
    segment chars pos (pos + 1) = [chars[pos]] := by
  have hinside : pos < chars.toList.length := h
  simp [segment, List.drop_eq_getElem_cons hinside]

theorem segment_cons {pos stop : Nat} (hinside : pos < chars.size) (h : pos < stop) :
    segment chars pos stop = chars[pos] :: segment chars (pos + 1) stop := by
  rw [← segment_append (Nat.le_succ pos) h, segment_succ hinside, List.singleton_append]

theorem segment_split {start stop : Nat} {front back : Text} (hstop : stop ≤ chars.size)
    (hstart : start ≤ stop) (h : front ++ back = segment chars start stop) :
    start + front.length ≤ stop ∧ segment chars start (start + front.length) = front ∧
      segment chars (start + front.length) stop = back := by
  have hlength : front.length + back.length = stop - start := by
    rw [← List.length_append, h, length_segment hstop]
  have hmiddle : start + front.length ≤ stop := by omega
  rw [← segment_append (Nat.le_add_right start front.length) hmiddle] at h
  have hfront : front.length = (segment chars start (start + front.length)).length := by
    rw [length_segment (by omega)]
    omega
  obtain ⟨hleft, hright⟩ := List.append_inj h hfront
  exact ⟨hmiddle, hleft.symm, hright.symm⟩

theorem segment_whole : segment chars 0 chars.size = chars.toList := by
  simp [segment]

theorem segment_of_append (before word after : Text)
    (h : before ++ word ++ after = chars.toList) :
    before.length + word.length ≤ chars.size ∧
      segment chars before.length (before.length + word.length) = word := by
  constructor
  · rw [← Array.length_toList, ← h]
    simp
  · simp [segment, ← h]

theorem segment_isInfix (start stop : Nat) : segment chars start stop <:+: chars.toList := by
  simp only [segment, Array.toList_extract, List.extract_eq_take_drop]
  exact (List.take_prefix _ _).isInfix.trans (List.drop_suffix _ _).isInfix

theorem isInfix_iff_segment (word : Text) :
    word <:+: chars.toList ↔
      ∃ start stop, start ≤ stop ∧ stop ≤ chars.size ∧ segment chars start stop = word := by
  constructor
  · rintro ⟨before, after, h⟩
    obtain ⟨hstop, hword⟩ := segment_of_append before word after h
    exact ⟨before.length, before.length + word.length, by omega, hstop, hword⟩
  · rintro ⟨start, stop, -, -, rfl⟩
    exact segment_isInfix start stop

theorem isPrefix_iff_segment (word : Text) :
    word <+: chars.toList ↔ ∃ stop ≤ chars.size, segment chars 0 stop = word := by
  constructor
  · rintro ⟨after, h⟩
    obtain ⟨hstop, hword⟩ := segment_of_append [] word after h
    exact ⟨_, hstop, hword⟩
  · rintro ⟨stop, hstop, rfl⟩
    refine ⟨segment chars stop chars.size, ?_⟩
    rw [segment_append (Nat.zero_le stop) hstop, segment_whole]

theorem isSuffix_iff_segment (word : Text) :
    word <:+ chars.toList ↔ ∃ start ≤ chars.size, segment chars start chars.size = word := by
  constructor
  · rintro ⟨before, h⟩
    obtain ⟨hstop, hword⟩ := segment_of_append before word [] ((List.append_nil _).trans h)
    have hsize : before.length + word.length = chars.size := by
      rw [← Array.length_toList, ← h, List.length_append]
    rw [hsize] at hword
    exact ⟨before.length, by omega, hword⟩
  · rintro ⟨start, hstart, rfl⟩
    refine ⟨segment chars 0 start, ?_⟩
    rw [segment_append (Nat.zero_le start) hstart, segment_whole]

end LineSearch
