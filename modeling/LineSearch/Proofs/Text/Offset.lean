import LineSearch.Text.Offset

/-!
# Cutting a text at bytes

A byte offset is the length of the UTF-8 form of the characters in front of it, and a text is cut at
a number of bytes exactly where such characters stand in front. So the slice between the offsets of
two positions is made of the characters between the positions, and its bytes are those between the
offsets (`slice?_byteOffset`, `utf8_of_slice?_eq_some`).
-/

namespace LineSearch.Text

@[simp] theorem utf8Length_nil : utf8Length [] = 0 := rfl

@[simp] theorem utf8Length_cons (c : Char) (rest : Text) :
    utf8Length (c :: rest) = c.utf8Size + utf8Length rest := rfl

@[simp] theorem utf8Length_append (first second : Text) :
    utf8Length (first ++ second) = utf8Length first + utf8Length second := by
  rw [← length_utf8, utf8_append, List.length_append, length_utf8, length_utf8]

/-! ## Offsets -/

theorem byteOffset_walk (before : Nat) (text : Text) (pos : Nat) :
    byteOffset.walk before text pos = before + utf8Length (text.take pos) := by
  induction text generalizing before pos with
  | nil => simp [byteOffset.walk]
  | cons c rest ih =>
      cases pos with
      | zero => simp [byteOffset.walk]
      | succ pos =>
          rw [byteOffset.walk, ih, List.take_succ_cons, utf8Length_cons]
          omega

/-- In front of a position stand the bytes of the characters in front of it. -/
theorem byteOffset_eq (text : Text) (pos : Nat) :
    byteOffset text pos = utf8Length (text.take pos) := by
  rw [byteOffset, byteOffset_walk, Nat.zero_add]

theorem take_append_drop_take (text : Text) {start stop : Nat} (h : start ≤ stop) :
    text.take start ++ (text.take stop).drop start = text.take stop := by
  have htake : text.take start = (text.take stop).take start := by
    rw [List.take_take, Nat.min_eq_left h]
  rw [htake, List.take_append_drop]

theorem byteOffset_le_byteOffset (text : Text) {start stop : Nat} (h : start ≤ stop) :
    byteOffset text start ≤ byteOffset text stop := by
  rw [byteOffset_eq, byteOffset_eq, ← take_append_drop_take text h, utf8Length_append]
  exact Nat.le_add_right _ _

/-! ## Cuts -/

theorem cut?_walk_eq_some_iff {passed front back text : Text} {offset : Nat} :
    cut?.walk passed offset text = some (front, back) ↔
      ∃ middle, text = middle ++ back ∧ utf8Length middle = offset ∧
        front = passed.reverse ++ middle := by
  constructor
  · intro h
    fun_induction cut?.walk passed offset text with
    | case1 passed text =>
        obtain ⟨rfl, rfl⟩ := by simpa using h
        exact ⟨[], rfl, rfl, by simp⟩
    | case2 => contradiction
    | case3 passed offset c rest hfits ih =>
        obtain ⟨middle, rfl, hlength, rfl⟩ := ih h
        refine ⟨c :: middle, rfl, ?_, by simp⟩
        rw [utf8Length_cons]
        omega
    | case4 => contradiction
  · rintro ⟨middle, rfl, rfl, rfl⟩
    induction middle generalizing passed with
    | nil => simp [cut?.walk]
    | cons c middle ih =>
        have hpos := c.utf8Size_pos
        obtain ⟨offset, hoffset⟩ : ∃ offset, utf8Length (c :: middle) = offset + 1 :=
          Nat.exists_eq_succ_of_ne_zero (by rw [utf8Length_cons]; omega)
        have hrest : offset + 1 - c.utf8Size = utf8Length middle := by
          rw [← hoffset, utf8Length_cons]
          omega
        have hfits : c.utf8Size ≤ offset + 1 := by
          rw [← hoffset, utf8Length_cons]
          omega
        rw [hoffset, List.cons_append, cut?.walk, if_pos hfits, hrest, ih]
        simp

/-- A text is cut at the bytes of the characters in front of the cut, and nowhere else. -/
theorem cut?_eq_some_iff {offset : Nat} {text front back : Text} :
    cut? offset text = some (front, back) ↔ text = front ++ back ∧ utf8Length front = offset := by
  rw [cut?, cut?_walk_eq_some_iff]
  constructor
  · rintro ⟨middle, rfl, rfl, rfl⟩
    exact ⟨rfl, rfl⟩
  · rintro ⟨rfl, rfl⟩
    exact ⟨front, rfl, rfl, rfl⟩

theorem cut?_byteOffset (text : Text) (pos : Nat) :
    cut? (byteOffset text pos) text = some (text.take pos, text.drop pos) :=
  cut?_eq_some_iff.mpr ⟨(List.take_append_drop pos text).symm, (byteOffset_eq text pos).symm⟩

theorem slice?_eq_some_iff {text slice : Text} {start stop : Nat} :
    slice? text start stop = some slice ↔
      ∃ before after, text = before ++ slice ++ after ∧ utf8Length before = start ∧
        utf8Length (before ++ slice) = stop := by
  simp only [slice?, Option.bind_eq_bind, Option.bind_eq_some_iff, Prod.exists,
    cut?_eq_some_iff, Option.pure_def, Option.some.injEq]
  constructor
  · rintro ⟨front, after, ⟨rfl, rfl⟩, before, _, ⟨rfl, rfl⟩, rfl⟩
    exact ⟨before, after, rfl, rfl, rfl⟩
  · rintro ⟨before, after, rfl, rfl, rfl⟩
    exact ⟨before ++ slice, after, ⟨rfl, rfl⟩, before, slice, ⟨rfl, rfl⟩, rfl⟩

/-! ## Slices -/

/-- Between the offsets of two positions stand the characters between the positions. -/
theorem slice?_byteOffset (text : Text) {start stop : Nat} (h : start ≤ stop) :
    slice? text (byteOffset text start) (byteOffset text stop) =
      some ((text.take stop).drop start) := by
  have hfront := take_append_drop_take text h
  apply slice?_eq_some_iff.mpr
  refine ⟨text.take start, text.drop stop, ?_, (byteOffset_eq text start).symm, ?_⟩
  · rw [hfront, List.take_append_drop]
  · rw [hfront, byteOffset_eq]

/-- The bytes of a slice are those of the text between the two offsets. -/
theorem utf8_of_slice?_eq_some {text slice : Text} {start stop : Nat}
    (h : slice? text start stop = some slice) :
    utf8 slice = ((utf8 text).take stop).drop start := by
  obtain ⟨before, after, rfl, rfl, rfl⟩ := slice?_eq_some_iff.mp h
  rw [utf8_append, ← length_utf8 (before ++ slice), List.take_left, utf8_append, ← length_utf8,
    List.drop_left]

end LineSearch.Text
