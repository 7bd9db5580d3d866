import LineSearch.Text.RangeTable

/-!
# Blank characters

A blank is a character that separates words: the White_Space characters of Unicode, less those at
which a text must not be broken (no-break space, figure space and narrow no-break space) and less
next line, but with the four information separators U+001C to U+001F.
-/

namespace LineSearch.Text

def blankRanges : Array CodeRange :=
  #[⟨0x0009, 0x000D⟩, ⟨0x001C, 0x0020⟩, ⟨0x1680, 0x1680⟩, ⟨0x2000, 0x2006⟩, ⟨0x2008, 0x200A⟩,
    ⟨0x2028, 0x2029⟩, ⟨0x205F, 0x205F⟩, ⟨0x3000, 0x3000⟩]

theorem blankRanges_increasing : CodeRange.increasing blankRanges.toList = true := by
  decide

def blankTable : RangeTable :=
  ⟨blankRanges, blankRanges_increasing⟩

def isBlank (c : Char) : Bool :=
  blankTable.contains c

theorem isBlank_of_isWhitespace {c : Char} (h : c.isWhitespace = true) : isBlank c = true := by
  simp only [Char.isWhitespace, Bool.or_eq_true, decide_eq_true_eq] at h
  rcases h with ((rfl | rfl) | rfl) | rfl <;> decide +kernel

end LineSearch.Text
