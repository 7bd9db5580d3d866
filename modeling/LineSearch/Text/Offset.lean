import LineSearch.Text.Basic

/-!
# Byte offsets in a text

A text is cut where its UTF-8 form can be cut: in front of a character or behind the last.
`byteOffset` turns a number of characters into such a place, and `slice?` cuts out what stands
between two of them; it refuses a number in the middle of a character or behind the text, and two
places that come in the wrong order.
-/

namespace LineSearch.Text

/-- The number of bytes in front of the character at the position; behind the last character, of all
bytes. -/
def byteOffset (text : Text) (pos : Nat) : Nat :=
  walk 0 text pos
where
  /-- The offset, where so many bytes stand before the text. -/
  walk (before : Nat) : Text → Nat → Nat
    | [], _ => before
    | _ :: _, 0 => before
    | c :: rest, pos + 1 => walk (before + c.utf8Size) rest pos

def cut? (offset : Nat) (text : Text) : Option (Text × Text) :=
  walk [] offset text
where
  /-- The parts, where the characters of `front` were passed, the last one first. -/
  walk (front : Text) : Nat → Text → Option (Text × Text)
    | 0, rest => some (front.reverse, rest)
    | _ + 1, [] => none
    | offset + 1, c :: rest =>
        if c.utf8Size ≤ offset + 1 then walk (c :: front) (offset + 1 - c.utf8Size) rest else none

def slice? (text : Text) (start stop : Nat) : Option Text := do
  let (front, _) ← cut? stop text
  let (_, slice) ← cut? start front
  return slice

end LineSearch.Text
