import LineSearch.Token.Basic

/-!
# Code points that a set of characters covers

A set of characters is displayed as the maximal ranges of code points that belong to it. Surrogates
and numbers beyond the last code point are no characters and belong to no set, so no range crosses
them.
-/

namespace LineSearch

namespace Text

def CodeRange.consCode (code : Nat) : List CodeRange → List CodeRange
  | [] => [⟨code, code⟩]
  | range :: rest =>
      if range.first = code + 1 then ⟨code, range.last⟩ :: rest else ⟨code, code⟩ :: range :: rest

/-- The maximal ranges of the code points with the property among the `count` code points from
`first` on, followed by the ranges `behind` them. -/
def CodeRange.collect (property : Nat → Bool) (first count : Nat) (behind : List CodeRange) :
    List CodeRange :=
  match count with
  | 0 => behind
  | count + 1 =>
      let code := first + count
      collect property first count (if property code then consCode code behind else behind)

end Text

namespace Shorthand

def coversCode (set : Shorthand) (code : Nat) : Bool :=
  if hvalid : code.isValidChar then set.accepts (Char.ofNatAux code hvalid) else false

def ranges (set : Shorthand) (first last : Nat) : List Text.CodeRange :=
  Text.CodeRange.collect set.coversCode first (min last 0x10FFFF + 1 - first) []

end Shorthand

end LineSearch
