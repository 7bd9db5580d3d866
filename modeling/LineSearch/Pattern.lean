import LineSearch.Token.Reading

/-!
# Patterns

A pattern is a sequence of tokens and where on the line it must lie. A `^` in front and a `$` at the
end of its text bind it to the start and the end of the line; they belong to the placement and not
to the tokens, however often they are said to stand. Everywhere else `^` and `$` stay among the
tokens and mean themselves.
-/

namespace LineSearch

inductive Placement where
  /-- From the start to the end. -/
  | exact
  /-- From the start to anywhere. -/
  | fromStart
  /-- From anywhere to the end. -/
  | atEnd
  | anywhere
  deriving DecidableEq, Repr

def Placement.name : Placement → String
  | .exact => "Exact"
  | .fromStart => "FromStart"
  | .atEnd => "AtEnd"
  | .anywhere => "Anywhere"

structure Pattern where
  tokens : List Token
  startBound : Bool
  endBound : Bool
  deriving DecidableEq, Repr

namespace Pattern

/-- The pattern that a sequence of tokens spells: the anchors at its two ends are taken off and bind
it. -/
def ofTokens (tokens : List Token) : Pattern :=
  let startBound := tokens.head?.any (·.isAnchor .lineStart)
  let endBound := tokens.getLast?.any (·.isAnchor .lineEnd)
  let beforeEnd := if endBound then tokens.dropLast else tokens
  ⟨if startBound then beforeEnd.tail else beforeEnd, startBound, endBound⟩

def ofText (text : Text) : Pattern :=
  ofTokens (tokenize text)

def placement (pattern : Pattern) : Placement :=
  match pattern.startBound, pattern.endBound with
  | true, true => .exact
  | true, false => .fromStart
  | false, true => .atEnd
  | false, false => .anywhere

end Pattern

end LineSearch
