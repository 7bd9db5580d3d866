import LineSearch.Text.Alphabetic
import LineSearch.Text.Basic
import LineSearch.Text.Blank
import LineSearch.Text.Numeric

/-!
# Tokens of a pattern

A pattern is a sequence of tokens. A token says what may stand at one place of the line and how
often. All kinds but one concern a single character, and `Token.accepts` says which characters they
take; a group holds the texts of its branches, each of which is a pattern of its own, and takes no
character by itself.
-/

namespace LineSearch

inductive Shorthand where
  /-- Digits: of ASCII `0` to `9`, elsewhere every number character. -/
  | digit
  /-- Letters, digits and the underscore. -/
  | word
  | blank
  | any
  deriving DecidableEq, Repr

def Shorthand.accepts (shorthand : Shorthand) (c : Char) : Bool :=
  match shorthand with
  | .digit => Text.isNumeric c
  | .word => Text.isAlphabetic c || Text.isNumeric c || c == '_'
  | .blank => Text.isBlank c
  | .any => true

inductive Anchor where
  | lineStart
  | lineEnd
  deriving DecidableEq, Repr

/-- The character an anchor is written as, which it stands for where it is no mark. -/
def Anchor.char : Anchor → Char
  | .lineStart => '^'
  | .lineEnd => '$'

inductive Quantifier where
  | once
  /-- Once or not at all, written `?`. -/
  | optional
  /-- Once or more, written `+`. -/
  | repeated
  deriving DecidableEq, Repr

inductive Token.Kind where
  | literal (c : Char)
  | shorthand (set : Shorthand)
  /-- One of the listed characters or, if negated, any other. -/
  | charClass (members : List Char) (negated : Bool)
  /-- What one of the branches matches, the earlier branches first. -/
  | group (branches : List Text)
  | anchor (mark : Anchor)
  deriving DecidableEq, Repr

structure Token where
  kind : Token.Kind
  quantifier : Quantifier
  deriving DecidableEq, Repr

namespace Token

/-- Whether the character may stand where a token of this kind stands. A group takes no single
character. -/
def Kind.accepts (kind : Kind) (c : Char) : Bool :=
  match kind with
  | .literal expected => c == expected
  | .shorthand set => set.accepts c
  | .charClass members negated => members.contains c != negated
  | .group _ => false
  | .anchor mark => c == mark.char

def accepts (token : Token) (c : Char) : Bool :=
  token.kind.accepts c

def isAnchor (token : Token) (mark : Anchor) : Bool :=
  token.kind == .anchor mark

def branches (token : Token) : List Text :=
  match token.kind with
  | .group branches => branches
  | _ => []

end Token

end LineSearch
