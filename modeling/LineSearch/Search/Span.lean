import LineSearch.Search.Walk
import LineSearch.Text.Offset

/-!
# Searching a line

A search tries the positions that the placement of the pattern allows: a pattern bound to the start
is tried at the start alone, one bound to nothing at every position from the start on, and one bound
to the end alone from the end backwards, so that it finds the shortest end part of the line. A
pattern bound to the end must end there. Each operation comes in two forms: the one whose name ends
in `M` reports to an observer, the other is the same search unobserved.
-/

namespace LineSearch

variable {m : Type → Type} [Monad m]

/-! ## At one position -/

/-- Matches the tokens from the given index on at a position of the line, and returns the position
behind the match. If an end is required, the match must end there. -/
@[specialize]
def matchAtM (observe : Observer m) (chars : Array Char) (pos : Nat) (tokens : List Token)
    (index : Nat) (required : Option Nat) : OptionT m Nat :=
  walk (branchEnd observe chars) chars (tokens.drop index) pos fun stop =>
    if required.all (· == stop) then pure stop else failure

def matchAt? (chars : Array Char) (pos : Nat) (tokens : List Token) (index : Nat)
    (required : Option Nat) : Option Nat :=
  (matchAtM Observer.silent chars pos tokens index required).run.run

/-! ## On the whole line -/

structure Span where
  start : Nat
  stop : Nat
  deriving DecidableEq, Repr

namespace Pattern

@[specialize]
def searchM (observe : Observer m) (pattern : Pattern) (chars : Array Char) : OptionT m Span := do
  OptionT.lift (observe (.searchStarted pattern.tokens.length chars.size pattern.placement))
  let attempt (start : Nat) (required : Option Nat) : OptionT m Span :=
    (⟨start, ·⟩) <$> matchAtM observe chars start pattern.tokens 0 required
  let starts := List.range (chars.size + 1)
  match pattern.placement with
  | .exact => attempt 0 (some chars.size)
  | .fromStart => attempt 0 none
  | .atEnd => starts.reverse.firstM (attempt · (some chars.size))
  | .anywhere => starts.firstM (attempt · none)

def search? (pattern : Pattern) (chars : Array Char) : Option Span :=
  (pattern.searchM Observer.silent chars).run.run

@[specialize]
def isMatchM (observe : Observer m) (pattern : Pattern) (line : Text) : m Bool :=
  return (← (pattern.searchM observe line.toArray).run).isSome

def isMatch (pattern : Pattern) (line : Text) : Bool :=
  (pattern.isMatchM Observer.silent line).run

end Pattern

/-! ## The part found -/

/-- A part found in a line, with the bytes of the line's UTF-8 form before its start and before its
stop. -/
structure Found where
  start : Nat
  stop : Nat
  text : Text
  deriving DecidableEq, Repr

def Found.ofSpan? (line : Text) (span : Span) : Option Found := do
  let start := Text.byteOffset line span.start
  let stop := Text.byteOffset line span.stop
  return ⟨start, stop, ← Text.slice? line start stop⟩

namespace Pattern

@[specialize]
def findM (observe : Observer m) (pattern : Pattern) (line : Text) : m (Option Found) :=
  return (← (pattern.searchM observe line.toArray).run).bind (Found.ofSpan? line)

def find? (pattern : Pattern) (line : Text) : Option Found :=
  (pattern.findM Observer.silent line).run

end Pattern

/-! ## Patterns given as texts -/

/-- Whether the line matches the pattern that a text spells. The empty text matches every line, so
no search is needed to tell. -/
@[specialize]
def lineMatchesM (observe : Observer m) (line pattern : Text) : m Bool :=
  if pattern.isEmpty then return true else (Pattern.ofText pattern).isMatchM observe line

def lineMatches (line pattern : Text) : Bool :=
  (lineMatchesM Observer.silent line pattern).run

@[specialize]
def findInLineM (observe : Observer m) (line pattern : Text) : m (Option Found) :=
  (Pattern.ofText pattern).findM observe line

def findInLine? (line pattern : Text) : Option Found :=
  (findInLineM Observer.silent line pattern).run

end LineSearch
