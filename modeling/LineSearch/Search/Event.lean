import LineSearch.Pattern
import LineSearch.Text.Quoted

/-!
# Events of a search

What can be reported while a line is searched. A search does not keep its events: it hands each of
them to an observer at the moment it happens, so the events come in the order of the work and a
search nobody observes pays nothing for them.
-/

namespace LineSearch

inductive Event where
  /-- The line was read and will be searched for the pattern. -/
  | lineRead (pattern line : Text)
  /-- A search began, with so many tokens and so many characters. -/
  | searchStarted (tokens length : Nat) (placement : Placement)
  /-- A branch of a group, with so many tokens, is about to be tried at a position. -/
  | branchTried (branch : Text) (tokens pos : Nat)
  deriving DecidableEq, Repr

def Event.message : Event → String
  | .lineRead pattern line => s!"pattern {Text.quoted pattern}, input {Text.quoted line}"
  | .searchStarted tokens length placement =>
      s!"matching {tokens} tokens against {length} chars using {placement.name}"
  | .branchTried branch tokens pos =>
      s!"branch {Text.quoted branch} compiled to {tokens} tokens, trying at {pos}"

/-- What is done with each event, in the monad `m` of the observer. -/
abbrev Observer (m : Type → Type) := Event → m Unit

namespace Observer

def silent : Observer Id := fun _ => pure ()

def journal : Observer (StateM (Array Event)) := fun event => modify (·.push event)

end Observer

end LineSearch
