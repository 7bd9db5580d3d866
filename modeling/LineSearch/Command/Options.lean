import LineSearch.Text.Basic

/-!
# Command line options

The command takes a pattern, given behind `-E`, and the flag `-o`. The argument behind `-E` is the
pattern whatever it looks like. Arguments are taken from the left, and the first that has no place
is the one reported.
-/

namespace LineSearch

structure Options where
  pattern : Text
  /-- Whether the part found is to be written. -/
  onlyMatching : Bool
  deriving DecidableEq, Repr

inductive UsageError where
  /-- There is no `-E`. -/
  | noPattern
  /-- Nothing stands behind `-E`. -/
  | patternMissing
  | unknownOption (argument : Text)
  | unexpectedArgument (argument : Text)
  deriving DecidableEq, Repr

namespace UsageError

def message : UsageError → String
  | .noPattern => "expected a pattern given with '-E'"
  | .patternMissing => "missing pattern after '-E'"
  | .unknownOption argument => "unknown option '" ++ String.ofList argument ++ "'"
  | .unexpectedArgument argument => "unexpected argument '" ++ String.ofList argument ++ "'"

end UsageError

namespace Options

def usage : String :=
  "Usage: echo <input_text> | tinygrep -E <pattern> [-o]"

/-- Takes the arguments one after the other, where `pattern` and `onlyMatching` were found before
them. -/
def parseFrom (pattern : Option Text) (onlyMatching : Bool) : List Text → Except UsageError Options
  | [] =>
      match pattern with
      | some pattern => .ok ⟨pattern, onlyMatching⟩
      | none => .error .noPattern
  | ['-', 'o'] :: rest => parseFrom pattern true rest
  | ['-', 'E'] :: rest =>
      match pattern, rest with
      | some _, _ => .error (.unexpectedArgument ['-', 'E'])
      | none, [] => .error .patternMissing
      | none, given :: rest => parseFrom (some given) onlyMatching rest
  | ('-' :: c :: name) :: _ => .error (.unknownOption ('-' :: c :: name))
  | argument :: _ => .error (.unexpectedArgument argument)

def parse (arguments : List Text) : Except UsageError Options :=
  parseFrom none false arguments

end Options

end LineSearch
