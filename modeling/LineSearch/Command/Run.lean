import LineSearch.Command.Options
import LineSearch.Search.Span
import LineSearch.Stream.Sink
import LineSearch.Stream.Source

/-!
# Running the command

The command reads one line and decides whether it matches the pattern. If asked for, it writes the
part found, on a line of its own. The outcome as the caller of the command sees it, exit code and
both output streams, is a function of the arguments and the input.
-/

namespace LineSearch

variable {m : Type → Type} [Monad m]

/-! ## One line -/

inductive RunFailure where
  | reading (cause : ReadFailure)
  | writing (cause : WriteFailure)
  deriving DecidableEq, Repr

def RunFailure.context : RunFailure → String
  | .reading _ => "failed to read input line"
  | .writing _ => "failed to write match"

def RunFailure.message (failure : RunFailure) : String :=
  match failure with
  | .reading cause => failure.context ++ ": " ++ cause.message
  | .writing cause => failure.context ++ ": " ++ cause.message

/-- How a run ended: whether the line matched, or why that is not known, and what was written. -/
structure RunResult where
  verdict : Except RunFailure Bool
  sink : Sink

def matchLine (found : Found) : Bytes :=
  Text.utf8 (found.text ++ ['\n'])

@[specialize]
def runM (observe : Observer m) (options : Options) (source : Source) (sink : Sink) :
    m RunResult := do
  match source.readLine.1 with
  | .error cause => return ⟨.error (.reading cause), sink⟩
  | .ok line =>
      observe (.lineRead options.pattern line)
      if options.onlyMatching then
        match ← findInLineM observe line options.pattern with
        | none => return ⟨.ok false, sink⟩
        | some found =>
            match sink.writeOut (matchLine found) with
            | (.ok (), after) => return ⟨.ok true, after⟩
            | (.error cause, after) => return ⟨.error (.writing cause), after⟩
      else
        return ⟨.ok (← lineMatchesM observe line options.pattern), sink⟩

def run (options : Options) (source : Source) (sink : Sink) : RunResult :=
  (runM Observer.silent options source sink).run

/-! ## The whole command -/

structure Exit where
  code : UInt8
  stdout : Bytes
  stderr : String
  deriving DecidableEq

namespace Exit

def matchCode : UInt8 := 0

def noMatchCode : UInt8 := 1

def errorCode : UInt8 := 2

def ofUsageError (error : UsageError) : Exit :=
  ⟨errorCode, [], error.message ++ "\n" ++ Options.usage ++ "\n"⟩

def ofRunResult (result : RunResult) : Exit :=
  match result.verdict with
  | .ok true => ⟨matchCode, result.sink.written, ""⟩
  | .ok false => ⟨noMatchCode, result.sink.written, ""⟩
  | .error failure => ⟨errorCode, result.sink.written, "error: " ++ failure.message ++ "\n"⟩

end Exit

/-- The outcome of the command for an argument list, without the name of the command. The input is
asked for only when the arguments are right. -/
def commandM (arguments : List Text) (input : m Source) : m Exit :=
  match Options.parse arguments with
  | .error error => return .ofUsageError error
  | .ok options => return .ofRunResult (run options (← input) .unbounded)

def command (arguments : List Text) (input : Source) : Exit :=
  (commandM arguments (pure input : Id Source)).run

end LineSearch
