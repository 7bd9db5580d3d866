import LineSearch.Command.Run

/-!
# The program

Reads the first line of the standard input, leaves the work to `commandM`, and reports its outcome.
-/

namespace LineSearch

/-- Reads through the first newline, or up to the end of the input or a fault. -/
partial def readSource (stream : IO.FS.Stream) (read : ByteArray) : IO Source := do
  match ← (stream.read 1).toBaseIO with
  | .error fault => return ⟨read.data.toList, some (toString fault)⟩
  | .ok block =>
      let bytes := read ++ block
      if block.isEmpty || block.data.contains newline then
        return .ofBytes bytes.data.toList
      else
        readSource stream bytes

def report (exit : Exit) (stdout stderr : IO.FS.Stream) : IO UInt32 := do
  match ← (stdout.write exit.stdout.toByteArray *> stdout.flush).toBaseIO with
  | .ok () =>
      stderr.putStr exit.stderr
      return exit.code.toUInt32
  | .error fault =>
      let failed := Exit.ofRunResult ⟨.error (.writing (.flush (toString fault))), .unbounded⟩
      stderr.putStr failed.stderr
      return failed.code.toUInt32

end LineSearch

def main (arguments : List String) : IO UInt32 := do
  let input : IO LineSearch.Source := do LineSearch.readSource (← IO.getStdin) .empty
  let exit ← LineSearch.commandM (arguments.map String.toList) input
  LineSearch.report exit (← IO.getStdout) (← IO.getStderr)
