import LineSearch.Text.Basic

/-!
# Writing bytes

A sink is what has been written so far and what it will still take. A write that does not fit leaves
in the sink what fits and fails; pushing out what was written can fail on its own.
-/

namespace LineSearch

structure Sink where
  written : Bytes
  /-- The number of bytes it keeps in all; without one it keeps everything. -/
  capacity : Option Nat
  /-- Why what was written cannot be pushed out. -/
  flushFault : Option String
  deriving DecidableEq, Repr

inductive WriteFailure where
  /-- Not all the bytes fitted. -/
  | full
  /-- The bytes could not be pushed out. -/
  | flush (reason : String)
  deriving DecidableEq, Repr

def WriteFailure.message : WriteFailure → String
  | .full => "failed to write whole buffer"
  | .flush reason => reason

namespace Sink

def unbounded : Sink :=
  ⟨[], none, none⟩

def write (sink : Sink) (bytes : Bytes) : Except WriteFailure Unit × Sink :=
  match sink.capacity with
  | none => (.ok (), { sink with written := sink.written ++ bytes })
  | some capacity =>
      let room := capacity - sink.written.length
      let result := if bytes.length ≤ room then .ok () else .error .full
      (result, { sink with written := sink.written ++ bytes.take room })

def flush (sink : Sink) : Except WriteFailure Unit :=
  match sink.flushFault with
  | none => .ok ()
  | some reason => .error (.flush reason)

/-- Writes the bytes and pushes them out; a write that fails is not pushed out. -/
def writeOut (sink : Sink) (bytes : Bytes) : Except WriteFailure Unit × Sink :=
  let (result, after) := sink.write bytes
  (result >>= fun _ => after.flush, after)

end Sink

end LineSearch
