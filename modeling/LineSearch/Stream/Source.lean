import LineSearch.Text.Basic

/-!
# Reading lines

A source is what a reader still has before it: bytes, and behind them the end of the input or a
fault of the device. Lines are read one after the other. A line ends with a newline or where the
input ends, its bytes are consumed whatever they are, and it is a text only if they are well-formed
UTF-8.
-/

namespace LineSearch

structure Source where
  bytes : Bytes
  /-- Why the bytes after these cannot be read; without a fault the input ends here. -/
  fault : Option String
  deriving DecidableEq, Repr

inductive ReadFailure where
  /-- The bytes of the line are not well-formed UTF-8. -/
  | notText
  /-- The device failed before the line ended. -/
  | device (reason : String)
  deriving DecidableEq, Repr

def ReadFailure.message : ReadFailure → String
  | .notText => "stream did not contain valid UTF-8"
  | .device reason => reason

def newline : UInt8 := 0x0A

namespace Source

def ofBytes (bytes : Bytes) : Source :=
  ⟨bytes, none⟩

/-- The bytes through the first newline, or all of them if there is none, and the bytes behind
those. -/
def splitLine (bytes : Bytes) : Bytes × Bytes :=
  let rest := bytes.dropWhile (· != newline)
  (bytes.takeWhile (· != newline) ++ rest.take 1, rest.drop 1)

/-- A line without the newline at its end and, if it had one, without a carriage return before that.
-/
def stripTerminator (line : Text) : Text :=
  if line.getLast? = some '\n' then
    let body := line.dropLast
    if body.getLast? = some '\r' then body.dropLast else body
  else
    line

/-- Reads one line and leaves the rest of the source. At the end of the input the line is empty. -/
def readLine (source : Source) : Except ReadFailure Text × Source :=
  let (line, rest) := splitLine source.bytes
  let result :=
    match source.fault with
    | some reason => if newline ∈ line then decode line else .error (.device reason)
    | none => decode line
  (result, { source with bytes := rest })
where
  /-- The text of a line whose bytes were all read. -/
  decode (line : Bytes) : Except ReadFailure Text :=
    match Text.ofUtf8? line with
    | some text => .ok (stripTerminator text)
    | none => .error .notText

def readLines : Nat → Source → List (Except ReadFailure Text) × Source
  | 0, source => ([], source)
  | count + 1, source =>
      let (first, behind) := source.readLine
      let (others, rest) := readLines count behind
      (first :: others, rest)

theorem append_splitLine (bytes : Bytes) : (splitLine bytes).1 ++ (splitLine bytes).2 = bytes := by
  simp only [splitLine, List.append_assoc, List.take_append_drop]
  exact List.takeWhile_append_dropWhile

end Source

end LineSearch
