import JoinGraph.CommandLine.Run

/-!
# The command

Runs in the real file system. Everything but the reading and writing is `JoinGraph.CommandLine`.
-/

namespace JoinGraph.CommandLine

/-- A fault of the system. -/
def FileFault.ofError (e : IO.Error) : FileFault :=
  match e with
  | .noFileOrDirectory _ number text | .permissionDenied _ number text
  | .resourceExhausted _ number text
  | .inappropriateType _ number text | .alreadyExists _ number text | .invalidArgument _ number text
  | .interrupted _ number text =>
    .system text number.toNat
  | .otherError number text | .resourceBusy number text | .resourceVanished number text
  | .hardwareFault number text | .illegalOperation number text | .protocolError number text
  | .timeExpired number text | .unsatisfiedConstraints number text
  | .unsupportedOperation number text
  | .noSuchThing _ number text =>
    .system text number.toNat
  | .unexpectedEof => .system "unexpected end of file" 0
  | .userError text => .system text 0

/-- The value of an action, or its fault. -/
def attempt {α : Type} (action : IO α) : IO (Except FileFault α) := do
  try return .ok (← action)
  catch e => return .error (.ofError e)

/-- The bytes of the statement. -/
def Arguments.readInput (a : Arguments) : IO (Except FileFault ByteArray) :=
  match a.origin with
  | .builtIn => return .ok exampleStatement.toUTF8
  | .standardInput => do attempt (← IO.getStdin).readBinToEnd
  | .file path => attempt (IO.FS.readBinFile path)

/-- Prints a text, all of it at once. -/
def send (text : String) : IO (Except FileFault Unit) := do
  let output ← IO.getStdout
  attempt do
    output.putStr text
    output.flush

/-- Prints a rendering, and tells how the run ends. -/
def Arguments.deliver (a : Arguments) (r : Rendering) : IO Ending := do
  match ← send r.text with
  | .error fault => return .ofFault (.unprintable fault)
  | .ok _ =>
    if endsLine r.text then return a.ending r r.text
    else
      match ← send "\n" with
      | .error fault => return .brokenOff r.text fault
      | .ok _ => return a.ending r (endLine r.text)

/-- Runs, and tells how the run ends. -/
def Arguments.perform (a : Arguments) : IO Ending := do
  match a.answer (← (← IO.getStdout).isTty) (← a.readInput) with
  | .error fault => return .ofFault fault
  | .ok r =>
    match a.output? with
    | none => a.deliver r
    | some path =>
      match ← attempt (IO.FS.writeFile path r.text) with
      | .ok _ => return a.ending r ""
      | .error fault => return .ofFault (.unwritable path fault)

end JoinGraph.CommandLine

open JoinGraph.CommandLine

/-- Runs with the words of the command line. -/
def main (words : List String) : IO UInt32 := do
  let ending ← match Arguments.read words with
    | .ok a => a.perform
    | .error halt => do
      IO.print halt.ending.output
      pure halt.ending
  IO.eprint ending.errors
  return ending.code.toUInt32
