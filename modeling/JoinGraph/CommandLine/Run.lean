import JoinGraph.CommandLine.Arguments
import JoinGraph.CommandLine.Surroundings
import JoinGraph.Session

/-!
# Runs

A run reads its arguments, takes the statement from where they say, and prints the result or
writes it to a file.  What it does to its surroundings is cut into pure steps, so that a run in
modelled surroundings and one in real ones share them: `Arguments.answer` from the input to the
text, `Arguments.ending` once the text is delivered, and `Ending.ofFault` or `Ending.brokenOff`
for what went wrong on the way.

## Main definitions

* `Arguments.run`: a run in its surroundings.
* `runIn`: the same from the words of the command line.
* `run`: the same in a directory and nothing else.
-/

namespace JoinGraph.CommandLine

/-- What this program calls itself. -/
def programName : String := "joinscope"

/-- The version of this program. -/
def programVersion : String := "0.1.0"

/-- The statement that stands in for one when an example is asked for. -/
def exampleStatement : String :=
  "SELECT users.id, users.name, orders.order_date, orders.total \n" ++
  "FROM users \n" ++
  "JOIN orders ON users.id = orders.user_id \n" ++
  "WHERE orders.status = 'completed' \n" ++
  "ORDER BY orders.order_date DESC"

/-! ## Faults -/

/-- Why a run has no result. -/
inductive RunFault where
  | unreadableInput (fault : FileFault)
  | unreadable (path : String) (fault : FileFault)
  | noGraph (fault : InputFault)
  | unwritable (path : String) (fault : FileFault)
  | unprintable (fault : FileFault)
  deriving DecidableEq, Repr

/-- The wording of a fault. -/
def RunFault.message : RunFault → String
  | unreadableInput fault => "Failed to read from stdin: " ++ fault.message
  | unreadable path fault => "Failed to read file: " ++ path ++ ": " ++ fault.message
  | noGraph fault => "Cannot graph statement: " ++ fault.message
  | unwritable path fault => "Failed to write to " ++ path ++ ": " ++ fault.message
  | unprintable fault => "Failed to write to stdout: " ++ fault.message

/-- The fault of a place from which no statement could be read. -/
def Origin.fault : Origin → FileFault → RunFault
  | .builtIn, fault | .standardInput, fault => .unreadableInput fault
  | .file path, fault => .unreadable path fault

/-! ## From the input to the text -/

/-- The text that is asked for, and whether it shows a diagnostic graph only. -/
structure Rendering where
  text : String
  isDiagnostic : Bool
  deriving DecidableEq, Repr

/-- The request for a statement. -/
def Arguments.request (a : Arguments) (sql : String) : Request :=
  ⟨sql, a.dialect, a.parsers, some a.options⟩

/-- Whether colors are wanted: only where a terminal shows what is printed. -/
def Arguments.isColored (a : Arguments) (isTerminal : Bool) : Bool := a.output?.isNone && isTerminal

/-- What is asked for about a statement. -/
def Arguments.rendering (a : Arguments) (isTerminal : Bool) (sql : String) :
    Except RunFault Rendering :=
  match (a.request sql).generate with
  | .ok result =>
    .ok ⟨result.render a.format (a.isColored isTerminal), result.graph.isDiagnostic⟩
  | .error fault => .error (.noGraph fault)

/-- What is asked for about the input. -/
def Arguments.answer (a : Arguments) (isTerminal : Bool) (input : Except FileFault ByteArray) :
    Except RunFault Rendering :=
  match input.bind textOfBytes with
  | .ok sql => a.rendering isTerminal sql
  | .error fault => .error (a.origin.fault fault)

/-! ## Endings -/

/-- How a run ends: its exit code, and what it prints. -/
structure Ending where
  code : UInt8
  output : String
  errors : String
  deriving DecidableEq, Repr

/-- A run that does what is asked for. -/
def Ending.done (output : String) : Ending := ⟨0, output, ""⟩

/-- A run that could not read, draw or write. -/
def Ending.ofFault (fault : RunFault) : Ending :=
  ⟨66, "", programName ++ ": error: " ++ fault.message ++ "\n"⟩

/-- A run that cannot print the end of the last line, which is not prepared for. -/
def Ending.brokenOff (output : String) (fault : FileFault) : Ending :=
  ⟨101, output, "failed printing to stdout: " ++ fault.message ++ "\n"⟩

/-- Whether a diagnostic graph is warned about; one in JSON says so itself. -/
def Arguments.warns (a : Arguments) : Bool :=
  !a.isQuiet && match a.format with
    | .json _ => false
    | _ => true

/-- How a run ends that has delivered a rendering, and what it has printed for it. -/
def Arguments.ending (a : Arguments) (r : Rendering) (output : String) : Ending :=
  { code := if r.isDiagnostic then 1 else 0
    output := output
    errors :=
      if r.isDiagnostic && a.warns then programName ++ ": warning: graph construction failed\n"
      else "" }

/-- How arguments are used. -/
def usage : String :=
  "Draw the tables, fields and joins of a SQL SELECT statement\n\nUsage: " ++ programName ++
    " [OPTIONS] [FILE]\n\nOptions:\n" ++
  String.join (Parameter.options.map fun p =>
    "  " ++ (match p.short? with
      | some c => "-" ++ String.ofList [c] ++ ", "
      | none => "    ") ++ p.title ++ "\n")

/-- How a run ends whose arguments ask for no graph. -/
def Halt.ending : Halt → Ending
  | .fault cause => ⟨2, "", "error: " ++ cause.message ++ "\n\n" ++ usage⟩
  | .help => .done usage
  | .version => .done (programName ++ " " ++ programVersion ++ "\n")

/-! ## Printing -/

/-- Whether a text ends in a newline. -/
def endsLine (text : String) : Bool := text.toList.getLast? == some '\n'

/-- A text that ends in a newline. -/
def endLine (text : String) : String := if endsLine text then text else text ++ "\n"

/-- How many bytes of an unfinished line wait for its end. -/
def lineBuffer : Nat := 1024

/-- The last line of a text, if it is not finished. -/
def lastLine (text : String) : String :=
  String.ofList (text.toList.reverse.takeWhile (· ≠ '\n')).reverse

/-- How many bytes of a text are sent as it is printed.  A short last line waits for its end. -/
def sentAtOnce (text : String) : Nat :=
  let waiting := (lastLine text).utf8ByteSize
  if waiting < lineBuffer then text.utf8ByteSize - waiting else text.utf8ByteSize

/-- The characters that fit into some bytes, from the front. -/
def fitting (room : Nat) : List Char → List Char
  | [] => []
  | c :: rest => if c.utf8Size ≤ room then c :: fitting (room - c.utf8Size) rest else []

/-- Prints a rendering, up to the room that there is for it, and ends.  A fault is told for the
text, but not for the newline that is missing at its end. -/
def Arguments.print (a : Arguments) (r : Rendering) (outlet : Outlet) : Ending :=
  match Limit.exceeded? outlet.limit? (sentAtOnce r.text) with
  | some limit =>
    { Ending.ofFault (.unprintable limit.fault) with
      output := String.ofList (fitting limit.room r.text.toList) }
  | none =>
    match Limit.exceeded? outlet.limit? (endLine r.text).utf8ByteSize with
    | some limit => .brokenOff (String.ofList (fitting limit.room r.text.toList)) limit.fault
    | none => a.ending r (endLine r.text)

/-! ## Runs -/

/-- The bytes of the statement. -/
def Arguments.input (a : Arguments) (s : Surroundings) : Except FileFault ByteArray :=
  match a.origin with
  | .builtIn => .ok exampleStatement.toUTF8
  | .standardInput => s.input
  | .file path => s.read path

/-- How a run ends, and the files after it. -/
def Arguments.run (a : Arguments) (s : Surroundings) : Ending × Directory :=
  match a.answer s.outlet.isTerminal (a.input s) with
  | .error fault => (.ofFault fault, s.files)
  | .ok r =>
    match a.output? with
    | none => (a.print r s.outlet, s.files)
    | some path =>
      match s.write path r.text.toUTF8 with
      | (none, after) => (a.ending r "", after)
      | (some fault, after) => (.ofFault (.unwritable path fault), after)

/-- How a run with these arguments ends, and the files after it. -/
def runIn (arguments : List String) (s : Surroundings) : Ending × Directory :=
  match Arguments.read arguments with
  | .ok a => a.run s
  | .error halt => (halt.ending, s.files)

/-- How a run in a directory and nothing else ends, and the directory after it. -/
def run (arguments : List String) (standardInput : ByteArray) (d : Directory) :
    Ending × Directory :=
  let (ending, after) := runIn arguments (.ofDirectory d standardInput)
  (ending, after.below Surroundings.workplace)

end JoinGraph.CommandLine
