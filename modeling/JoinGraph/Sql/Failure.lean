import JoinGraph.Sql.Dialect
import JoinGraph.Text.Trim

/-!
# Failures of the grammar

Why the grammar did not yield a SELECT statement. A complaint of the parser is a sentence; the
place it names and the kind of failure are read from that sentence (`Failure.ofComplaint`).
-/

namespace JoinGraph.Sql

/-- A line and a column of a text, both counted from one. -/
structure Position where
  line : Nat
  column : Nat
  deriving DecidableEq, Repr

/-- The kinds of failures. -/
inductive FailureKind where
  /-- something stands where it may not stand -/
  | unexpectedToken
  /-- the text ends too early -/
  | unexpectedEnd
  /-- the text is well formed but is not a single SELECT -/
  | unsupported
  deriving DecidableEq, Repr

/-- A failure with all that is known of it. -/
structure Failure where
  message : String
  position? : Option Position
  dialect? : Option Dialect
  kind : FailureKind
  deriving DecidableEq, Repr

/-! ## The place that a sentence names -/

/-- Takes a mark off the front of a text, and the blanks behind it. -/
def afterMark? (mark : String) (s : List Char) : Option (List Char) :=
  if mark.toList.isPrefixOf s then some (Text.trimFront (s.drop mark.toList.length)) else none

/-- Takes digits off the front of a text, and the blanks behind them. -/
def afterDigits? (s : List Char) : Option (List Char × List Char) :=
  let digits := s.takeWhile Text.isDecimalDigit
  if digits.isEmpty then none
  else some (digits, Text.trimFront (s.dropWhile Text.isDecimalDigit))

/-- The digits of the line and the column that a text names at its front. -/
def placeAt? (s : List Char) : Option (List Char × List Char) := do
  let (line, s) ← afterDigits? (← afterMark? "Line:" s)
  let (column, _) ← afterDigits? (← afterMark? "Column:" (← afterMark? "," s))
  return (line, column)

/-- The first place that a text names. -/
def placeIn? : List Char → Option (List Char × List Char)
  | [] => none
  | c :: rest => placeAt? (c :: rest) <|> placeIn? rest

/-- The number of ASCII digits, as long as it fits into 64 bits. -/
def smallNumber? (digits : List Char) : Option Nat :=
  if digits.all Text.isAsciiDigit then
    let n := digits.foldl (fun n c => 10 * n + (c.toNat - 48)) 0
    if n < Nat.pow 2 64 then some n else none
  else none

/-- The position that a sentence names. -/
def positionIn? (sentence : String) : Option Position := do
  let (line, column) ← placeIn? sentence.toList
  return ⟨← smallNumber? line, ← smallNumber? column⟩

namespace Failure

/-- Whether a sentence speaks of the end of the text. -/
def speaksOfEnd (sentence : String) : Bool :=
  let lower := sentence.toList.map Text.asciiLower
  Text.contains "eof".toList lower || Text.contains "unexpected end".toList lower

/-- A failure of which only the message is known. -/
def ofMessage (message : String) : Failure := ⟨message, none, none, .unexpectedToken⟩

/-- The failure that a complaint of the parser tells. -/
def ofComplaint (complaint : String) : Failure :=
  let message := "sql parser error: " ++ complaint
  ⟨message, positionIn? message, none,
    if speaksOfEnd message then .unexpectedEnd else .unexpectedToken⟩

/-- The complaint about a statement that is nested too deeply. -/
def tooDeep : String := "recursion limit exceeded"

/-- A statement that is well formed but cannot be drawn. -/
def unsupported (message : String) : Failure := ⟨message, none, none, .unsupported⟩

/-- Adds the dialect in which the text was read. -/
def inDialect (f : Failure) (d : Dialect) : Failure := { f with dialect? := some d }

/-- The failure as one line. -/
def text (f : Failure) : String :=
  let dialect := match f.dialect? with
    | some d => " (" ++ d.title ++ ")"
    | none => ""
  let position := match f.position? with
    | some p => " at line " ++ String.ofList (Nat.toDigits 10 p.line) ++ ", column "
        ++ String.ofList (Nat.toDigits 10 p.column)
    | none => ""
  "Parse error" ++ dialect ++ position ++ ": " ++ f.message

end Failure

end JoinGraph.Sql
