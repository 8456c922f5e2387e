import JoinGraph.Sql.Strength

/-!
# Names of tables and functions

A name is a path of parts. In `bigquery` a table's path may have hyphens in it, and a delimited
part may hold a whole path. In `snowflake` a part may be made by a call, and two periods skip a
part.
-/

namespace JoinGraph.Sql.Grammar

open Parse

/-- Whether the next token is a hyphen that no blank precedes. -/
def tightHyphen : Parse Bool := do
  match (← get).head? with
  | some t => return t.token == .sign "-" && !t.isSpaced
  | none => return false

/-- Complains about what goes on a part with hyphens. -/
def hyphenFault {α : Type} : Parse α := expected "continuation of hyphenated identifier"

/--
Reads what follows the hyphens of a part; `fuel` bounds the hyphens. Yields the part, whether the
period behind it is gone already, and whether nothing may follow it.
-/
def hyphenated : (fuel : Nat) → String → Parse (String × Bool × Bool)
  | 0, value => return (value, false, false)
  | fuel + 1, value => do
    unless ← tightHyphen do return (value, false, false)
    advance
    let value := value ++ "-"
    match (← get).head? with
    | some ⟨.word more none, _, false⟩ =>
      advance
      hyphenated fuel (value ++ more)
    | some ⟨.number digits false, _, false⟩ =>
      match digits.toList.getLast? with
      | some '.' =>
        let whole := digits.toList.takeWhile (· ≠ '.')
        if whole.isEmpty || !whole.all Text.isAsciiDigit then hyphenFault
        else
          advance
          return (value ++ String.ofList whole, true, false)
      | _ =>
        advance
        let value := value ++ digits
        if ← isSign "." then
          hyphenated fuel value
        else if ← tightHyphen then hyphenated fuel value
        else return (value, false, true)
    | _ => hyphenFault

/-- Reads a part that may have hyphens, and tells whether the period behind it is gone already. -/
def hyphenedPart : Parse (Ident × Bool) := do
  match ← peek? with
  | some (.word text none) =>
    advance
    let (value, endsPart, endsAll) ← hyphenated ((← get).length + 1) text
    if endsAll && (← peek?).isSome then expected "whitespace following hyphenated identifier"
    else return (⟨value, none⟩, endsPart)
  | _ => return (← ident, false)

/-- Reads a path of parts that may have hyphens. -/
def hyphenedName : Parse (List Ident) := do
  let (first, endsPart) ← hyphenedPart
  let (parts, _) ← repeatFrom ([first], endsPart) fun (parts, endsPart) => do
    if ← eitherOf (return endsPart) (takeSign ".") then
      let (part, endsPart) ← hyphenedPart
      return some (part :: parts, endsPart)
    else return none
  return parts.reverse

/-- The parts that a delimited part holds. -/
def splitPart (part : Ident) : List Ident :=
  (Text.splitChars '.' part.value.toList).map fun value => ⟨String.ofList value, part.quote?⟩

/-- Whether a name makes a part of a path from an argument. -/
def makesPart (d : Dialect) (name : Ident) (before : ObjectName) : Bool :=
  d == .snowflake && name.quote?.isNone && Text.equalFold name.value "identifier"
    && before.all fun part => match part with
      | .ident _ => true
      | .made _ => false

/-- Reads the parts of a path behind the parts `before`, which stand in reverse order. -/
def nameParts (g : Grammar) (argument : Parse String) (before : ObjectName) :
    Parse ObjectName := do
  let skips ← onlyIf (g.dialect.doubleDots && before.length == 1) (takeSign ".")
  let before := if skips then .ident ⟨"", none⟩ :: before else before
  let name ← ident
  if makesPart g.dialect name before then
    let arguments ← parenthesized (commaListUntil g.dialect ")" argument)
    return .made (name.text ++ inParentheses (commaText arguments)) :: before
  else return .ident name :: before

/-- Reads a path of parts without hyphens. -/
def plainName (g : Grammar) : Parse ObjectName := do
  let argument : Parse String := Expr.text <$> g.anyExpr
  let first ← nameParts g argument []
  let parts ← repeatFrom first fun parts => do
    if ← takeSign "." then return some (← nameParts g argument parts) else return none
  return parts.reverse

/-- The parts of a name in which delimited parts may hold whole paths. -/
def splitName (name : ObjectName) : ObjectName :=
  name.flatMap fun part => match part with
    | .ident part => (splitPart part).map .ident
    | .made text => [.made text]

/-- Reads the name of a table, a function or a type. -/
def objectName (g : Grammar) (inFrom : Bool) : Parse ObjectName :=
  if g.dialect == .bigquery then
    splitName <$> (if inFrom then List.map .ident <$> hyphenedName else plainName g)
  else plainName g

end JoinGraph.Sql.Grammar
