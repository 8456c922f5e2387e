import JoinGraph.Sql.Lexer
import JoinGraph.Sql.Script
import JoinGraph.Sql.Outline

/-!
# The grammar

`Sql.parse` reads a text in a dialect. It yields the outline of a SELECT, or says where and why
the text is not a single SELECT.
-/

namespace JoinGraph.Sql

/-- The failure that a complaint tells. -/
def Complaint.failure : Complaint → Failure
  | about sentence => Failure.ofComplaint sentence
  | tooDeep => Failure.ofComplaint Failure.tooDeep

/-- Reads the statements of a text. -/
def parseScript (d : Dialect) (sql : String) : Except Failure (List Statement) :=
  match Lexer.tokens d sql with
  | .error sentence => .error (Failure.ofComplaint sentence)
  | .ok tokens =>
    match Grammar.script d tokens with
    | .error complaint => .error complaint.failure
    | .ok (statements, _) => .ok statements

/-- The SELECT that statements consist of. -/
def onlySelect (statements : List Statement) : Except Failure Select :=
  match statements with
  | [.query ⟨some select, _⟩] => .ok select
  | [.query ⟨none, _⟩] => .error (.unsupported "query body is not a plain SELECT")
  | [.other] => .error (.unsupported "statement is not a query")
  | statements =>
    .error (.unsupported ("expected exactly one statement, found "
      ++ String.ofList (Nat.toDigits 10 statements.length)))

/-- Reads the outline of a text that is a single SELECT. -/
def parse (d : Dialect) (sql : String) : Except Failure Shape.Grammar.Select :=
  match parseScript d sql with
  | .error failure => .error (failure.inDialect d)
  | .ok statements =>
    match onlySelect statements with
    | .error failure => .error (failure.inDialect d)
    | .ok select => .ok select.outline

end JoinGraph.Sql
