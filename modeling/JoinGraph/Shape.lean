import JoinGraph.Shape.Grammar
import JoinGraph.Shape.Structured
import JoinGraph.Shape.Flat

/-!
# Shapes of statements

Parsers do not agree on the form of a statement. Three shapes are known; `Tree.recognize` decides
once which one a JSON value has, and `Shape.statement` reads the statement off it.
-/

namespace JoinGraph

/-- A statement in one of the known shapes. -/
inductive Shape where
  | grammar (select : Shape.Grammar.Select)
  | structured (select : Shape.Structured.Select)
  | flat (select : Shape.Flat.Select)

namespace Shape

/-- How a shape is called. -/
def name : Shape → String
  | grammar _ => "full-grammar"
  | structured _ => "structured"
  | flat _ => "fallback"

/-- Writes the tree of a shape. -/
def toJson : Shape → Json
  | grammar select => select.toJson
  | structured select => select.toJson
  | flat select => select.toJson

/-- The statement that a tree stands for. -/
def statement : Shape → Statement
  | grammar select => select.statement
  | structured select => select.statement
  | flat select => select.statement

end Shape

/-- What a parser yields: a tree of a known shape, or a value whose shape is not known yet. -/
inductive Tree where
  | shaped (shape : Shape)
  | json (value : Json)

/-- Why a value has no known shape. -/
structure ShapeFault where
  reason : String
  deriving DecidableEq, Repr

/-- The wording of the fault. -/
def ShapeFault.message (f : ShapeFault) : String := "unrecognized statement shape: " ++ f.reason

namespace Tree

/-- What a value without a known shape is. -/
def outline : Json → String
  | .object [] => "empty object"
  | .object members =>
    "object with keys [" ++ ", ".intercalate (members.map (·.1)) ++ "]"
  | .array items => "array of " ++ String.ofList (Nat.toDigits 10 items.length) ++ " items"
  | .null => "null"
  | other => "scalar " ++ other.compact

/-- Whether a value is the root of a SELECT statement in the grammar shape. -/
def hasGrammarRoot (v : Json) : Bool :=
  match (v.get? "ast").bind (Json.get? "type") with
  | some (.string kind) => Text.equalFold kind "select"
  | _ => false

/-- Whether a value is the root of a statement in the structured shape. -/
def hasStructuredRoot (v : Json) : Bool := ((v.get? "SELECT").map Json.isObject).getD false

/-- Whether a value is the root of a statement in the flat shape. -/
def hasFlatRoot (v : Json) : Bool := (v.get? "select").isSome || (v.get? "from").isSome

/-- Reads a tree whose root has a known shape. -/
def readShape {α : Type} (shapeName : String) (make : α → Shape) (decoder : Json.Decoder α)
    (v : Json) : Except ShapeFault Shape :=
  match decoder v with
  | .ok a => .ok (make a)
  | .error m => .error ⟨"malformed " ++ shapeName ++ " AST: " ++ m.message⟩

/-- The shape of a value, tried in order: grammar, structured, flat. -/
def recognizeJson (v : Json) : Except ShapeFault Shape :=
  if hasGrammarRoot v then readShape "full-grammar" .grammar Shape.Grammar.Select.decode v
  else if hasStructuredRoot v then
    readShape "structured" .structured Shape.Structured.Select.decode v
  else if hasFlatRoot v then readShape "fallback" .flat Shape.Flat.Select.decode v
  else .error ⟨outline v⟩

/-- The shape of a tree. -/
def recognize : Tree → Except ShapeFault Shape
  | shaped shape => .ok shape
  | json v => recognizeJson v

/-- The statement of a tree. -/
def statement (t : Tree) : Except ShapeFault Statement := Shape.statement <$> t.recognize

end Tree

end JoinGraph
