import JoinGraph.Render.Listing
import JoinGraph.Render.Flowchart
import JoinGraph.Json.Writer

/-!
# Formats

The forms in which a result can be asked for.
-/

namespace JoinGraph

/-- The forms of a result. -/
inductive Format where
  | listing
  | flowchart
  /-- JSON, on one line or indented -/
  | json (isCompact : Bool)
  deriving DecidableEq, Repr, Inhabited

/-- A result in a form; only a listing has colors. -/
def Result.render (r : Result) (format : Format) (isColored : Bool := false) : String :=
  match format with
  | .listing => Render.listing isColored r
  | .flowchart => Render.flowchart r.graph
  | .json true => r.toJson.compact
  | .json false => r.toJson.pretty

end JoinGraph
