import JoinGraph.Render.Listing

/-!
# Texts in lines

A text that is written line by line has these lines, if there is no line feed in any of them.

## Main results

* `lines_unlines` — what is written line by line is read line by line.
-/

namespace JoinGraph.Text

/-- The lines of a text; a line feed at its end starts no line. -/
def lines (text : String) : List String :=
  let parts := (splitChars '\n' text.toList).map String.ofList
  if parts.getLast? = some "" then parts.dropLast else parts

private theorem toList_unlines_cons (line : String) (rest : List String) :
    (Render.unlines (line :: rest)).toList = line.toList ++
      '\n' :: (Render.unlines rest).toList := by
  simp [Render.unlines]

theorem splitChars_unlines {list : List String} (h : ∀ line ∈ list, '\n' ∉ line.toList) :
    splitChars '\n' (Render.unlines list).toList = list.map String.toList ++ [[]] := by
  induction list with
  | nil => rfl
  | cons line rest ih =>
      rw [toList_unlines_cons, splitChars_append (h line List.mem_cons_self),
        ih fun l hl => h l (List.mem_cons_of_mem _ hl), List.map_cons, List.cons_append]

/-- What is written line by line is read line by line. -/
theorem lines_unlines {list : List String} (h : ∀ line ∈ list, '\n' ∉ line.toList) :
    lines (Render.unlines list) = list := by
  have hparts : (splitChars '\n' (Render.unlines list).toList).map String.ofList =
      list ++ [""] := by
    simp [splitChars_unlines h]
  simp only [lines, hparts, List.getLast?_concat, if_true, List.dropLast_concat]

/-- What stands between pieces, or in one of them. -/
theorem mem_intercalate {separator : String} {pieces : List String} {c : Char}
    (h : c ∈ (separator.intercalate pieces).toList) :
    c ∈ separator.toList ∨ ∃ piece ∈ pieces, c ∈ piece.toList := by
  rw [String.toList_intercalate] at h
  induction pieces with
  | nil => exact absurd h List.not_mem_nil
  | cons piece pieces ih =>
      cases pieces with
      | nil => exact .inr ⟨piece, List.mem_cons_self, by simpa using h⟩
      | cons next pieces =>
          rw [List.map_cons, List.map_cons, List.intercalate_cons_cons, List.mem_append,
            List.mem_append] at h
          rcases h with (h | h) | h
          · exact .inr ⟨piece, List.mem_cons_self, h⟩
          · exact .inl h
          · exact (ih h).imp_right fun ⟨p, hp, hc⟩ => ⟨p, List.mem_cons_of_mem _ hp, hc⟩

end JoinGraph.Text
