import JoinGraph.Text.Trim
import Mathlib.Data.List.TakeWhile

/-!
# Blank names

A name is blank when nothing is left of it after trimming.  `isBlankText` decides this without
trimming; `nonBlank?` gives what is left.
-/

namespace JoinGraph.Text

private theorem trimBack_eq_nil_iff (s : List Char) :
    trimBack s = [] ↔ ∀ c ∈ s, isBlank c = true := by
  simp [trimBack, List.dropWhile_eq_nil_iff]

private theorem trimChars_eq_nil_iff (s : List Char) :
    trimChars s = [] ↔ ∀ c ∈ s, isBlank c = true := by
  rw [trimChars, trimBack_eq_nil_iff]
  induction s with
  | nil => simp [trimFront]
  | cons c s ih =>
      by_cases hc : isBlank c
      · simpa [trimFront, hc] using ih
      · simp [trimFront, hc]

/-- Nothing is left of exactly the blank texts. -/
theorem trim_eq_empty_iff (s : String) : trim s = "" ↔ isBlankText s = true := by
  rw [trim, String.ofList_eq_empty_iff, trimChars_eq_nil_iff, isBlankText, List.all_eq_true]

/-- Trimming leaves nothing to trim. -/
theorem trim_trim (s : String) : trim (trim s) = trim s := by
  rw [trim, trim, String.toList_ofList, trimChars_trimChars]

/-- Trimming brings in no character. -/
theorem trimChars_subset (s : List Char) : trimChars s ⊆ s := by
  intro c hc
  rw [trimChars, trimBack, List.mem_reverse] at hc
  have hfront := (List.dropWhile_suffix isBlank).subset hc
  exact (List.dropWhile_suffix isBlank).subset (List.mem_reverse.1 hfront)

theorem nonBlank?_eq_some_iff (s t : String) : nonBlank? s = some t ↔ trim s = t ∧ t ≠ "" := by
  simp only [nonBlank?, String.isEmpty_iff]
  split
  · next h => simp only [reduceCtorEq, false_iff, not_and, not_not]; exact fun ht => ht ▸ h
  · next h =>
      simp only [Option.some.injEq]
      exact ⟨fun ht => ⟨ht, ht ▸ h⟩, And.left⟩

end JoinGraph.Text
