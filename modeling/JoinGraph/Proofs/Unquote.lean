import JoinGraph.Name
import JoinGraph.Proofs.Excerpts

/-!
# Taking off quotes

A literal is trimmed, and loses the quotes around it if these are equal.  Nothing else of it
changes: so a literal stays as it is if it has no blanks and no such quotes around it, and what is
inside of quotes is not trimmed again.

## Main results

* `unquoteChars_eq_iff` — what is left of a literal.
* `unquoteChars_eq_self_iff` — which literals stay as they are.
-/

namespace JoinGraph.Name

variable {text inside : List Char}

/-- The text is another one between two equal quotes, single or double ones. -/
def IsQuoted (text inside : List Char) : Prop :=
  ∃ quote, (quote = '\'' ∨ quote = '"') ∧ text = quote :: (inside ++ [quote])

theorem unwrapQuote?_eq_some_iff (quote : Char) (text inside : List Char) :
    unwrapQuote? quote text = some inside ↔ text = quote :: (inside ++ [quote]) := by
  cases text with
  | nil => simp [unwrapQuote?]
  | cons first rest =>
      simp only [unwrapQuote?, Option.ite_none_right_eq_some, Option.some.injEq,
        List.cons.injEq, and_assoc]
      refine and_congr_right fun _ => ⟨?_, ?_⟩
      · rintro ⟨hlast, rfl⟩
        exact (List.dropLast_append_getLast? _ hlast).symm
      · rintro rfl
        simp

/-- What is left of a literal is what is inside of the quotes around it, or without such quotes
the trimmed literal. -/
theorem unquoteChars_eq_iff (literal shown : List Char) : unquoteChars literal = shown ↔
    IsQuoted (Text.trimChars literal) shown ∨
      (Text.trimChars literal = shown ∧ ∀ inside, ¬ IsQuoted (Text.trimChars literal) inside) := by
  generalize htrim : Text.trimChars literal = trimmed
  have hsingle := unwrapQuote?_eq_some_iff '\'' trimmed
  have hdouble := unwrapQuote?_eq_some_iff '"' trimmed
  have hquoted : ∀ inside, IsQuoted trimmed inside ↔
      unwrapQuote? '\'' trimmed = some inside ∨ unwrapQuote? '"' trimmed = some inside := by
    intro inside
    simp [IsQuoted, hsingle, hdouble]
  simp only [unquoteChars, htrim, hquoted]
  cases hs : unwrapQuote? '\'' trimmed with
  | none => cases hd : unwrapQuote? '"' trimmed <;> simp
  | some inside =>
      -- A text does not start with both kinds of quotes.
      have hd : unwrapQuote? '"' trimmed = none := by
        rw [(hsingle inside).1 hs, unwrapQuote?, if_neg (by simp)]
      simp [hd]

/-- A literal stays as it is if there are no blanks and no equal quotes around it. -/
theorem unquoteChars_eq_self_iff (literal : List Char) : unquoteChars literal = literal ↔
    Text.trimChars literal = literal ∧ ∀ inside, ¬ IsQuoted literal inside := by
  rw [unquoteChars_eq_iff]
  constructor
  · rintro (⟨quote, -, htrim⟩ | ⟨htrim, hnot⟩)
    · have hlength := (Text.trimChars_isInfix literal).length_le
      rw [htrim, List.length_cons, List.length_append] at hlength
      omega
    · exact ⟨htrim, by rwa [htrim] at hnot⟩
  · rintro ⟨htrim, hnot⟩
    exact .inr ⟨htrim, by rwa [htrim]⟩

/-- What a trimmed literal loses are two quotes or nothing. -/
theorem length_trimChars (literal : List Char) :
    (Text.trimChars literal).length = (unquoteChars literal).length ∨
      (Text.trimChars literal).length = (unquoteChars literal).length + 2 := by
  rcases (unquoteChars_eq_iff literal _).1 rfl with ⟨quote, -, htrim⟩ | ⟨htrim, -⟩
  · exact .inr ((congrArg List.length htrim).trans (by simp))
  · exact .inl (congrArg List.length htrim)

/-- Taking off quotes makes no text longer. -/
theorem length_unquoteChars_le (literal : List Char) :
    (unquoteChars literal).length ≤ literal.length := by
  have htrim := (Text.trimChars_isInfix literal).length_le
  rcases length_trimChars literal with hlength | hlength <;> omega

end JoinGraph.Name
