import JoinGraph.Sql.Parse
import JoinGraph.Proofs.LetterCase
import Mathlib.Data.List.TakeWhile

/-!
# What a complaint is taken to say

A complaint about a token quotes it between what was expected and where it stands.  The position
and the kind of the failure are then looked for in the whole sentence: the position is the first
place it names (`Sql.NamesPlace`), and the text ends too early if the sentence says so anywhere
(`Sql.SpeaksOfEnd`).  Neither is ever found across a border of the quotation, since what stands
there is no part of a place or of such a phrase.  So a complaint is taken at its word if its token
names no place and does not speak of an end.  Else what the token says is taken for what the
complaint says.

## Main results

* `placeAt?_eq_some_iff` — the places that are read off the front of a text.
* `placeIn?_append` — no place is found across a border.
* `placeIn?_sentence`, `speaksOfEnd_sentence` — what is found in a complaint is found in one of
  its parts.
* `failure_of_sentence` — the position and the kind that are read from a complaint about a token.
-/

namespace JoinGraph.Sql

open Text (isBlank isDecimalDigit asciiLower)

/-! ## Places -/

/-- Decimal digits of any script, at least one. -/
def IsDigits (s : List Char) : Prop := s ≠ [] ∧ ∀ c ∈ s, isDecimalDigit c = true

/-- Blanks, or nothing. -/
def IsGap (s : List Char) : Prop := ∀ c ∈ s, isBlank c = true

/-- The text of a place: a line and a column behind their marks, with gaps behind the marks and
around the comma. -/
inductive PlaceText (line column : List Char) : List Char → Prop where
  | mk {g₁ g₂ g₃ g₄ : List Char} (h₁ : IsGap g₁) (h₂ : IsGap g₂) (h₃ : IsGap g₃) (h₄ : IsGap g₄)
      (hline : IsDigits line) (hcolumn : IsDigits column) :
      PlaceText line column ("Line:".toList ++ (g₁ ++ (line ++ (g₂ ++ (',' :: (g₃ ++
        ("Column:".toList ++ (g₄ ++ column))))))))

/-- A place stands somewhere in the text. -/
def NamesPlace (text : String) : Prop :=
  ∃ line column place, PlaceText line column place ∧ place <:+: text.toList

/-- The text does not start with a character of the class. -/
def StartsNo (p : Char → Bool) (s : List Char) : Prop := ∀ c, s.head? = some c → p c = false

theorem isDecimalDigit_of_isBlank {c : Char} (h : isBlank c = true) : isDecimalDigit c = false := by
  have hnone := Text.isAlphanumeric_of_isBlank h
  simp only [Text.isAlphanumeric, Text.isNumeric, Bool.or_eq_false_iff] at hnone
  by_cases hc : c.toNat < 128
  · simpa [isDecimalDigit, hc] using hnone.2
  · have hdigit := hnone.2
    simp only [hc, if_false, Bool.or_eq_false_iff] at hdigit
    simpa [isDecimalDigit, hc] using hdigit.1

theorem StartsNo.append {p : Char → Bool} {s t : List Char} (hs : StartsNo p s)
    (ht : StartsNo p t) :
    StartsNo p (s ++ t) := by
  cases s with
  | nil => exact ht
  | cons c s => exact fun d hd => hs d hd

theorem StartsNo.of_append {p : Char → Bool} {s t : List Char} (h : StartsNo p (s ++ t)) :
    StartsNo p s := by
  cases s with
  | nil => exact fun c hc => by simp at hc
  | cons c s => exact fun d hd => h d hd

theorem IsGap.startsNo {s : List Char} (h : IsGap s) : StartsNo isDecimalDigit s := by
  cases s with
  | nil => exact fun c hc => by simp at hc
  | cons c s =>
      intro d hd
      obtain rfl : c = d := by simpa using hd
      exact isDecimalDigit_of_isBlank (h c List.mem_cons_self)

theorem IsDigits.startsNo {s : List Char} (h : IsDigits s) (t : List Char) :
    StartsNo isBlank (s ++ t) := by
  obtain ⟨c, s, rfl⟩ := List.exists_cons_of_ne_nil h.1
  intro d hd
  obtain rfl : c = d := by simpa using hd
  cases hb : isBlank c with
  | false => rfl
  | true =>
      have hdigit := h.2 c List.mem_cons_self
      rw [isDecimalDigit_of_isBlank hb] at hdigit
      cases hdigit

/-- What a scan drops is the front of the text up to the first character that is not of the
class. -/
theorem dropWhile_eq_iff {p : Char → Bool} {s t : List Char} :
    s.dropWhile p = t ↔ ∃ front, (∀ c ∈ front, p c = true) ∧ s = front ++ t ∧ StartsNo p t := by
  constructor
  · rintro rfl
    refine ⟨s.takeWhile p, fun c hc => List.mem_takeWhile_imp hc,
      List.takeWhile_append_dropWhile.symm, ?_⟩
    intro c hc
    have hhead := List.head?_dropWhile_not p s
    rw [hc] at hhead
    simpa using hhead
  · rintro ⟨front, hfront, rfl, ht⟩
    rw [List.dropWhile_append_of_pos hfront]
    cases t with
    | nil => rfl
    | cons c t => simp [ht c rfl]

theorem afterMark?_eq_some_iff {mark : String} {s rest : List Char} :
    afterMark? mark s = some rest ↔
      ∃ gap, IsGap gap ∧ s = mark.toList ++ (gap ++ rest) ∧ StartsNo isBlank rest := by
  have hdrop : ∀ t, Text.trimFront t = rest ↔ ∃ gap, IsGap gap ∧ t = gap ++ rest ∧
      StartsNo isBlank rest :=
    fun t => dropWhile_eq_iff
  simp only [afterMark?, Option.ite_none_right_eq_some, Option.some.injEq, hdrop,
    List.isPrefixOf_iff_prefix]
  constructor
  · rintro ⟨⟨t, rfl⟩, gap, hgap, heq, hrest⟩
    rw [List.drop_left] at heq
    exact ⟨gap, hgap, by rw [heq], hrest⟩
  · rintro ⟨gap, hgap, rfl, hrest⟩
    exact ⟨List.prefix_append _ _, gap, hgap, List.drop_left, hrest⟩

theorem afterDigits?_eq_some_iff {s digits rest : List Char} :
    afterDigits? s = some (digits, rest) ↔ IsDigits digits ∧ ∃ gap, IsGap gap ∧
      s = digits ++ (gap ++ rest) ∧ StartsNo isDecimalDigit (gap ++ rest) ∧
        StartsNo isBlank rest := by
  have hdrop : ∀ t, Text.trimFront t = rest ↔ ∃ gap, IsGap gap ∧ t = gap ++ rest ∧
      StartsNo isBlank rest :=
    fun t => dropWhile_eq_iff
  have hsplit := List.takeWhile_append_dropWhile (p := isDecimalDigit) (l := s)
  simp only [afterDigits?, Option.ite_none_left_eq_some, Option.some.injEq, Prod.mk.injEq, hdrop,
    List.isEmpty_iff]
  constructor
  · rintro ⟨hne, rfl, gap, hgap, heq, hrest⟩
    have hno : StartsNo isDecimalDigit (gap ++ rest) := by
      obtain ⟨-, -, -, hno⟩ := dropWhile_eq_iff.1 heq
      exact hno
    exact ⟨⟨hne, fun c hc => List.mem_takeWhile_imp hc⟩, gap, hgap,
      by rw [← heq, hsplit], hno, hrest⟩
  · rintro ⟨⟨hne, hdigits⟩, gap, hgap, rfl, hno, hrest⟩
    have hafter : (digits ++ (gap ++ rest)).dropWhile isDecimalDigit = gap ++ rest :=
      dropWhile_eq_iff.2 ⟨digits, hdigits, rfl, hno⟩
    rw [hafter, List.append_cancel_right_eq] at hsplit
    rw [hsplit]
    exact ⟨hne, rfl, gap, hgap, hafter, hrest⟩

/-- A place is read off the front of a text exactly if one stands there, with all digits of its
column. -/
theorem placeAt?_eq_some_iff {s line column : List Char} : placeAt? s = some (line, column) ↔
    ∃ place rest, PlaceText line column place ∧ s = place ++ rest ∧
      StartsNo isDecimalDigit rest := by
  simp only [placeAt?, Option.bind_eq_bind, Option.bind_eq_some_iff, Option.pure_def,
    Option.some.injEq, Prod.exists, Prod.mk.injEq]
  constructor
  · rintro ⟨s₁, hs₁, line', s₂, hs₂, s₃, hs₃, s₄, hs₄, column', s₅, hs₅, rfl, rfl⟩
    obtain ⟨g₁, h₁, rfl, -⟩ := afterMark?_eq_some_iff.1 hs₁
    obtain ⟨hline, g₂, h₂, rfl, -, -⟩ := afterDigits?_eq_some_iff.1 hs₂
    obtain ⟨g₃, h₃, rfl, -⟩ := afterMark?_eq_some_iff.1 hs₃
    obtain ⟨g₄, h₄, rfl, -⟩ := afterMark?_eq_some_iff.1 hs₄
    obtain ⟨hcolumn, g₅, -, rfl, hno, -⟩ := afterDigits?_eq_some_iff.1 hs₅
    exact ⟨_, g₅ ++ s₅, .mk h₁ h₂ h₃ h₄ hline hcolumn, by simp, hno⟩
  · rintro ⟨_, rest, @⟨g₁, g₂, g₃, g₄, h₁, h₂, h₃, h₄, hline, hcolumn⟩, rfl, hno⟩
    obtain ⟨gap, rest', hgap, hrest, heq⟩ : ∃ gap rest', IsGap gap ∧ StartsNo isBlank rest' ∧
        rest = gap ++ rest' := by
      obtain ⟨gap, hgap, heq, hrest⟩ := dropWhile_eq_iff.1 (rfl : rest.dropWhile isBlank = _)
      exact ⟨gap, _, hgap, hrest, heq⟩
    simp only [List.append_assoc, List.cons_append]
    refine ⟨_, afterMark?_eq_some_iff.2 ⟨g₁, h₁, rfl, hline.startsNo _⟩,
      line, _, afterDigits?_eq_some_iff.2 ⟨hline, g₂, h₂, rfl, h₂.startsNo.append ?_, ?_⟩,
      _, afterMark?_eq_some_iff.2 ⟨g₃, h₃, rfl, ?_⟩,
      _, afterMark?_eq_some_iff.2 ⟨g₄, h₄, rfl, hcolumn.startsNo _⟩,
      column, rest', afterDigits?_eq_some_iff.2 ⟨hcolumn, gap, hgap, by rw [heq], heq ▸ hno, hrest⟩,
      rfl, rfl⟩
    all_goals
      intro c hc
      obtain rfl := Option.some.inj hc
      decide

/-! ## Borders -/

/-- A character that may stand in a place. -/
def PlacePart (c : Char) : Prop :=
  c ∈ "Line:,Column:".toList ∨ isBlank c = true ∨ isDecimalDigit c = true

instance (c : Char) : Decidable (PlacePart c) := inferInstanceAs (Decidable (_ ∨ _ ∨ _))

theorem PlaceText.placePart {line column place : List Char} (h : PlaceText line column place) :
    ∀ c ∈ place, PlacePart c := by
  obtain @⟨g₁, g₂, g₃, g₄, h₁, h₂, h₃, h₄, hline, hcolumn⟩ := h
  have hmarks : ∀ c, c ∈ "Line:".toList ∨ c = ',' ∨ c ∈ "Column:".toList → PlacePart c := by
    intro c hc
    refine .inl ?_
    rw [show "Line:,Column:".toList = "Line:".toList ++ (',' :: "Column:".toList) from rfl]
    exact List.mem_append.2 (hc.imp_right List.mem_cons.2)
  intro c hc
  simp only [List.mem_append, List.mem_cons] at hc
  rcases hc with hc | hc | hc | hc | hc | hc | hc | hc | hc
  · exact hmarks c (.inl hc)
  · exact .inr (.inl (h₁ c hc))
  · exact .inr (.inr (hline.2 c hc))
  · exact .inr (.inl (h₂ c hc))
  · exact hmarks c (.inr (.inl hc))
  · exact .inr (.inl (h₃ c hc))
  · exact hmarks c (.inr (.inr hc))
  · exact .inr (.inl (h₄ c hc))
  · exact .inr (.inr (hcolumn.2 c hc))

/-- A place ends in a digit. -/
theorem PlaceText.getLast? {line column place : List Char} (h : PlaceText line column place) :
    ∃ d, place.getLast? = some d ∧ isDecimalDigit d = true := by
  obtain @⟨g₁, g₂, g₃, g₄, -, -, -, -, -, hcolumn⟩ := h
  refine ⟨_, ?_, hcolumn.2 _ (List.getLast_mem hcolumn.1)⟩
  simp [List.getLast?_append, List.getLast?_cons, List.getLast?_eq_some_getLast hcolumn.1]

section Border

variable {gap more : List Char} {stop : Char}

/-- A place that begins in front of a border ends there, too: no place reaches over the stop, or
ends in the gap before it. -/
theorem PlaceText.ends_before {line column place s rest : List Char}
    (h : PlaceText line column place)
    (hgap : gap.any isDecimalDigit = false) (hstop : ¬ PlacePart stop)
    (heq : s ++ (gap ++ stop :: more) = place ++ rest) :
    ∃ back, s = place ++ back ∧ rest = back ++ (gap ++ stop :: more) := by
  rcases List.append_eq_append_iff.1 heq with ⟨across, hplace, hover⟩ | ⟨back, hs, hrest⟩
  · by_cases hempty : across = []
    · exact ⟨[], by simp [hplace, hempty], by simp [hover, hempty]⟩
    · obtain ⟨d, hlast, hdigit⟩ := h.getLast?
      have hmem : d ∈ across := by
        rw [hplace, List.getLast?_append, List.getLast?_eq_some_getLast hempty, Option.some_or,
          Option.some.injEq] at hlast
        exact hlast ▸ List.getLast_mem hempty
      have hnot : d ∉ gap := fun hd => List.any_eq_false.1 hgap d hd hdigit
      rcases List.append_eq_append_iff.1 hover with ⟨past, hpast, hcons⟩ | ⟨left, hleft, -⟩
      · cases past with
        | nil => exact absurd (by simpa [hpast] using hmem) hnot
        | cons e past =>
            obtain ⟨rfl, -⟩ := List.cons.inj hcons
            exact absurd (h.placePart stop (by simp [hplace, hpast])) hstop
      · exact absurd (hleft ▸ List.mem_append_left _ hmem) hnot
  · exact ⟨back, hs, hrest⟩

theorem placeAt?_append (hgap : gap.any isDecimalDigit = false) (hstop : ¬ PlacePart stop)
    (s more : List Char) : placeAt? (s ++ (gap ++ stop :: more)) = placeAt? s := by
  have hborder : StartsNo isDecimalDigit (gap ++ stop :: more) := by
    intro c hc
    cases gap with
    | nil =>
        obtain rfl : stop = c := by simpa using hc
        exact Bool.eq_false_iff.2 fun hdigit => hstop (.inr (.inr hdigit))
    | cons d gap =>
        obtain rfl : d = c := by simpa using hc
        exact Bool.eq_false_iff.2 (List.any_eq_false.1 hgap d List.mem_cons_self)
  ext ⟨line, column⟩
  rw [placeAt?_eq_some_iff, placeAt?_eq_some_iff]
  constructor
  · rintro ⟨place, rest, hplace, heq, hno⟩
    obtain ⟨back, rfl, rfl⟩ := hplace.ends_before hgap hstop heq
    exact ⟨place, back, hplace, rfl, hno.of_append⟩
  · rintro ⟨place, rest, hplace, rfl, hno⟩
    exact ⟨place, _, hplace, by rw [List.append_assoc], hno.append hborder⟩

/-- The first place of a text with a border is in front of the border, or if there is none, behind
it. -/
theorem placeIn?_append (hgap : gap.any isDecimalDigit = false) (hstop : ¬ PlacePart stop)
    (s : List Char) : placeIn? (s ++ (gap ++ stop :: more)) =
      (placeIn? s <|> placeIn? (gap ++ stop :: more)) := by
  induction s with
  | nil => rfl
  | cons c s ih =>
      have hhere := placeAt?_append hgap hstop (c :: s) more
      simp only [List.cons_append] at hhere ⊢
      rw [placeIn?, placeIn?, hhere, ih]
      cases placeAt? (c :: s) <;> rfl

end Border

theorem placeAt?_cons_of_ne {c : Char} (hc : c ≠ 'L') (s : List Char) :
    placeAt? (c :: s) = none := by
  rw [Option.eq_none_iff_forall_ne_some]
  rintro ⟨line, column⟩ h
  obtain ⟨_, rest, ⟨⟩, heq, -⟩ := placeAt?_eq_some_iff.1 h
  exact hc (List.cons.inj heq).1

/-- A place begins with the mark of the line. -/
theorem placeIn?_skip {s : List Char} (hs : 'L' ∉ s) (t : List Char) :
    placeIn? (s ++ t) = placeIn? t := by
  induction s with
  | nil => rfl
  | cons c s ih =>
      have hc : c ≠ 'L' := fun hc => hs (hc ▸ List.mem_cons_self)
      rw [List.cons_append, placeIn?, placeAt?_cons_of_ne hc, ih fun h =>
        hs (List.mem_cons_of_mem _ h)]
      rfl

theorem placeIn?_eq_none_iff_forall_suffix (s : List Char) :
    placeIn? s = none ↔ ∀ t, t <:+ s → placeAt? t = none := by
  induction s with
  | nil =>
      refine iff_of_true rfl fun t ht => ?_
      rw [List.suffix_nil.1 ht]
      rfl
  | cons c s ih =>
      simp only [List.suffix_cons_iff, forall_eq_or_imp, ← ih, placeIn?]
      cases placeAt? (c :: s) <;> simp

/-- A text in which no place is found names none. -/
theorem placeIn?_eq_none_iff (text : String) : placeIn? text.toList = none ↔ ¬ NamesPlace text := by
  rw [placeIn?_eq_none_iff_forall_suffix]
  constructor
  · rintro h ⟨line, column, place, hplace, before, after, heq⟩
    obtain ⟨digits, back, hdigits, rfl, hno⟩ : ∃ digits back,
        (∀ c ∈ digits, isDecimalDigit c = true) ∧
          after = digits ++ back ∧ StartsNo isDecimalDigit back := by
      obtain ⟨digits, hdigits⟩ := dropWhile_eq_iff.1 (rfl : after.dropWhile isDecimalDigit = _)
      exact ⟨digits, _, hdigits⟩
    obtain @⟨g₁, g₂, g₃, g₄, h₁, h₂, h₃, h₄, hline, hcolumn⟩ := hplace
    -- The column goes on with the digits that follow.
    have hlong : IsDigits (column ++ digits) := ⟨by simp [hcolumn.1], fun c hc =>
      (List.mem_append.1 hc).elim (hcolumn.2 c) (hdigits c)⟩
    have hfound := placeAt?_eq_some_iff.2 ⟨_, _, .mk h₁ h₂ h₃ h₄ hline hlong, rfl, hno⟩
    rw [h _ ⟨before, ?_⟩] at hfound
    · cases hfound
    · rw [← heq]
      simp only [List.append_assoc, List.cons_append]
  · intro h t ht
    rw [Option.eq_none_iff_forall_ne_some]
    rintro ⟨line, column⟩ hsome
    obtain ⟨place, rest, hplace, rfl, -⟩ := placeAt?_eq_some_iff.1 hsome
    exact h ⟨line, column, place, hplace, (List.prefix_append place rest).isInfix.trans ht.isInfix⟩

/-! ## Numbers -/

theorem isAsciiDigit_of_mem_toDigits {n : Nat} {c : Char} (h : c ∈ Nat.toDigits 10 n) :
    Text.isAsciiDigit c = true := by
  have hdigit := Nat.isDigit_of_mem_toDigits (by decide) (by decide) h
  simpa [Text.isAsciiDigit, Char.isDigit, Char.le_def, UInt32.le_iff_toNat_le] using hdigit

theorem isDigits_toDigits (n : Nat) : IsDigits (Nat.toDigits 10 n) := by
  refine ⟨Nat.toDigits_ne_nil, fun c hc => ?_⟩
  have hascii := isAsciiDigit_of_mem_toDigits hc
  have hsmall : c.toNat < 128 := by
    simp only [Text.isAsciiDigit, Bool.and_eq_true, decide_eq_true_eq] at hascii
    omega
  rw [isDecimalDigit, if_pos hsmall, hascii]

/-- A number that fits is read back from its digits. -/
theorem smallNumber?_toDigits {n : Nat} (h : n < UInt64.size) :
    smallNumber? (Nat.toDigits 10 n) = some n := by
  have hall : (Nat.toDigits 10 n).all Text.isAsciiDigit = true :=
    List.all_eq_true.2 fun c hc => isAsciiDigit_of_mem_toDigits hc
  have hvalue : (Nat.toDigits 10 n).foldl (fun n c => 10 * n + (c.toNat - 48)) 0 = n :=
    Nat.ofDigitChars_toDigits (by decide) (by decide)
  have hsmall : n < Nat.pow 2 64 := h
  simp only [smallNumber?, hall, if_true, hvalue, if_pos hsmall]

/-! ## Sentences -/

/-- The complaint that something else is expected than the token that stands at a position. -/
def sentenceAbout (expected token : String) (p : Position) : String :=
  "Expected: " ++ expected ++ ", found: " ++ token ++ p.suffix

/-- Readers complain so about the next token. -/
theorem expected_cons {α : Type} (what : String) (next : Lexeme) (rest : List Lexeme) :
    (Parse.expected what : Parse α) (next :: rest) =
      .error (.about (sentenceAbout what next.token.text next.place)) := rfl

/-- The place at the end of a complaint. -/
theorem placeIn?_position (p : Position) :
    placeIn? ("Line: ".toList ++ (Nat.toDigits 10 p.line ++ (", Column: ".toList ++
      Nat.toDigits 10 p.column))) = some (Nat.toDigits 10 p.line, Nat.toDigits 10 p.column) := by
  have hone : IsGap [' '] := List.all_eq_true.1 rfl
  have hnone : IsGap [] := List.all_eq_true.1 rfl
  have hplace :=
    PlaceText.mk hone hnone hone hone (isDigits_toDigits p.line) (isDigits_toDigits p.column)
  have hat := placeAt?_eq_some_iff.2 ⟨_, [], hplace, (List.append_nil _).symm, fun c hc => by
    simp at hc⟩
  have hread : ∀ {s found}, placeAt? s = some found → placeIn? s = some found := by
    intro s found h
    cases s with
    | nil => cases h
    | cons c s => rw [placeIn?, h]; rfl
  exact hread hat

/-- The first place that a complaint names is that of what was expected, else that of the token,
and else the one at its end. -/
theorem placeIn?_sentence (expected token : String) (p : Position) :
    placeIn? ("sql parser error: " ++ sentenceAbout expected token p).toList =
      (placeIn? expected.toList <|> placeIn? token.toList <|>
        some (Nat.toDigits 10 p.line, Nat.toDigits 10 p.column)) := by
  have hcut : ("sql parser error: " ++ sentenceAbout expected token p).toList =
      "sql parser error: Expected: ".toList ++ (expected.toList ++ ([',', ' '] ++ 'f' ::
        ("ound: ".toList ++ (token.toList ++ ([' '] ++ 'a' :: ("t ".toList ++ ("Line: ".toList ++
          (Nat.toDigits 10 p.line ++ (", Column: ".toList ++ Nat.toDigits 10 p.column))))))))) := by
    simp [sentenceAbout, Position.suffix]
  rw [hcut, placeIn?_skip (by decide), placeIn?_append (by decide) (by decide)]
  rw [show [',', ' '] ++ 'f' :: ("ound: ".toList ++ _) = ", found: ".toList ++ _ from rfl]
  rw [placeIn?_skip (by decide), placeIn?_append (by decide) (by decide)]
  rw [show [' '] ++ 'a' :: ("t ".toList ++ _) = " at ".toList ++ _ from rfl]
  rw [placeIn?_skip (by decide), placeIn?_position]

/-! ## Phrases -/

/-- The text speaks of the end of a text, in letters of any case. -/
def SpeaksOfEnd (text : String) : Prop :=
  "eof".toList <:+: text.toList.map asciiLower ∨
    "unexpected end".toList <:+: text.toList.map asciiLower

instance (text : String) : Decidable (SpeaksOfEnd text) := inferInstanceAs (Decidable (_ ∨ _))

theorem contains_iff (piece s : List Char) : Text.contains piece s = true ↔ piece <:+: s := by
  induction s with
  | nil => simp [Text.contains]
  | cons c s ih =>
      rw [Text.contains, Bool.or_eq_true, ih, List.isPrefixOf_iff_prefix, List.infix_cons_iff]

theorem speaksOfEnd_iff (text : String) : Failure.speaksOfEnd text = true ↔ SpeaksOfEnd text := by
  simp only [Failure.speaksOfEnd, Bool.or_eq_true, contains_iff, SpeaksOfEnd]

/-- A piece stands on one side of a character that it does not have. -/
theorem infix_append_cons_iff {piece s t : List Char} {stop : Char} (h : stop ∉ piece) :
    piece <:+: s ++ stop :: t ↔ piece <:+: s ∨ piece <:+: t := by
  constructor
  · rintro ⟨before, after, heq⟩
    rw [List.append_assoc] at heq
    rcases List.append_eq_append_iff.1 heq with ⟨across, hs, hover⟩ | ⟨across, hbefore, hover⟩
    · rcases List.append_eq_append_iff.1 hover with ⟨past, hpast, hcons⟩ | ⟨past, hpiece, hcons⟩
      · exact .inl ⟨before, past, by rw [hs, hpast, List.append_assoc]⟩
      · cases past with
        | nil => exact .inl ⟨before, [], by rw [hs, hpiece]; simp⟩
        | cons c past =>
            obtain ⟨rfl, -⟩ := List.cons.inj hcons
            exact absurd (by simp [hpiece]) h
    · cases across with
      | nil =>
          cases piece with
          | nil => exact .inl (List.nil_infix)
          | cons c piece =>
              obtain ⟨rfl, -⟩ := List.cons.inj hover
              exact absurd List.mem_cons_self h
      | cons c across =>
          obtain ⟨-, rfl⟩ := List.cons.inj hover
          exact .inr ⟨across, after, by simp⟩
  · rintro (hs | ht)
    · exact hs.trans (List.prefix_append s _).isInfix
    · exact ht.trans ((List.suffix_cons stop t).trans (List.suffix_append s _)).isInfix

theorem infix_cons_of_head {piece : List Char} {c : Char} (h : piece.head? ≠ some c)
    (hne : piece ≠ []) (s : List Char) : piece <:+: c :: s ↔ piece <:+: s := by
  rw [List.infix_cons_iff, or_iff_right]
  intro hprefix
  obtain ⟨d, piece, rfl⟩ := List.exists_cons_of_ne_nil hne
  exact h (congrArg some (List.cons_prefix_cons.1 hprefix).1)

theorem infix_concat_of_getLast {piece : List Char} {c : Char} (h : piece.getLast? ≠ some c)
    (hne : piece ≠ []) (s : List Char) : piece <:+: s ++ [c] ↔ piece <:+: s := by
  rw [← List.reverse_infix, List.reverse_append, List.reverse_singleton, List.singleton_append,
    infix_cons_of_head (by rwa [List.head?_reverse]) (by simpa using hne), List.reverse_infix]

/-- A phrase without the signs around a token, that neither starts nor ends in a blank, and is not
of digits. -/
structure IsPhrase (piece : List Char) : Prop where
  marks : ':' ∉ piece ∧ ',' ∉ piece ∧ 'a' ∉ piece
  head : piece.head? ≠ some ' '
  last : piece.getLast? ≠ some ' '
  letter : piece.all Text.isAsciiDigit = false
  elsewhere : ∀ fixed ∈ ["sql parser error", " expected", " found", "t line", " column"],
    ¬ piece <:+: fixed.toList

theorem IsPhrase.not_infix_digits {piece : List Char} (h : IsPhrase piece) (n : Nat) :
    ¬ piece <:+: Nat.toDigits 10 n := by
  intro hwithin
  obtain ⟨c, hc, hletter⟩ := List.all_eq_false.1 h.letter
  exact hletter (isAsciiDigit_of_mem_toDigits (hwithin.subset hc))

theorem map_asciiLower_toDigits (n : Nat) :
    (Nat.toDigits 10 n).map asciiLower = Nat.toDigits 10 n := by
  refine (List.map_congr_left fun c hc => ?_).trans (List.map_id _)
  have hdigit := isAsciiDigit_of_mem_toDigits hc
  have hupper : ¬(65 ≤ c.toNat ∧ c.toNat ≤ 90) := by
    simp only [Text.isAsciiDigit, Bool.and_eq_true, decide_eq_true_eq] at hdigit
    omega
  simp [asciiLower, hupper]

/-- A phrase stands in a complaint exactly if it stands in what was expected or in the token. -/
theorem IsPhrase.infix_sentence_iff {piece : List Char} (h : IsPhrase piece)
    (expected token : String) (p : Position) :
    piece <:+: ("sql parser error: " ++ sentenceAbout expected token p).toList.map asciiLower ↔
      piece <:+: expected.toList.map asciiLower ∨ piece <:+: token.toList.map asciiLower := by
  have hne : piece ≠ [] := by
    obtain ⟨c, hc, -⟩ := List.all_eq_false.1 h.letter
    exact List.ne_nil_of_mem hc
  obtain ⟨hcolon, hcomma, ha⟩ := h.marks
  have hcut : ("sql parser error: " ++ sentenceAbout expected token p).toList.map asciiLower =
      "sql parser error".toList ++ ':' :: (" expected".toList ++ ':' ::
        (' ' :: expected.toList.map asciiLower ++ ',' :: (" found".toList ++ ':' ::
          ((' ' :: (token.toList.map asciiLower ++ [' '])) ++ 'a' :: ("t line".toList ++ ':' ::
            (' ' :: Nat.toDigits 10 p.line ++ ',' :: (" column".toList ++ ':' ::
              ' ' :: Nat.toDigits 10 p.column))))))) := by
    simp only [sentenceAbout, Position.suffix, String.toList_append, String.toList_ofList,
      List.map_append, map_asciiLower_toDigits, List.append_assoc, List.cons_append,
        List.nil_append]
    rfl
  have hfixed := h.elsewhere
  simp only [List.mem_cons, List.not_mem_nil, or_false, forall_eq_or_imp, forall_eq] at hfixed
  rw [hcut]
  simp only [infix_append_cons_iff hcolon, infix_append_cons_iff hcomma, infix_append_cons_iff ha,
    infix_cons_of_head h.head hne, infix_concat_of_getLast h.last hne, hfixed, h.not_infix_digits,
    false_or, or_false]

/-- A complaint speaks of the end exactly if what was expected does, or the token. -/
theorem speaksOfEnd_sentence (expected token : String) (p : Position) :
    SpeaksOfEnd ("sql parser error: " ++ sentenceAbout expected token p) ↔
      SpeaksOfEnd expected ∨ SpeaksOfEnd token := by
  have heof : IsPhrase "eof".toList :=
    ⟨by decide, by decide, by decide, by decide, by decide +kernel⟩
  have hend : IsPhrase "unexpected end".toList :=
    ⟨by decide, by decide, by decide, by decide, by decide +kernel⟩
  simp only [SpeaksOfEnd, heof.infix_sentence_iff, hend.infix_sentence_iff]
  exact or_or_or_comm

/-! ## Complaints about tokens -/

/-- A complaint is taken for one about the end of the text exactly if its token speaks of an end,
and its position is the first place that its token names, or if there is none, its own; what was
expected is taken to do neither.  So it is taken at its word exactly for the tokens that name no
other place, and of which only the end of the text itself speaks of an end. -/
theorem failure_of_sentence (expected token : String) (p : Position) (hline : p.line < UInt64.size)
    (hcolumn : p.column < UInt64.size) (hend : ¬ SpeaksOfEnd expected)
    (hplace : ¬ NamesPlace expected) :
    let f := Failure.ofComplaint (sentenceAbout expected token p)
    (f.kind = .unexpectedEnd ↔ SpeaksOfEnd token) ∧
      (f.kind = .unexpectedToken ↔ ¬ SpeaksOfEnd token) ∧
      (¬ NamesPlace token → f.position? = some p) ∧
      (NamesPlace token → f.position? = positionIn? token) ∧
      ((f.position? = some p ∧ (f.kind = .unexpectedEnd ↔ token = endText)) ↔
        (NamesPlace token → positionIn? token = some p) ∧
          (SpeaksOfEnd token → token = endText)) := by
  intro f
  have hkind :
      f.kind = if Failure.speaksOfEnd ("sql parser error: " ++ sentenceAbout expected token p)
        then .unexpectedEnd else .unexpectedToken := rfl
  have hends := speaksOfEnd_sentence expected token p
  rw [or_iff_right hend, ← speaksOfEnd_iff] at hends
  have hunexpected : f.kind = .unexpectedEnd ↔ SpeaksOfEnd token := by
    rw [hkind, ← hends]
    split <;> simp_all
  have htoken : f.kind = .unexpectedToken ↔ ¬ SpeaksOfEnd token := by
    rw [hkind, ← hends]
    split <;> simp_all
  have hposition :
      f.position? = positionIn? ("sql parser error: " ++ sentenceAbout expected token p) := rfl
  have hnone := (placeIn?_eq_none_iff expected).2 hplace
  have hown : ¬ NamesPlace token → f.position? = some p := by
    intro h
    rw [hposition, positionIn?, placeIn?_sentence, hnone, (placeIn?_eq_none_iff token).2 h]
    simp [smallNumber?_toDigits hline, smallNumber?_toDigits hcolumn]
  have hother : NamesPlace token → f.position? = positionIn? token := by
    intro h
    have hsome := mt (placeIn?_eq_none_iff token).1 (not_not.2 h)
    obtain ⟨found, hfound⟩ := Option.ne_none_iff_exists'.1 hsome
    rw [hposition, positionIn?, positionIn?, placeIn?_sentence, hnone, hfound]
    rfl
  have hquoted : token = endText → SpeaksOfEnd token := by
    rintro rfl
    decide +kernel
  refine ⟨hunexpected, htoken, hown, hother, ?_⟩
  rw [hunexpected]
  by_cases h : NamesPlace token
  · rw [hother h]
    exact ⟨fun ⟨hp, hk⟩ => ⟨fun _ => hp, hk.1⟩, fun ⟨hp, hk⟩ => ⟨hp h, hk, hquoted⟩⟩
  · rw [hown h]
    exact ⟨fun ⟨_, hk⟩ => ⟨fun hp => absurd hp h, hk.1⟩, fun ⟨_, hk⟩ => ⟨rfl, hk, hquoted⟩⟩

/-- A complaint about the end of the text. -/
theorem failure_of_sentence_end :
    1 < UInt64.size ∧ 15 < UInt64.size ∧ ¬ SpeaksOfEnd "an expression" ∧
      ¬ NamesPlace "an expression" ∧
      (Failure.ofComplaint (sentenceAbout "an expression" endText ⟨1, 15⟩)).kind = .unexpectedEnd ∧
      (Failure.ofComplaint (sentenceAbout "an expression" endText ⟨1, 15⟩)).position? =
        some ⟨1, 15⟩ := by
  have hend : ¬ SpeaksOfEnd "an expression" := by decide +kernel
  have hplace : ¬ NamesPlace "an expression" := (placeIn?_eq_none_iff _).1 (by decide +kernel)
  have hquoted : ¬ NamesPlace endText := (placeIn?_eq_none_iff _).1 (by decide +kernel)
  obtain ⟨hkind, -, hposition, -, -⟩ :=
    failure_of_sentence "an expression" endText ⟨1, 15⟩ (by decide) (by decide) hend hplace
  exact ⟨by decide, by decide, hend, hplace, hkind.2 (by decide +kernel), hposition hquoted⟩

/-- A token with the letters of the end is taken for the end of the text, and one with the text of
a place moves the position. -/
theorem failure_of_sentence_quoted :
    (¬ SpeaksOfEnd "end of statement" ∧ ¬ NamesPlace "end of statement") ∧
      ("geofence" ≠ endText ∧ (Failure.ofComplaint
        (sentenceAbout "end of statement" "geofence" ⟨1, 19⟩)).kind = .unexpectedEnd) ∧
      (Failure.ofComplaint
        (sentenceAbout "end of statement" "'Line: 9, Column: 9'" ⟨1, 19⟩)).position? =
          some ⟨9, 9⟩ :=
  ⟨⟨by decide +kernel, (placeIn?_eq_none_iff _).1 (by decide +kernel)⟩, by decide +kernel,
    by decide +kernel⟩

end JoinGraph.Sql
