import JoinGraph.Json.Reader
import JoinGraph.Json.Writer

/-!
# What readers take off a text

A reader that succeeds takes something off the front of a text and makes a value of it.
`Reader.Runs` says so without the places, which only tell where a fault was found.  Runs are
composed like readers are, beginning with the elements of a text: white space, words, strings, and
what separates items and members.

## Main results

* `Reader.runs_bind` — one reader after the other.
* `Reader.runs_string` — a quoted string is read back, whatever characters it has.
* `Reader.runs_nextItem`, `Reader.runs_nextName` — what stands between items and between members,
  with white space in any place.
-/

namespace JoinGraph.Json

/-- White space, such as may stand between the elements of a text. -/
def IsSpace (w : List Char) : Prop := ∀ c ∈ w, Reader.isSpace c = true

theorem isSpace_nil : IsSpace [] := by simp [IsSpace]

theorem IsSpace.append {w w' : List Char} (hw : IsSpace w) (hw' : IsSpace w') : IsSpace (w ++ w') :=
  fun c hc => (List.mem_append.1 hc).elim (hw c) (hw' c)

/-- What stands before an item or a member: a comma, unless it is the first. -/
def comma (first : Bool) : List Char := if first then [] else [',']

/-- The text begins with something that is no white space and closes no array. -/
def BeginsItem (text : List Char) : Prop :=
  ∃ c rest, text = c :: rest ∧ Reader.isSpace c = false ∧ c ≠ ']'

theorem BeginsItem.append {text : List Char} (h : BeginsItem text) (rest : List Char) :
    BeginsItem (text ++ rest) := by
  obtain ⟨c, tail, rfl, hc⟩ := h
  exact ⟨c, tail ++ rest, rfl, hc⟩

theorem quoteChars_append (s text : List Char) :
    quoteChars s ++ text = '"' :: (s.flatMap escapeChar ++ '"' :: text) := by
  simp [quoteChars]

namespace Reader

variable {α β : Type}

/-! ## Runs -/

/-- The reader makes a value of the front of a text, wherever the text stands, and leaves the
rest. -/
def Runs (r : Reader α) (text : List Char) (a : α) (rest : List Char) : Prop :=
  ∀ place, ∃ place', r ⟨text, place⟩ = .ok (a, ⟨rest, place'⟩)

theorem runs_pure (a : α) (text : List Char) : Runs (pure a) text a text :=
  fun place => ⟨place, rfl⟩

/-- One reader runs after the other. -/
theorem runs_bind {r : Reader α} {f : α → Reader β} {text m rest : List Char} {a : α} {b : β}
    (hr : Runs r text a m) (hf : Runs (f a) m b rest) : Runs (r >>= f) text b rest := by
  intro place
  obtain ⟨place', h⟩ := hr place
  obtain ⟨place'', h'⟩ := hf place'
  have hbind : (r >>= f) ⟨text, place⟩ = r ⟨text, place⟩ >>= fun p => f p.1 p.2 := rfl
  refine ⟨place'', ?_⟩
  rw [hbind, h]
  exact h'

/-- A reader may look at the text first. -/
theorem runs_get {f : Cursor → Reader β} {text rest : List Char} {b : β}
    (h : ∀ place, Runs (f ⟨text, place⟩) text b rest) : Runs (get >>= f) text b rest :=
  fun place => h place place

theorem runs_ahead (text : List Char) : Runs ahead text text.head? text := fun place => ⟨place, rfl⟩

theorem runs_skip (c : Char) (text : List Char) : Runs skip (c :: text) () text := fun place =>
  ⟨place.after c, rfl⟩

/-- Skips the character that was looked at. -/
theorem runs_skip_bind {f : Unit → Reader β} {c : Char} {text rest : List Char} {b : β}
    (h : Runs (f ()) text b rest) : Runs (skip >>= f) (c :: text) b rest :=
  runs_bind (runs_skip c text) h

/-- What comes next decides how a reader goes on. -/
theorem runs_ahead_bind {f : Option Char → Reader β} {text rest : List Char} {b : β}
    (h : Runs (f text.head?) text b rest) : Runs (ahead >>= f) text b rest :=
  runs_bind (runs_ahead text) h

/-! ## White space and words -/

private theorem dropSpace_append {w text : List Char} (hw : IsSpace w)
    (htext : ∀ c ∈ text.head?, isSpace c = false) (place : Place) :
    ∃ place', dropSpace place (w ++ text) = ⟨text, place'⟩ := by
  induction w generalizing place with
  | nil =>
      cases text with
      | nil => exact ⟨place, rfl⟩
      | cons c text => exact ⟨place, by simp [dropSpace, htext c rfl]⟩
  | cons c w ih =>
      obtain ⟨hc, hw⟩ := List.forall_mem_cons.1 hw
      obtain ⟨place', h⟩ := ih hw (place.after c)
      exact ⟨place', by rw [List.cons_append, dropSpace, if_pos hc, h]⟩

/-- White space is passed over, up to what is none. -/
theorem runs_skipSpace {w : List Char} (text : List Char) (hw : IsSpace w)
    (htext : ∀ c ∈ text.head?, isSpace c = false) : Runs skipSpace (w ++ text) text.head? text := by
  intro place
  obtain ⟨place', h⟩ := dropSpace_append hw htext place
  refine ⟨place', ?_⟩
  have hskip : skipSpace ⟨w ++ text, place⟩ =
      .ok ((dropSpace place (w ++ text)).rest.head?, dropSpace place (w ++ text)) := rfl
  rw [hskip, h]

/-- The character behind white space decides how a reader goes on. -/
theorem runs_skipSpace_bind {f : Option Char → Reader β} {w text rest : List Char}
    {c : Char} {b : β}
    (hw : IsSpace w) (hc : isSpace c = false) (h : Runs (f (some c)) (c :: text) b rest) :
    Runs (skipSpace >>= f) (w ++ c :: text) b rest :=
  runs_bind (runs_skipSpace _ hw (by simpa using hc)) h

theorem runs_word (letters text : List Char) : Runs (word letters) (letters ++ text) () text := by
  induction letters with
  | nil => exact runs_pure () text
  | cons c letters ih =>
      refine runs_ahead_bind ?_
      simp only [List.cons_append, List.head?_cons, if_pos]
      exact runs_skip_bind ih

/-- A word stands for a value. -/
theorem runs_word_pure (letters text : List Char) (a : α) :
    Runs (do word letters; return a) (letters ++ text) a text :=
  runs_bind (runs_word letters text) (runs_pure a text)

/-! ## Strings -/

private theorem hexValue?_hexDigit : ∀ n < 16, hexValue? (hexDigit n) = some n := by decide

private theorem runs_shortEscape {e c : Char} (text : List Char) (hu : e ≠ 'u')
    (h : shortEscape? e = some c) : Runs escaped (e :: text) c text := by
  refine runs_ahead_bind ?_
  simp only [List.head?_cons, h]
  exact runs_skip_bind (runs_pure c text)

/-- A control character is read back from its number. -/
private theorem runs_controlEscape {c : Char} (text : List Char) (h : c.toNat < 32) :
    Runs escaped ('u' :: '0' :: '0' :: hexDigit (c.toNat / 16) :: hexDigit (c.toNat % 16) :: text)
      c text := by
  refine runs_ahead_bind ?_
  simp only [List.head?_cons]
  refine runs_skip_bind (runs_bind (a := c.toNat) (m := text) ?_ ?_)
  · intro place
    have hzero : hexValue? '0' = some 0 := by decide
    have hhigh := hexValue?_hexDigit (c.toNat / 16) (by omega)
    have hlow := hexValue?_hexDigit (c.toNat % 16) (by omega)
    have hsum : ((0 * 16 + 0) * 16 + c.toNat / 16) * 16 + c.toNat % 16 = c.toNat := by omega
    refine ⟨⟨place.line, place.column + 4⟩, ?_⟩
    simp only [hexQuad, hzero, hhigh, hlow, hsum]
  · have hlone : (0xDC00 ≤ c.toNat && c.toNat ≤ 0xDFFF) = false := by simp; omega
    have hpair : (0xD800 ≤ c.toNat && c.toNat ≤ 0xDBFF) = false := by simp; omega
    simp only [hlone, hpair, Bool.false_eq_true, if_false, Char.ofNat_toNat]
    exact runs_pure c text

/-- A character of a string is read back from the form in which it is written. -/
private theorem runs_escapeChar {fuel : Nat} {taken text rest : List Char} {s : String} (c : Char)
    (h : Runs (stringTail fuel (c :: taken)) text s rest) :
    Runs (stringTail (fuel + 1) taken) (escapeChar c ++ text) s rest := by
  have hescaped : ∀ e : List Char, Runs escaped (e ++ text) c text →
      Runs (stringTail (fuel + 1) taken) ('\\' :: e ++ text) s rest := fun e he =>
    runs_ahead_bind (runs_skip_bind (runs_bind he h))
  have hshort : ∀ e : Char, e ≠ 'u' → shortEscape? e = some c →
      Runs (stringTail (fuel + 1) taken) ('\\' :: [e] ++ text) s rest := fun e hu he =>
    hescaped [e] (runs_shortEscape text hu he)
  have hnumber : ∀ n, c.toNat = n → c = Char.ofNat n := fun n hn => hn ▸ (Char.ofNat_toNat c).symm
  rw [escapeChar]
  split
  · next hc => exact hshort '"' (by decide) (by rw [hc]; rfl)
  split
  · next hc => exact hshort '\\' (by decide) (by rw [hc]; rfl)
  split
  · next hc => exact hshort 'b' (by decide) (by rw [hnumber 8 hc]; rfl)
  split
  · next hc => exact hshort 'f' (by decide) (by rw [hnumber 12 hc]; rfl)
  split
  · next hc => exact hshort 'n' (by decide) (by rw [hc]; rfl)
  split
  · next hc => exact hshort 'r' (by decide) (by rw [hc]; rfl)
  split
  · next hc => exact hshort 't' (by decide) (by rw [hc]; rfl)
  split
  · next hc => exact hescaped _ (runs_controlEscape text hc)
  · next hquote hslash _ _ _ _ _ hcontrol =>
      refine runs_ahead_bind ?_
      simp only [List.cons_append, List.nil_append, List.head?_cons, hcontrol, if_false]
      exact runs_skip_bind h

private theorem runs_stringTail (s taken text : List Char) (fuel : Nat) (hfuel : s.length < fuel) :
    Runs (stringTail fuel taken) (s.flatMap escapeChar ++ '"' :: text)
      (String.ofList (taken.reverse ++ s)) text := by
  induction s generalizing fuel taken with
  | nil =>
      obtain ⟨fuel, rfl⟩ := Nat.exists_eq_add_one_of_ne_zero (Nat.ne_zero_of_lt hfuel)
      rw [List.append_nil]
      exact runs_ahead_bind (runs_skip_bind (runs_pure _ text))
  | cons c s ih =>
      obtain ⟨fuel, rfl⟩ := Nat.exists_eq_add_one_of_ne_zero (Nat.ne_zero_of_lt hfuel)
      rw [List.flatMap_cons, List.append_assoc]
      refine runs_escapeChar c ?_
      have hrest := ih (c :: taken) fuel (by simpa using hfuel)
      rwa [List.reverse_cons, List.append_assoc, List.singleton_append] at hrest

private theorem length_le_flatMap_escapeChar (s : List Char) :
    s.length ≤ (s.flatMap escapeChar).length := by
  induction s with
  | nil => simp
  | cons c s ih =>
      have hc : 0 < (escapeChar c).length := by
        simp only [escapeChar]
        repeat' split
        all_goals simp
      rw [List.flatMap_cons, List.length_append, List.length_cons]
      omega

/-- A string is read back, whatever characters it has. -/
theorem runs_string (s : String) (text : List Char) :
    Runs string (s.toList.flatMap escapeChar ++ '"' :: text) s text := by
  refine runs_get fun place => ?_
  have hlength := length_le_flatMap_escapeChar s.toList
  have hrun := runs_stringTail s.toList [] text
    ((s.toList.flatMap escapeChar ++ '"' :: text).length + 1) (by rw [List.length_append]; omega)
  rwa [List.reverse_nil, List.nil_append, String.ofList_toList] at hrun

/-! ## What separates parts -/

section Separators

variable {w w' text : List Char} (hw : IsSpace w)
include hw

theorem runs_colon : Runs colon (w ++ ':' :: text) () text :=
  runs_skipSpace_bind hw (by decide) (runs_skip ':' text)

theorem runs_textEnd : Runs textEnd w () [] := by
  refine runs_bind (a := none) (m := []) ?_ (runs_pure () [])
  have hskip := runs_skipSpace [] hw (by simp)
  rwa [List.append_nil] at hskip

/-- The array ends, after its last item or without any. -/
theorem runs_nextItem_end (first : Bool) :
    Runs (nextItem first) (w ++ ']' :: text) false (']' :: text) :=
  runs_skipSpace_bind hw (by decide) (runs_pure false _)

theorem runs_nextName_end (first : Bool) :
    Runs (nextName first) (w ++ '\x7d' :: text) none ('\x7d' :: text) :=
  runs_skipSpace_bind hw (by decide) (runs_pure none _)

/-- An item follows the bracket, or a comma. -/
theorem runs_nextItem (hw' : IsSpace w') (first : Bool) (h : BeginsItem text) :
    Runs (nextItem first) (w ++ (comma first ++ (w' ++ text))) true text := by
  obtain ⟨c, tail, rfl, hspace, hend⟩ := h
  cases first with
  | true =>
      rw [comma, if_pos rfl, List.nil_append, ← List.append_assoc]
      refine runs_skipSpace_bind (hw.append hw') hspace ?_
      split
      · contradiction
      · next heq => exact absurd (Option.some.inj heq) hend
      · exact runs_pure true _
  | false =>
      refine runs_skipSpace_bind hw (by decide) (runs_skip_bind (runs_skipSpace_bind hw' hspace ?_))
      split
      · next heq => exact absurd (Option.some.inj heq) hend
      · exact runs_pure true _
      · contradiction

/-- A name follows the brace, or a comma. -/
theorem runs_nextName (hw' : IsSpace w') (first : Bool) (name : String) (text : List Char) :
    Runs (nextName first) (w ++ (comma first ++ (w' ++ (quoteChars name.toList ++ text))))
      (some name) text := by
  have hname : Runs (do return some (← string)) _ (some name) text :=
    runs_bind (runs_string name text) (runs_pure _ text)
  rw [quoteChars_append]
  cases first with
  | true =>
      rw [comma, if_pos rfl, List.nil_append, ← List.append_assoc]
      exact runs_skipSpace_bind (hw.append hw') (by decide) (runs_skip_bind hname)
  | false =>
      exact runs_skipSpace_bind hw (by decide)
        (runs_skip_bind (runs_skipSpace_bind hw' (by decide) (runs_skip_bind hname)))

end Separators

end Reader

end JoinGraph.Json
