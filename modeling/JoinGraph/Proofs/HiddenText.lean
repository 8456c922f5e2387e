import JoinGraph.Proofs.BlankSplit
import JoinGraph.Proofs.KeywordScan
import Mathlib.Data.List.DropRight
import Mathlib.Data.List.Forall2
import Mathlib.Data.List.Infix

/-!
# Texts that differ in hidden places

Scans for keywords and separators look at the top level only, so what stands in quotes or
parentheses is hidden from them.  Two texts are alike (`Alike`) if they differ in hidden places
only; whatever is cut out of such texts at the top level is alike again.

## Main results

* `Hidden.quoted`, `Hidden.nested` — what quotes and parentheses hide.
* `Alike.occurrences`, `Alike.textBefore`, `Alike.splitTop` — what scans find and cut.
* `Alike.trimFront`, `Alike.dropBack` — what is left between the ends.
-/

namespace JoinGraph.Pattern

open Text (isBlank isLowerLetter foldLower)

/-! ## Hidden places -/

/-- A text behind `opening` that a scan leaves with `closing`, and that has no place on the top
level. -/
structure Hidden (n : Nesting) (opening : Char) (x : List Char) (closing : Char) : Prop where
  opens : opening = '\'' ∨ opening = '('
  closes : closing = '\'' ∨ closing = ')'
  inside : ∀ front, front <+: x → ((n.step opening).after front).isTop = false
  back : (n.step opening).after (x ++ [closing]) = n

/-- Texts that differ in hidden places only; the scan comes to them from `n`. -/
inductive Alike : Nesting → List Char → List Char → Prop where
  | nil {n : Nesting} : Alike n [] []
  | char {n : Nesting} {s t : List Char} (c : Char) (h : Alike (n.step c) s t) :
      Alike n (c :: s) (c :: t)
  | hidden {n : Nesting} {opening closing : Char} {x y s t : List Char}
      (hx : Hidden n opening x closing) (hy : Hidden n opening y closing) (h : Alike n s t) :
      Alike n (opening :: (x ++ closing :: s)) (opening :: (y ++ closing :: t))

namespace Hidden

variable {n : Nesting} {opening closing : Char} {x : List Char}

theorem not_isWordPart (h : Hidden n opening x closing) : Text.isWordPart opening = false := by
  rcases h.opens with rfl | rfl <;> decide

theorem not_isBlank (h : Hidden n opening x closing) : isBlank opening = false := by
  rcases h.opens with rfl | rfl <;> decide

theorem after_append (h : Hidden n opening x closing) (s : List Char) :
    n.after (opening :: (x ++ closing :: s)) = n.after s := by
  have hsplit : opening :: (x ++ closing :: s) = opening :: (x ++ [closing]) ++ s := by simp
  have hback : n.after (opening :: (x ++ [closing])) = n := h.back
  rw [hsplit, Nesting.after_append, hback]

/-- A quote hides everything but itself. -/
theorem quoted (hn : n.quote = none) (hx : '\'' ∉ x) : Hidden n '\'' x '\'' := by
  obtain ⟨depth, quote⟩ := n
  obtain rfl : quote = none := hn
  have hstep : (⟨depth, none⟩ : Nesting).step '\'' = ⟨depth, some '\''⟩ := rfl
  refine ⟨.inl rfl, .inl rfl, ?_, ?_⟩
  · rw [hstep]
    exact Nesting.not_isTop_of_quote hx
  · rw [hstep, Nesting.after_append, Nesting.after_quoted hx]
    rfl

end Hidden

/-! ### Parentheses -/

/-- A text that does not close the parenthesis in which it stands, and leaves nothing open there. -/
structure Balanced (x : List Char) : Prop where
  open_front : ∀ front, front <+: x → 0 < ((⟨1, none⟩ : Nesting).after front).depth
  back : (⟨1, none⟩ : Nesting).after x = ⟨1, none⟩

instance (x : List Char) : Decidable (Balanced x) :=
  decidable_of_iff ((∀ front ∈ x.inits, 0 < ((⟨1, none⟩ : Nesting).after front).depth) ∧
    (⟨1, none⟩ : Nesting).after x = ⟨1, none⟩)
    ⟨fun ⟨hopen, hback⟩ => ⟨fun front hfront => hopen front ((List.mem_inits _ _).2 hfront), hback⟩,
      fun h => ⟨fun front hfront => h.open_front front ((List.mem_inits _ _).1 hfront), h.back⟩⟩

/-- A scan that closes no parenthesis too many is the same further inside. -/
theorem Nesting.after_deeper {n : Nesting} {s : List Char}
    (h : ∀ front, front <+: s → 0 < (n.after front).depth) (depth : Nat) :
    (⟨n.depth + depth, n.quote⟩ : Nesting).after s =
      ⟨(n.after s).depth + depth, (n.after s).quote⟩ := by
  induction s generalizing n with
  | nil => rfl
  | cons c s ih =>
      have hn : 0 < n.depth := h [] List.nil_prefix
      have hstep : (⟨n.depth + depth, n.quote⟩ : Nesting).step c =
          ⟨(n.step c).depth + depth, (n.step c).quote⟩ := by
        obtain ⟨d, quote⟩ := n
        cases quote with
        | some opening => by_cases hc : c = opening <;> simp [Nesting.step, hc]
        | none =>
            have hadd : d + depth + 1 = d + 1 + depth := by omega
            have hsub : d + depth - 1 = d - 1 + depth := by
              have hpos : 0 < d := hn
              omega
            simp only [Nesting.step, hadd, hsub]
            split_ifs <;> rfl
      rw [Nesting.after, List.foldl_cons, hstep]
      exact ih fun front hfront => h (c :: front) (List.cons_prefix_cons.2 ⟨rfl, hfront⟩)

namespace Hidden

variable {n : Nesting} {x : List Char}

/-- Parentheses hide what is balanced. -/
theorem nested (hn : n.quote = none) (hx : Balanced x) : Hidden n '(' x ')' := by
  obtain ⟨depth, quote⟩ := n
  obtain rfl : quote = none := hn
  have hstep : (⟨depth, none⟩ : Nesting).step '(' = ⟨1 + depth, none⟩ := by
    simp [Nesting.step, isQuote, Nat.add_comm]
  have hafter : ∀ front, front <+: x → (⟨1 + depth, none⟩ : Nesting).after front =
      ⟨((⟨1, none⟩ : Nesting).after front).depth + depth,
        ((⟨1, none⟩ : Nesting).after front).quote⟩ := fun front hfront =>
    Nesting.after_deeper (fun f hf => hx.open_front f (hf.trans hfront)) depth
  refine ⟨.inr rfl, .inr rfl, fun front hfront => ?_, ?_⟩
  · have hopen := hx.open_front front hfront
    rw [hstep, hafter front hfront]
    simp only [Nesting.isTop, Bool.and_eq_false_iff, beq_eq_false_iff_ne]
    left
    omega
  · rw [hstep, Nesting.after_append, hafter x (List.prefix_refl x), hx.back]
    simp [Nesting.after, Nesting.step, isQuote]

end Hidden

namespace Alike

variable {n : Nesting} {s t u v : List Char}

theorem refl (n : Nesting) (s : List Char) : Alike n s s := by
  induction s generalizing n with
  | nil => exact .nil
  | cons c s ih => exact .char c (ih _)

theorem append (h : Alike n s t) (h' : Alike (n.after s) u v) : Alike n (s ++ u) (t ++ v) := by
  induction h with
  | nil => exact h'
  | char c _ ih => exact .char c (ih h')
  | hidden hx hy _ ih =>
      rw [hx.after_append] at h'
      simpa using Alike.hidden hx hy (ih h')

theorem head?_eq (h : Alike n s t) : s.head? = t.head? := by
  cases h <;> rfl

theorem eq_nil_iff (h : Alike n s t) : s = [] ↔ t = [] := by
  rw [← List.head?_eq_none_iff, h.head?_eq, List.head?_eq_none_iff]

theorem getLast?_eq (h : Alike n s t) : s.getLast? = t.getLast? := by
  induction h with
  | nil => rfl
  | char c h ih => rw [List.getLast?_cons, List.getLast?_cons, ih]
  | hidden hx hy h ih =>
      simp [List.getLast?_cons, List.getLast?_append, ih]

/-! ## Ends -/

theorem step_of_isBlank (hn : n.quote = none) {c : Char} (hc : isBlank c = true) :
    n.step c = n := by
  have hpassive : isPassive c = true := isPassive_of_isPlainSign (isPlainSign_of_isBlank hc)
  obtain ⟨hopen, hclose, -, -⟩ := ne_of_isPassive hpassive
  simp [Nesting.step, hn, not_quote_of_isPassive hpassive, hopen, hclose]

protected theorem trimFront (hn : n.quote = none) (h : Alike n s t) :
    Alike n (Text.trimFront s) (Text.trimFront t) := by
  induction h with
  | nil => exact .nil
  | @char n s t c h ih =>
      by_cases hc : isBlank c = true
      · rw [Text.trimFront_cons_blank hc, Text.trimFront_cons_blank hc]
        rw [step_of_isBlank hn hc] at ih
        exact ih hn
      · rw [Text.trimFront_cons (by simpa using hc), Text.trimFront_cons (by simpa using hc)]
        exact .char c h
  | hidden hx hy h =>
      rw [Text.trimFront_cons hx.not_isBlank, Text.trimFront_cons hy.not_isBlank]
      exact .hidden hx hy h

/-- What is dropped from the back is no closing character. -/
theorem rdropWhile {p : Char → Bool} (hp : ∀ c, c = '\'' ∨ c = ')' → p c = false)
    (h : Alike n s t) :
    Alike n (s.rdropWhile p) (t.rdropWhile p) := by
  induction h with
  | nil => exact .nil
  | @char n s t c h ih =>
      by_cases hc : p c = true
      · rw [Text.rdropWhile_cons hc, Text.rdropWhile_cons hc]
        by_cases hs : s.rdropWhile p = []
        · rw [if_pos hs, if_pos (ih.eq_nil_iff.1 hs)]
          exact .nil
        · rw [if_neg hs, if_neg (mt ih.eq_nil_iff.2 hs)]
          exact .char c ih
      · have hkeep : ∀ s : List Char, (c :: s).rdropWhile p = c :: s.rdropWhile p :=
          Text.rdropWhile_append (by simpa using hc) []
        rw [hkeep, hkeep]
        exact .char c ih
  | @hidden n opening closing x y s t hx hy h ih =>
      have hkeep : ∀ x rest : List Char, (opening :: (x ++ closing :: rest)).rdropWhile p =
          opening :: (x ++ closing :: rest.rdropWhile p) := fun x =>
        Text.rdropWhile_append (hp closing hx.closes) (opening :: x)
      rw [hkeep, hkeep]
      exact .hidden hx hy ih

end Alike

/-! ## Matchers -/

/-- A matcher that takes the same off texts that are alike. -/
def Matcher.Respects (m : Matcher) : Prop :=
  ∀ before {s t}, Alike .top s t → Option.Rel (Alike .top) (m before s) (m before t)

section Matchers

variable {s t : List Char}

theorem afterWord?_alike {word : List Char} (hword : ∀ w ∈ word, isLowerLetter w = true)
    (h : Alike .top s t) : Option.Rel (Alike .top) (afterWord? word s) (afterWord? word t) := by
  induction word generalizing s t with
  | nil => exact .some h
  | cons w word ih =>
      have hpart : ∀ {c : Char}, foldLower c = w → Text.isWordPart c = true := fun hc =>
        Text.isWordPart_of_foldLower (hc ▸ hword w List.mem_cons_self)
      cases h with
      | nil => exact .none
      | char c h =>
          rw [afterWord?, afterWord?]
          by_cases hc : foldLower c = w
          · rw [if_pos hc, if_pos hc]
            rw [Nesting.step_top (isPassive_of_word (hpart hc))] at h
            exact ih (fun x hx => hword x (List.mem_cons_of_mem _ hx)) h
          · rw [if_neg hc, if_neg hc]
            exact .none
      | @hidden _ opening closing x y s t hx hy h =>
          have hne : foldLower opening ≠ w := fun hc =>
            Bool.false_ne_true (hx.not_isWordPart.symm.trans (hpart hc))
          rw [afterWord?, afterWord?, if_neg hne, if_neg hne]
          exact .none

theorem afterBlanks?_alike (h : Alike .top s t) :
    Option.Rel (Alike .top) (afterBlanks? s) (afterBlanks? t) := by
  cases h with
  | nil => exact .none
  | char c h =>
      rw [afterBlanks?, afterBlanks?]
      by_cases hc : isBlank c = true
      · rw [if_pos hc, if_pos hc]
        rw [Alike.step_of_isBlank rfl hc] at h
        exact .some (h.trimFront rfl)
      · rw [if_neg hc, if_neg hc]
        exact .none
  | hidden hx _ _ =>
      rw [afterBlanks?, afterBlanks?, hx.not_isBlank]
      exact .none

theorem rel_filter {α : Type} {r : α → α → Prop} {p : α → Bool} {a? b? : Option α}
    (h : Option.Rel r a? b?) (hp : ∀ a b, r a b → p a = p b) :
    Option.Rel r (a?.filter p) (b?.filter p) := by
  cases h with
  | none => exact .none
  | @some a b hab =>
      rw [Option.filter_some, Option.filter_some, hp a b hab]
      split
      · exact .some hab
      · exact .none

theorem rel_bind {α : Type} {r : α → α → Prop} {f : α → Option α} {a? b? : Option α}
    (h : Option.Rel r a? b?) (hf : ∀ a b, r a b → Option.Rel r (f a) (f b)) :
    Option.Rel r (a?.bind f) (b?.bind f) := by
  cases h with
  | none => exact .none
  | some hab => exact hf _ _ hab

theorem respects_wholeWord {word : String} (hword : IsKeyword word) :
    (wholeWord word).Respects := by
  intro before s t h
  rw [wholeWord, wholeWord]
  split
  · refine rel_filter (afterWord?_alike hword.letters h) fun a b hab => ?_
    rw [endsWord, endsWord, hab.head?_eq]
  · exact .none

theorem respects_wordAndBlanks {word : String} (hword : IsKeyword word) :
    (wordAndBlanks word).Respects := by
  intro before s t h
  rw [wordAndBlanks_eq, wordAndBlanks_eq]
  exact rel_bind (respects_wholeWord hword before h) fun _ _ => afterBlanks?_alike

theorem respects_anyWord {words : List String} (hwords : ∀ word ∈ words, IsKeyword word) :
    (anyWord words).Respects := by
  intro before s t h
  induction words with
  | nil => exact .none
  | cons word words ih =>
      have hfirst := respects_wholeWord (hwords word List.mem_cons_self) before h
      have hothers := ih fun w hw => hwords w (List.mem_cons_of_mem _ hw)
      simp only [anyWord, List.findSome?_cons] at hothers ⊢
      generalize wholeWord word before s = first? at hfirst
      generalize wholeWord word before t = first'? at hfirst
      cases hfirst with
      | none => exact hothers
      | some hrest => exact .some hrest

/-- A closing parenthesis on the top level closes nothing. -/
theorem respects_paren : (character ')').Respects := by
  intro before s t h
  cases h with
  | nil => exact .none
  | char c h =>
      by_cases hc : c = ')'
      · subst hc
        exact .some h
      · simp only [character, hc, if_false]
        exact .none
  | hidden hx _ _ =>
      have hne : ∀ c, c = '\'' ∨ c = '(' → c ≠ ')' := by
        rintro c (rfl | rfl) <;> decide
      simp only [character, hne _ hx.opens, if_false]
      exact .none

theorem Matcher.Respects.either {first second : Matcher} (hfirst : first.Respects)
    (hsecond : second.Respects) : (either first second).Respects := by
  intro before s t h
  have hfirst := hfirst before h
  rw [Pattern.either, Pattern.either]
  generalize first before s = first? at hfirst
  generalize first before t = first'? at hfirst
  cases hfirst with
  | none => exact hsecond before h
  | some hrest => exact .some hrest

end Matchers

/-! ## Scans -/

/-- Matches in texts that are alike, at places that are alike. -/
structure Occurrence.Alike (found found' : Occurrence) : Prop where
  before : Pattern.Alike .top found.before found'.before
  after : Pattern.Alike .top found.after found'.after

namespace Alike

variable {m : Matcher} {n : Nesting} {s t passed passed' : List Char}

/-- What a scan finds at a place, if that is on the top level, and what it finds further on. -/
theorem place {c c' : Char} {further further' : List Occurrence} (hm : m.Respects)
    (h : Alike n (c :: s) (c' :: t)) (hpassed : Alike .top passed.reverse passed'.reverse)
    (hfurther : List.Forall₂ Occurrence.Alike further further') :
    List.Forall₂ Occurrence.Alike
      (if n.isTop then
        match m passed.head? (c :: s) with
        | some after => ⟨passed.reverse, after⟩ :: further
        | none => further
      else further)
      (if n.isTop then
        match m passed'.head? (c' :: t) with
        | some after => ⟨passed'.reverse, after⟩ :: further'
        | none => further'
      else further') := by
  split
  · next htop =>
      rw [Nesting.eq_top_of_isTop htop] at h
      have hhead : passed.head? = passed'.head? := by
        simpa [List.getLast?_reverse] using hpassed.getLast?_eq
      have hmatch := hm passed.head? h
      rw [← hhead]
      generalize m passed.head? (c :: s) = found? at hmatch
      generalize m passed.head? (c' :: t) = found'? at hmatch
      cases hmatch with
      | none => exact hfurther
      | some hafter => exact .cons ⟨hpassed, hafter⟩ hfurther
  · exact hfurther

/-- A scan stops at the same places of texts that are alike. -/
theorem occurrencesFrom (hm : m.Respects) (h : Alike n s t)
    (hpassed : Alike .top passed.reverse passed'.reverse)
    (hn : Nesting.top.after passed.reverse = n) :
    List.Forall₂ Occurrence.Alike (occurrencesFrom m n passed s)
      (occurrencesFrom m n passed' t) := by
  -- The texts that were passed stay alike: one character is added to both, or a hidden place.
  induction h generalizing passed passed' with
  | nil => exact .nil
  | @char n s t c h ih =>
      rw [Pattern.occurrencesFrom, Pattern.occurrencesFrom]
      refine place hm (.char c h) hpassed (ih ?_ ?_)
      · rw [List.reverse_cons, List.reverse_cons]
        exact hpassed.append (refl _ _)
      · rw [List.reverse_cons, Nesting.after_append, hn]
        rfl
  | @hidden n opening closing x y s t hx hy h ih =>
      have hhidden : ∀ x passed : List Char, (closing :: (x.reverse ++ opening :: passed)).reverse =
          passed.reverse ++ opening :: (x ++ [closing]) := by simp
      rw [Pattern.occurrencesFrom, Pattern.occurrencesFrom]
      refine place hm (.hidden hx hy h) hpassed ?_
      rw [occurrencesFrom_below hx.inside, occurrencesFrom_below hy.inside, hx.back, hy.back]
      refine ih ?_ ?_
      · rw [hhidden, hhidden]
        refine hpassed.append ?_
        rw [hn]
        exact .hidden hx hy .nil
      · rw [hhidden, Nesting.after_append, hn]
        exact hx.back

protected theorem occurrences (hm : m.Respects) (h : Alike .top s t) :
    List.Forall₂ Occurrence.Alike (Pattern.occurrences m s) (Pattern.occurrences m t) :=
  h.occurrencesFrom hm .nil rfl

protected theorem first? (hm : m.Respects) (h : Alike .top s t) :
    Option.Rel Occurrence.Alike (Pattern.first? m s) (Pattern.first? m t) := by
  have hfound := h.occurrences hm
  rw [first?_eq_head?, first?_eq_head?]
  generalize Pattern.occurrences m s = found at hfound
  generalize Pattern.occurrences m t = found' at hfound
  cases hfound with
  | nil => exact .none
  | cons hfirst _ => exact .some hfirst

protected theorem textBefore (hm : m.Respects) (h : Alike .top s t) :
    Alike .top (Pattern.textBefore m s) (Pattern.textBefore m t) := by
  have hfirst := h.first? hm
  rw [Pattern.textBefore, Pattern.textBefore]
  generalize Pattern.first? m s = first? at hfirst
  generalize Pattern.first? m t = first'? at hfirst
  cases hfirst with
  | none => exact h
  | some hfound => exact hfound.before

/-- Texts that are alike are cut at the same commas. -/
theorem splitTopFrom (h : Alike n s t) : ∃ part parts part' parts',
    splitTopFrom ',' n s = part :: parts ∧ splitTopFrom ',' n t = part' :: parts' ∧
      Alike n part part' ∧ List.Forall₂ (Alike .top) parts parts' := by
  induction h with
  | nil => exact ⟨[], [], [], [], rfl, rfl, .nil, .nil⟩
  | @char n s t c h ih =>
      obtain ⟨part, parts, part', parts', hs, ht, hpart, hparts⟩ := ih
      rw [Pattern.splitTopFrom, Pattern.splitTopFrom]
      by_cases hcut : (c = ',' && n.isTop) = true
      · simp only [Bool.and_eq_true, decide_eq_true_eq] at hcut
        obtain ⟨rfl, htop⟩ := hcut
        obtain rfl := Nesting.eq_top_of_isTop htop
        have hstep : Nesting.top.step ',' = .top := rfl
        rw [hstep] at hs ht hpart
        exact ⟨[], part :: parts, [], part' :: parts', by simp [hs, htop], by simp [ht, htop], .nil,
          .cons hpart hparts⟩
      · refine ⟨c :: part, parts, c :: part', parts', ?_, ?_, .char c hpart, hparts⟩
        · rw [if_neg hcut, hs]
          rfl
        · rw [if_neg hcut, ht]
          rfl
  | @hidden n opening closing x y s t hx hy h ih =>
      obtain ⟨part, parts, part', parts', hs, ht, hpart, hparts⟩ := ih
      have hcomma : opening ≠ ',' := by
        rcases hx.opens with rfl | rfl <;> decide
      refine ⟨opening :: (x ++ closing :: part), parts, opening :: (y ++ closing :: part'), parts',
        ?_, ?_, .hidden hx hy hpart, hparts⟩
      · rw [Pattern.splitTopFrom, splitTopFrom_below hx.inside, hx.back, hs, foldr_consToFirst]
        simp [hcomma, consToFirst]
      · rw [Pattern.splitTopFrom, splitTopFrom_below hy.inside, hy.back, ht, foldr_consToFirst]
        simp [hcomma, consToFirst]

protected theorem splitTop (h : Alike .top s t) :
    List.Forall₂ (Alike .top) (Pattern.splitTop ',' s) (Pattern.splitTop ',' t) := by
  obtain ⟨part, parts, part', parts', hs, ht, hpart, hparts⟩ := h.splitTopFrom
  rw [Pattern.splitTop, Pattern.splitTop, hs, ht]
  exact .cons hpart hparts

end Alike

end JoinGraph.Pattern
