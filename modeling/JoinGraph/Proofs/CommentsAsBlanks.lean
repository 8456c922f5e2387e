import JoinGraph.Pattern
import JoinGraph.Proofs.CommentScan
import JoinGraph.Proofs.KeywordScan

/-!
# Comments as blanks

A comment leaves one space behind, so a text with a comment is read as the text with a space in
its place. The space keeps apart what stands around the comment: no further comment opens there,
and no quote opens or closes.  So texts in which no comment opens outside of quotes
(`Uncommented`) are the texts that are left when comments are dropped, and those that stay as they
are.

## Main results

* `withoutComments_block`, `withoutComments_line` — a space in place of a comment.
* `withoutComments_quoted`, `withoutComments_unclosed` — quoted texts stay.
* `uncommented_withoutComments`, `withoutComments_of_uncommented` — normal forms and fixed points.
* `read_comments` — comments are read as spaces.
-/

namespace JoinGraph.Pattern

/-! ## One comment -/

section Comment

variable {p x : List Char}

/-- A block comment ends at the first `*/`. -/
theorem afterBlock_body (hx : ¬['*', '/'] <:+: x) (q : List Char) :
    afterBlock (x ++ '*' :: '/' :: q) = q := by
  induction x with
  | nil => rw [List.nil_append, afterBlock]
  | cons c x ih =>
      have hrest : ¬['*', '/'] <:+: x := fun h => hx (h.trans (List.suffix_cons c x).isInfix)
      rw [List.cons_append, afterBlock, ih hrest]
      rintro tail rfl htail
      -- The slash behind an asterisk would stand in the comment or be the asterisk behind it.
      cases x with
      | nil => simp at htail
      | cons d x =>
          obtain ⟨rfl, -⟩ := List.cons.inj htail
          exact hx (List.prefix_append ['*', '/'] x).isInfix

theorem withoutComments_space (q : List Char) :
    withoutComments (' ' :: q) = ' ' :: withoutComments q :=
  withoutCommentsFrom_keep (by simp) (by simp)

/-- A space behind a text, outside of quotes and comments. -/
theorem withoutComments_append_space (hp : EndsOutside p) (q : List Char) :
    withoutComments (p ++ ' ' :: q) = withoutComments p ++ ' ' :: withoutComments q := by
  rw [withoutComments_append hp (by simp) (by simp), withoutComments_space]

theorem withoutComments_block (hp : EndsOutside p) (hx : ¬['*', '/'] <:+: x) (q : List Char) :
    withoutComments (p ++ '/' :: '*' :: (x ++ '*' :: '/' :: q)) =
      withoutComments (p ++ ' ' :: q) := by
  have hblock : withoutComments ('/' :: '*' :: (x ++ '*' :: '/' :: q)) =
      ' ' :: withoutComments q := by
    rw [withoutComments, withoutCommentsFrom, afterBlock_body hx, withoutComments]
  rw [withoutComments_append hp (by simp) (by simp), hblock, withoutComments_append_space hp]

/-- A line comment goes on to the line break, which is kept, or to the end of the text. -/
theorem withoutComments_line (hp : EndsOutside p) (hlast : p.getLast? ≠ some '-') (hx : '\n' ∉ x)
    {q : List Char} (hq : ∀ c ∈ q.head?, c = '\n') :
    withoutComments (p ++ '-' :: '-' :: (x ++ q)) = withoutComments (p ++ ' ' :: q) := by
  have hafter : afterLine (x ++ q) = q := by
    have hpassed : ∀ c ∈ x, decide (c ≠ '\n') = true := by
      intro c hc
      have hne : c ≠ '\n' := fun h => hx (h ▸ hc)
      simpa using hne
    rw [afterLine, List.dropWhile_append_of_pos hpassed]
    cases q with
    | nil => rfl
    | cons c q => simp [hq c rfl]
  have hline : withoutComments ('-' :: '-' :: (x ++ q)) = ' ' :: withoutComments q := by
    rw [withoutComments, withoutCommentsFrom, hafter, withoutComments]
  have hapart : Apart (Place.code.after p) ('-' :: '-' :: (x ++ q)) :=
    ⟨fun h => absurd (getLast?_of_after_eq_hyphen h) hlast, by simp⟩
  have happend : withoutComments (p ++ '-' :: '-' :: (x ++ q)) =
      withoutComments p ++ withoutComments ('-' :: '-' :: (x ++ q)) :=
    @withoutCommentsFrom_append none _ _ hp hapart
  rw [happend, hline, withoutComments_append_space hp]

end Comment

/-! ## Quoted texts -/

section Quoted

variable {p body : List Char} {quote : Char}

theorem ne_of_isQuote (hquote : isQuote quote = true) :
    quote ≠ '-' ∧ quote ≠ '*' ∧ quote ≠ '/' := by
  refine ⟨?_, ?_, ?_⟩ <;>
  · rintro rfl
    cases hquote

/-- Behind a quote that opens, the text is scanned for the one that closes. -/
theorem withoutComments_open (hp : EndsOutside p) (hquote : isQuote quote = true) (q : List Char) :
    withoutComments (p ++ quote :: q) = withoutComments p ++ quote :: withoutCommentsFrom
      (some quote) q := by
  obtain ⟨hdash, hstar, hslash⟩ := ne_of_isQuote hquote
  have hopen : withoutComments (quote :: q) = quote :: withoutCommentsFrom (some quote) q := by
    rw [withoutComments, withoutCommentsFrom_cons hdash hslash, if_pos hquote]
  rw [withoutComments_append hp (by simpa using hdash) (by simpa using hstar), hopen]

/-- What stands in a quote is no comment. -/
theorem withoutComments_quoted (hp : EndsOutside p) (hquote : isQuote quote = true)
    (hbody : quote ∉ body) (q : List Char) :
    withoutComments (p ++ quote :: (body ++ quote :: q)) =
      withoutComments p ++ quote :: (body ++ quote :: withoutComments q) := by
  rw [withoutComments_open hp hquote, withoutCommentsFrom_inside_quotes hbody, ← withoutComments]

/-- Neither is what stands behind a quote that is not closed. -/
theorem withoutComments_unclosed (hp : EndsOutside p) (hquote : isQuote quote = true)
    (hbody : quote ∉ body) :
    withoutComments (p ++ quote :: body) = withoutComments p ++ quote :: body := by
  have hkept : withoutCommentsFrom (some quote) body = body := by
    induction body with
    | nil => rw [withoutCommentsFrom]
    | cons c body ih =>
        have hc : c ≠ quote := fun hc => hbody (hc ▸ List.mem_cons_self)
        rw [withoutCommentsFrom, if_neg hc, ih fun hmem => hbody (List.mem_cons_of_mem c hmem)]
  rw [withoutComments_open hp hquote, hkept]

end Quoted

/-! ## Texts without comments -/

/-- A text, scanned from `n`, in which no comment opens outside of quotes. -/
def Uncommented (n : Nesting) (s : List Char) : Prop :=
  ∀ front back, s = front ++ back → (n.after front).quote = none →
    ¬['-', '-'] <+: back ∧ ¬['/', '*'] <+: back

section Uncommented

variable {n : Nesting} {quote : Option Char} {s : List Char}

theorem not_pair_prefix_iff (a b c : Char) (s : List Char) :
    ¬[a, b] <+: c :: s ↔ (c = a → s.head? ≠ some b) := by
  cases s with
  | nil => simp [List.cons_prefix_cons]
  | cons d s => simp [List.cons_prefix_cons, eq_comm]

theorem uncommented_nil (n : Nesting) : Uncommented n [] := by
  intro front back heq hquote
  obtain ⟨rfl, rfl⟩ := List.append_eq_nil_iff.1 heq.symm
  simp

theorem uncommented_cons_iff (n : Nesting) (c : Char) (s : List Char) : Uncommented n (c :: s) ↔
    (n.quote = none → (c = '-' → s.head? ≠ some '-') ∧ (c = '/' → s.head? ≠ some '*')) ∧
      Uncommented (n.step c) s := by
  rw [← not_pair_prefix_iff, ← not_pair_prefix_iff]
  constructor
  · intro h
    refine ⟨h [] (c :: s) rfl, ?_⟩
    intro front back heq hquote
    exact h (c :: front) back (heq ▸ rfl) hquote
  · intro h front back heq hquote
    cases front with
    | nil =>
        obtain rfl : c :: s = back := heq
        exact h.1 hquote
    | cons d front =>
        rw [List.cons_append, List.cons.injEq] at heq
        obtain ⟨rfl, heq⟩ := heq
        exact h.2 front back heq hquote

/-- Where comments are dropped, the first character is the one of the text or a space. -/
theorem head?_withoutCommentsFrom {d : Char} (hd : d ≠ ' ') (h : s.head? ≠ some d) :
    (withoutCommentsFrom quote s).head? ≠ some d := by
  fun_cases withoutCommentsFrom quote s with
  | case1 => simp
  | case2 | case5 => exact h
  | case3 | case4 => simpa using Ne.symm hd

/-- No comment opens in what is left when comments are dropped. -/
theorem uncommented_withoutCommentsFrom (hn : n.quote = quote) :
    Uncommented n (withoutCommentsFrom quote s) := by
  fun_induction withoutCommentsFrom quote s generalizing n with
  | case1 => exact uncommented_nil n
  | case2 opening c rest ih =>
      simp only [dite_eq_ite] at ih
      rw [uncommented_cons_iff]
      refine ⟨?_, ih (quote_step_of_some hn c)⟩
      intro hnone
      cases hn.symm.trans hnone
  | case3 rest ih =>
      rw [uncommented_cons_iff, step_space hn]
      exact ⟨fun _ => by simp, ih hn⟩
  | case4 rest ih =>
      rw [uncommented_cons_iff, step_space hn]
      exact ⟨fun _ => by simp, ih hn⟩
  | case5 c rest hnotLine hnotBlock ih =>
      simp only [dite_eq_ite] at ih
      rw [uncommented_cons_iff]
      refine ⟨fun _ => ⟨?_, ?_⟩, ih (quote_step_of_none hn c)⟩
      · intro hc
        exact head?_withoutCommentsFrom (by decide)
          (head?_ne_of_not_cons fun tail => hnotLine tail hc)
      · intro hc
        exact head?_withoutCommentsFrom (by decide)
          (head?_ne_of_not_cons fun tail => hnotBlock tail hc)

/-- A text in which no comment opens stays as it is. -/
theorem withoutCommentsFrom_of_uncommented (hn : n.quote = quote) (hs : Uncommented n s) :
    withoutCommentsFrom quote s = s := by
  fun_induction withoutCommentsFrom quote s generalizing n with
  | case1 => rfl
  | case2 opening c rest ih =>
      simp only [dite_eq_ite] at ih
      rw [uncommented_cons_iff] at hs
      rw [ih (quote_step_of_some hn c) hs.2]
  | case3 rest ih => exact absurd rfl ((((uncommented_cons_iff _ _ _).1 hs).1 hn).1 rfl)
  | case4 rest ih => exact absurd rfl ((((uncommented_cons_iff _ _ _).1 hs).1 hn).2 rfl)
  | case5 c rest hnotLine hnotBlock ih =>
      simp only [dite_eq_ite] at ih
      rw [uncommented_cons_iff] at hs
      rw [ih (quote_step_of_none hn c) hs.2]

theorem uncommented_withoutComments (s : List Char) : Uncommented .top (withoutComments s) :=
  uncommented_withoutCommentsFrom rfl

theorem withoutComments_of_uncommented (hs : Uncommented .top s) : withoutComments s = s :=
  withoutCommentsFrom_of_uncommented rfl hs

end Uncommented

theorem read_congr_withoutComments {s t : String}
    (h : withoutComments s.toList = withoutComments t.toList) : read s = read t := by
  simp only [read, readChars, prepare, h]

end JoinGraph.Pattern

namespace JoinGraph

open Pattern (EndsOutside Uncommented isQuote withoutComments)

/--
A comment is read as a space: one between `/*` and `*/`, and one behind two hyphens, up to the
line break or the end of the text, if the text before does not end with a hyphen.  Dropping
comments twice is dropping them once; a text in which no comment opens outside of quotes stays as
it is, and no other is left.  What stands in quotes stays as it is, and behind a quote that is not
closed all the rest.
-/
theorem read_comments (p x q : String) (s : List Char) :
    (EndsOutside p.toList → ¬"*/".toList <:+: x.toList →
      Pattern.read (p ++ "/*" ++ x ++ "*/" ++ q) = Pattern.read (p ++ " " ++ q)) ∧
    (EndsOutside p.toList → p.toList.getLast? ≠ some '-' → '\n' ∉ x.toList →
      (∀ c ∈ q.toList.head?, c = '\n') →
        Pattern.read (p ++ "--" ++ x ++ q) = Pattern.read (p ++ " " ++ q)) ∧
    withoutComments (withoutComments s) = withoutComments s ∧
    (Uncommented .top s → withoutComments s = s) ∧
    Uncommented .top (withoutComments s) ∧
    (EndsOutside s → ∀ quote body, isQuote quote = true → quote ∉ body →
      (∀ t, withoutComments (s ++ quote :: (body ++ quote :: t)) =
        withoutComments s ++ quote :: (body ++ quote :: withoutComments t)) ∧
      withoutComments (s ++ quote :: body) = withoutComments s ++ quote :: body) := by
  have hfree := Pattern.uncommented_withoutComments s
  refine ⟨?_, ?_, Pattern.withoutComments_of_uncommented hfree,
    Pattern.withoutComments_of_uncommented, hfree, ?_⟩
  · intro hp hx
    apply Pattern.read_congr_withoutComments
    simpa using Pattern.withoutComments_block hp hx q.toList
  · intro hp hlast hx hq
    apply Pattern.read_congr_withoutComments
    simpa using Pattern.withoutComments_line hp hlast hx hq
  · intro hs quote body hquote hbody
    constructor
    · exact Pattern.withoutComments_quoted hs hquote hbody
    · exact Pattern.withoutComments_unclosed hs hquote hbody

/-- Comments next to a hyphen, a slash and asterisks, with quotes in them, and hyphens in quotes. -/
theorem read_comments_between :
    (EndsOutside "SELECT a /".toList ∧ ¬"*/".toList <:+: "/ it's * a".toList ∧
      Pattern.read ("SELECT a /" ++ "/*" ++ "/ it's * a" ++ "*/" ++ "* b FROM t") =
        Pattern.read ("SELECT a /" ++ " " ++ "* b FROM t")) ∧
    (EndsOutside "SELECT a ".toList ∧ "SELECT a ".toList.getLast? ≠ some '-' ∧
      '\n' ∉ "- /* \"".toList ∧
      (∀ c ∈ "\nFROM t".toList.head?, c = '\n') ∧
      Pattern.read ("SELECT a " ++ "--" ++ "- /* \"" ++ "\nFROM t") =
        Pattern.read ("SELECT a " ++ " " ++ "\nFROM t")) ∧
    (Uncommented .top "'--' - \x60/*".toList ∧ withoutComments "'--' - \x60/*".toList =
      "'--' - \x60/*".toList) ∧
    (EndsOutside "SELECT ".toList ∧ isQuote '"' = true ∧ '"' ∉ "a -- b".toList ∧
      withoutComments ("SELECT ".toList ++ '"' :: "a -- b".toList) =
        withoutComments "SELECT ".toList ++ '"' :: "a -- b".toList) := by
  have hslash : EndsOutside "SELECT a /".toList := by decide +kernel
  have hblock : ¬"*/".toList <:+: "/ it's * a".toList := by decide +kernel
  have hblank : EndsOutside "SELECT a ".toList := by decide +kernel
  have hlast : "SELECT a ".toList.getLast? ≠ some '-' := by decide +kernel
  have hbreak : '\n' ∉ "- /* \"".toList := by decide +kernel
  have hnext : ∀ c ∈ "\nFROM t".toList.head?, c = '\n' := by simp
  have hleft : withoutComments "'--' - \x60/*".toList = "'--' - \x60/*".toList := by decide +kernel
  have hquote : EndsOutside "SELECT ".toList := by decide +kernel
  have hbody : '"' ∉ "a -- b".toList := by decide +kernel
  have hread := read_comments "SELECT a /" "/ it's * a" "* b FROM t" "'--' - \x60/*".toList
  have hline := read_comments "SELECT a " "- /* \"" "\nFROM t" "SELECT ".toList
  have hfree : Uncommented .top "'--' - \x60/*".toList := by
    have hfree := hread.2.2.2.2.1
    rwa [hleft] at hfree
  exact ⟨⟨hslash, hblock, hread.1 hslash hblock⟩,
    ⟨hblank, hlast, hbreak, hnext, hline.2.1 hblank hlast hbreak hnext⟩,
    ⟨hfree, hread.2.2.2.1 hfree⟩, hquote, rfl, hbody, (hline.2.2.2.2.2 hquote '"' _ rfl hbody).2⟩

end JoinGraph
