import JoinGraph.Proofs.Sessions

/-!
# Which parser a result comes from

The parsers are asked in order, each for the trimmed text, until one yields a tree; one that fails
or breaks off is passed over (`Parsers.Answers`).  The first tree decides: if its shape is
recognized, the result holds its statement and names its parser.  Otherwise the text is read by
patterns, even if a later parser would have done better.

## Main results

* `Parsers.Answers.unique` — at most one parser answers.
* `Parsers.statement_of_recognized`, `Parsers.statement_of_unrecognized` — the two ways to a
  statement.
* `Parsers.generate_congr` — what the parsers say to other texts, or are not asked, does not matter.
* `generate_outcome` — the result of a session, whatever its parsers do.
-/

namespace JoinGraph

theorem tree?_eq_some_iff (reply : Reply) (t : Tree) : reply.tree? = some t ↔ reply = .tree t := by
  cases reply <;> simp [Reply.tree?]

/-- What is left of a text that is not blank is the trimmed text. -/
theorem nonBlank?_of_not_blank {sql : String} (h : Text.isBlankText sql = false) :
    Text.nonBlank? sql = some (Text.trim sql) := by
  refine (Text.nonBlank?_eq_some_iff sql _).2 ⟨rfl, fun hempty => ?_⟩
  rw [(Text.trim_eq_empty_iff sql).1 hempty] at h
  cases h

namespace Parsers

variable {p q : Parsers} {text : String} {kind : ParserKind} {t : Tree}

/-! ## The first answer -/

/--
A parser answers a text if it yields a tree for it and no parser before it does.  The matching of
patterns is not among them: it is what is left if nobody answers.
-/
inductive Answers (p : Parsers) (text : String) : ParserKind → Tree → Prop where
  | function {f : Parser} {t : Tree} (hf : p.function? = some f) (h : f text = .tree t) :
      Answers p text .function t
  | grammar {g : Parser} {t : Tree}
      (hfirst : ∀ f, p.function? = some f → ∀ other, f text ≠ .tree other)
      (hg : p.grammar? = some g) (h : g text = .tree t) : Answers p text .grammar t

/-- One parser answers with one tree. -/
theorem Answers.unique {other : ParserKind} {u : Tree} (h : p.Answers text kind t)
    (hother : p.Answers text other u) : kind = other ∧ t = u := by
  cases h with
  | function hf h =>
      cases hother with
      | function hf' h' =>
          obtain rfl := Option.some.inj (hf.symm.trans hf')
          exact ⟨rfl, Reply.tree.inj (h.symm.trans h')⟩
      | grammar hfirst => exact absurd h (hfirst _ hf _)
  | grammar hfirst hg h =>
      cases hother with
      | function hf' h' => exact absurd h' (hfirst _ hf' _)
      | grammar _ hg' h' =>
          obtain rfl := Option.some.inj (hg.symm.trans hg')
          exact ⟨rfl, Reply.tree.inj (h.symm.trans h')⟩

theorem readBy_eq_some_iff (parser? : Option Parser) (r : Reading) :
    readBy parser? kind text = some r ↔
      ∃ f, parser? = some f ∧ f text = .tree r.tree ∧ r.parser = kind := by
  cases parser? with
  | none => simp [readBy]
  | some f =>
      have hread : readBy (some f) kind text = (f text).tree?.map (⟨·, kind⟩) := by
        simp [readBy, Option.map_eq_bind]
      simp only [hread, Option.map_eq_some_iff, tree?_eq_some_iff, Option.some.injEq,
        exists_eq_left']
      constructor
      · rintro ⟨u, hu, rfl⟩
        exact ⟨hu, rfl⟩
      · rintro ⟨hu, rfl⟩
        exact ⟨_, hu, rfl⟩

theorem readBy_eq_none_iff (parser? : Option Parser) :
    readBy parser? kind text = none ↔ ∀ f, parser? = some f → ∀ other, f text ≠ .tree other := by
  rw [Option.eq_none_iff_forall_not_mem]
  simp only [Option.mem_def, readBy_eq_some_iff]
  constructor
  · intro h f hf other heq
    exact h ⟨other, kind⟩ ⟨f, hf, heq, rfl⟩
  · rintro h r ⟨f, hf, heq, -⟩
    exact h f hf r.tree heq

/-- Reading takes the answer, if there is one. -/
theorem read_of_answers (h : p.Answers text kind t) : p.read text = ⟨t, kind⟩ := by
  cases h with
  | function hf h =>
      have hread : readBy p.function? .function text = some ⟨t, .function⟩ :=
        (readBy_eq_some_iff _ _).2 ⟨_, hf, h, rfl⟩
      rw [read, hread]
      rfl
  | grammar hfirst hg h =>
      have hnone : readBy p.function? .function text = none := (readBy_eq_none_iff _).2 hfirst
      have hread : readBy p.grammar? .grammar text = some ⟨t, .grammar⟩ :=
        (readBy_eq_some_iff _ _).2 ⟨_, hg, h, rfl⟩
      rw [read, hnone, hread]
      rfl

/-- Without an answer the text is read by patterns. -/
theorem read_of_no_answer (h : ∀ kind t, ¬p.Answers text kind t) :
    p.read text = matchPatterns text := by
  have hfirst : ∀ f, p.function? = some f → ∀ other, f text ≠ .tree other := fun f hf other heq =>
    h _ _ (.function hf heq)
  have hsecond : ∀ g, p.grammar? = some g → ∀ other, g text ≠ .tree other := fun g hg other heq =>
    h _ _ (.grammar hfirst hg heq)
  rw [read, (readBy_eq_none_iff _).2 hfirst, (readBy_eq_none_iff _).2 hsecond]
  rfl

/-! ## The statement -/

/-- An answer of a known shape gives the statement. -/
theorem statement_of_recognized {shape : Shape} (h : p.Answers text kind t)
    (hshape : t.recognize = .ok shape) : p.statement text = (shape.statement, kind) := by
  have htree : t.statement = .ok shape.statement := by rw [Tree.statement, hshape]; rfl
  simp only [statement, read_of_answers h, htree]

/-- In all other cases patterns give the statement. -/
theorem statement_of_unrecognized
    (h : ∀ kind t, p.Answers text kind t → ∃ fault, t.recognize = .error fault) :
    p.statement text = ((Pattern.read text).statement, .patterns) := by
  by_cases hanswer : ∃ kind t, p.Answers text kind t
  · obtain ⟨kind, t, ht⟩ := hanswer
    obtain ⟨fault, hfault⟩ := h kind t ht
    have htree : t.statement = .error fault := by rw [Tree.statement, hfault]; rfl
    simp only [statement, read_of_answers ht, htree]
  · have hnone : ∀ kind t, ¬p.Answers text kind t := fun kind t ht => hanswer ⟨kind, t, ht⟩
    simp only [statement, read_of_no_answer hnone]
    rfl

/-! ## What is asked -/

/--
Two lists of parsers that cannot be told apart by asking for one text: the functions reply the same,
and the grammars do if they are asked at all.
-/
structure AgreeOn (p q : Parsers) (text : String) : Prop where
  function : p.function?.map (· text) = q.function?.map (· text)
  grammar : (∀ t, ¬p.Answers text .function t) → p.grammar?.map (· text) = q.grammar?.map (· text)

theorem readBy_congr {first second : Option Parser}
    (h : first.map (· text) = second.map (· text)) :
    readBy first kind text = readBy second kind text := by
  cases first <;> cases second <;> simp_all [readBy]

theorem read_congr (h : p.AgreeOn q text) : p.read text = q.read text := by
  have hfunction : readBy p.function? .function text = readBy q.function? .function text :=
    readBy_congr h.function
  by_cases hanswer : ∃ t, p.Answers text .function t
  · obtain ⟨t, ht⟩ := hanswer
    cases ht with
    | function hf ht =>
        have hread : readBy p.function? .function text = some ⟨t, .function⟩ :=
          (readBy_eq_some_iff _ _).2 ⟨_, hf, ht, rfl⟩
        rw [read, read, ← hfunction, hread]
        rfl
  · have hgrammar : readBy p.grammar? .grammar text = readBy q.grammar? .grammar text :=
      readBy_congr (h.grammar fun t ht => hanswer ⟨t, ht⟩)
    rw [read, read, hfunction, hgrammar]

theorem generate_of_not_blank (p : Parsers) (o : Options) {sql : String}
    (h : Text.isBlankText sql = false) :
    p.generate o sql = .ok ⟨(p.statement (Text.trim sql)).1.graph o,
      (p.statement (Text.trim sql)).1, (p.statement (Text.trim sql)).2⟩ := by
  rw [generate, nonBlank?_of_not_blank h]

/-- Only the trimmed text is passed on, and only to the parsers up to the first that answers. -/
theorem generate_congr {sql : String} (h : p.AgreeOn q (Text.trim sql)) (o : Options) :
    p.generate o sql = q.generate o sql := by
  cases hblank : Text.isBlankText sql with
  | true => rw [p.generate_of_blank o hblank, q.generate_of_blank o hblank]
  | false =>
      have hstatement : p.statement (Text.trim sql) = q.statement (Text.trim sql) := by
        simp only [statement, read_congr h]
      rw [p.generate_of_not_blank o hblank, q.generate_of_not_blank o hblank, hstatement]

end Parsers

/--
A session refuses exactly the blank texts.  Any other text has a result, and its graph is that of
the statement in it.  If the first parser that answers the trimmed text yields a tree of a known
shape, the statement is that of the tree and the parser is named; in all other cases both are
those of reading the trimmed text by patterns.  No more than this is asked: other parsers that
make the same of the trimmed text, as far as they are asked, lead to the same result.
-/
theorem generate_outcome (s : Session) (sql : String) :
    ((s.generate sql).1 = .error .empty ↔ Text.isBlankText sql = true) ∧
      (Text.isBlankText sql = false → ∃ r, (s.generate sql).1 = .ok r ∧
        r.graph = r.statement.graph s.options ∧
        (∀ kind t shape, s.parsers.Answers (Text.trim sql) kind t → t.recognize = .ok shape →
          r.parser = kind ∧ r.statement = shape.statement) ∧
        ((∀ kind t, s.parsers.Answers (Text.trim sql) kind t →
          ∃ fault, t.recognize = .error fault) →
          r.parser = .patterns ∧
            (Tree.shaped (.flat (Pattern.read (Text.trim sql)))).statement = .ok r.statement) ∧
        ∀ parsers : Parsers, s.parsers.AgreeOn parsers (Text.trim sql) →
          (Session.generate { s with parsers := parsers } sql).1 = .ok r) := by
  have hsession : ∀ s : Session, (s.generate sql).1 = s.parsers.generate s.options sql := by
    intro s
    rw [Session.generate]
    cases s.parsers.generate s.options sql <;> rfl
  rw [hsession]
  cases hblank : Text.isBlankText sql with
  | true => exact ⟨iff_of_true (s.parsers.generate_of_blank s.options hblank) rfl,
      fun hfalse => absurd hfalse (by decide)⟩
  | false =>
      have hresult := s.parsers.generate_of_not_blank s.options hblank
      refine ⟨by simp [hresult], fun _ => ⟨_, hresult, rfl, ?_, ?_, ?_⟩⟩
      · intro kind t shape ht hshape
        rw [Parsers.statement_of_recognized ht hshape]
        exact ⟨rfl, rfl⟩
      · intro hfault
        rw [Parsers.statement_of_unrecognized hfault]
        exact ⟨rfl, rfl⟩
      · intro parsers hagree
        rw [hsession, ← hresult]
        exact (Parsers.generate_congr hagree s.options).symm

/-- Parsers of which the first breaks off and the second knows one text only. -/
def patientParsers : Parsers :=
  ⟨some fun _ => .aborted "stack overflow", some fun text =>
    if text = "TABLE a" then .tree (.shaped (.flat ⟨[], [⟨"a", none⟩], [], none⟩))
    else .failed "unexpected text"⟩

/-- Parsers of which the first yields a value of no known shape, and the second would have known
it. -/
def hastyParsers : Parsers := { patientParsers with function? := some fun _ => .tree (.json .null) }

/-- The second parser answers a text without its blanks, but not after a tree of no known shape. -/
theorem generate_outcome_inOrder :
    Text.isBlankText " TABLE a\n" = false ∧
      (∃ r, ((Session.start patientParsers .default).generate " TABLE a\n").1 = .ok r ∧
        r.parser = .grammar ∧ r.statement.tables = [⟨"a", none⟩]) ∧
      ∃ r, ((Session.start hastyParsers .default).generate " TABLE a\n").1 = .ok r ∧
        r.parser = .patterns ∧ r.statement = .empty := by
  have hsql : Text.isBlankText " TABLE a\n" = false := by decide
  have htrim : Text.trim " TABLE a\n" = "TABLE a" := by decide
  refine ⟨hsql, ?_, ?_⟩
  · obtain ⟨r, hr, -, hknown, -, -⟩ :=
      (generate_outcome (Session.start patientParsers .default) " TABLE a\n").2 hsql
    have hanswer : patientParsers.Answers (Text.trim " TABLE a\n") .grammar _ :=
      .grammar (by rintro f ⟨⟩ other ⟨⟩) rfl (by rw [htrim]; rfl)
    obtain ⟨hparser, hstatement⟩ := hknown _ _ _ hanswer rfl
    exact ⟨r, hr, hparser, by rw [hstatement]; decide⟩
  · obtain ⟨r, hr, -, -, hunknown, -⟩ :=
      (generate_outcome (Session.start hastyParsers .default) " TABLE a\n").2 hsql
    have hanswer : hastyParsers.Answers (Text.trim " TABLE a\n") .function (.json .null) :=
      .function rfl rfl
    obtain ⟨hparser, hstatement⟩ := hunknown fun kind t ht => by
      obtain ⟨rfl, rfl⟩ := hanswer.unique ht
      exact ⟨_, rfl⟩
    refine ⟨r, hr, hparser, ?_⟩
    rw [htrim] at hstatement
    have hread : (Tree.shaped (.flat (Pattern.read "TABLE a"))).statement = .ok .empty := by
      decide +kernel
    exact (Except.ok.inj (hstatement.symm.trans hread))

end JoinGraph
