import JoinGraph.Proofs.JsonTexts
import JoinGraph.Proofs.WrittenGraphs
import JoinGraph.Render
import JoinGraph.Session

/-!
# Requests and answers as texts

A request comes as a text, and a result goes out as one.  Both keep everything: whichever text of
a request is sent, it is that request which is answered, and what is read from the answer is the
result of the request, or the error that took its place.  The two cannot be confused, as no result
is written like an error.

## Main results

* `Options.reads_reader`, `Request.reads_reader` — typed readers undo encoding.
* `results_of_texts` — results come back from their texts, and requests are answered as such.
-/

namespace JoinGraph

open Json (Reader Plain PlainMembers)
open Json.Reader (Reads Collects)

/-! ## Requests -/

/-- Options are read off each of their texts. -/
theorem Options.reads_reader (o : Options) : Reads Options.reader o.toJson o := by
  obtain ⟨infers, aliases⟩ := o
  have hflag : ∀ (σ : Type) (f : Option Bool → σ) (b : Bool),
      Reads (do return f (← Reader.orNull Reader.flag)) (.bool b) (f (some b)) := fun _ f b =>
    (Reader.reads_orNull (Reader.reads_flag b) (by simp)).map f
  have hgiven : ∀ a : Option Bool, (a.map some).getD none = a := by
    rintro (_ | b) <;> rfl
  let final : Options.Partial := ⟨infers.map some, aliases.map some⟩
  have hrecord : Reads Options.reader (Options.toJson ⟨infers, aliases⟩)
      ⟨final.inferJoins.getD none, final.aliasJoins.getD none⟩ := by
    refine Reads.map (Reader.reads_record "GraphOptions" (.append
      (.optional ⟨infers.map some, none⟩ rfl rfl ?_ ?_) (.optional _ rfl rfl ?_ ?_)) rfl) _
    · rintro rfl
      rfl
    · rintro b rfl
      exact hflag _ _ b
    · rintro rfl
      rfl
    · rintro b rfl
      exact hflag _ _ b
  rwa [hgiven, hgiven] at hrecord

theorem Options.plain_toJson {depth : Nat} (o : Options) : Plain (depth + 1) o.toJson :=
  PlainMembers.object
    (.append (.optional "inferJoins" _ _ .bool) (.optional "aliasJoins" _ _ .bool))
    (by decide)

/-- A request is read off each of its texts. -/
theorem Request.reads_reader (q : Request) : Reads Request.reader q.toJson q := by
  obtain ⟨sql, dialect, parsers, options⟩ := q
  have hdialect : Json.Decoder.known Sql.Dialect.names dialect.name = .ok dialect := by
    cases dialect <;> rfl
  have hparsers : Json.Decoder.known ParserChoice.names parsers.name = .ok parsers := by
    cases parsers <;> rfl
  have hgiven : (options.map some).getD none = options := by
    cases options <;> rfl
  let final : Request.Partial := ⟨some sql, some dialect, some parsers, options.map some⟩
  have hrecord : Reads Request.reader (Request.toJson ⟨sql, dialect, parsers, options⟩)
      ⟨final.sql.getD "", final.dialect.getD .generic, final.parsers.getD .auto,
        final.options.getD none⟩ := by
    refine Reads.map (Reader.reads_record "GraphRequest" (.append
      (.cons ⟨some sql, none, none, none⟩ rfl rfl ?_
        (.cons ⟨some sql, some dialect, none, none⟩ rfl rfl ?_
          (.cons ⟨some sql, some dialect, some parsers, none⟩ rfl rfl ?_ (.nil _))))
      (.optional _ rfl rfl ?_ ?_)) rfl) _
    · exact (Reader.reads_stringCalled "a string" sql).map _
    · exact (Reader.reads_oneOf hdialect).map _
    · exact (Reader.reads_oneOf hparsers).map _
    · rintro rfl
      rfl
    · rintro o rfl
      exact (Reader.reads_orNull o.reads_reader (by simp [Options.toJson])).map _
  rwa [hgiven] at hrecord

theorem Request.plain_toJson (q : Request) : Plain 2 q.toJson :=
  PlainMembers.object
    (.append
      (.cons "sql" (.string _) (.cons "dialect" (.string _) (.cons "parser" (.string _) .nil)))
      (.optional "options" _ _ Options.plain_toJson))
    (by decide)

/-! ## Answers -/

/-- An error is no result. -/
theorem decode_errorJson (message : String) :
    Result.decode (errorJson message) = .error (.missingMember "graph") := rfl

theorem errorJson_ne_toJson (message : String) (r : Result) : errorJson message ≠ r.toJson := by
  simp [errorJson, Result.toJson]

theorem plain_errorJson {depth : Nat} (message : String) : Plain (depth + 1) (errorJson message) :=
  PlainMembers.object (.cons "error" (.string message) .nil) (by decide)

/-- The written form of a request is answered as the request is. -/
theorem answerRequest_of_hasText {q : Request} {s : String} (h : q.toJson.HasText s) :
    Request.read s = .ok q ∧ (∀ r, q.generate = .ok r → answerRequest s = r.toJson) ∧
      ∀ fault, q.generate = .error fault → answerRequest s = errorJson fault.message := by
  have hread : Request.read s = .ok q := Reader.run_of_hasText q.reads_reader h
  refine ⟨hread, fun r hr => ?_, fun fault hfault => ?_⟩
  · simp only [answerRequest, hread, hr]
  · simp only [answerRequest, hread, hfault]

/-- The two texts of a result, compact and indented, are texts of its written form. -/
theorem hasText_render (r : Result) (isCompact : Bool) :
    r.toJson.HasText (r.render (.json isCompact)) := by
  cases isCompact with
  | true => exact Json.hasText_compact r.plain_toJson
  | false => exact Json.hasText_pretty r.plain_toJson

/-- Nothing is lost in JSON.  A result is read back from both texts it is written as.  A request
is read back from all its texts, in particular the two it may be written as, and from the text of
the answer one reads its result, or the wording of its fault, exactly as it has the one or the
other. -/
theorem results_of_texts :
    (∀ (r : Result) (isCompact : Bool), r.toJson.HasText (r.render (.json isCompact)) ∧
        ∃ v, Json.read (r.render (.json isCompact)) = .ok v ∧ Result.decode v = .ok r) ∧
      (∀ q : Request, q.toJson.HasText q.toJson.compact ∧ q.toJson.HasText q.toJson.pretty) ∧
      ∀ (q : Request) (s : String), q.toJson.HasText s → Request.read s = .ok q ∧
        ∃ v, Json.read (answerRequest s).compact = .ok v ∧
          (∀ r, Result.decode v = .ok r ↔ q.generate = .ok r) ∧
          ∀ message, v = errorJson message ↔
            ∃ fault, q.generate = .error fault ∧ fault.message = message := by
  have hread : ∀ {v : Json} {s : String}, Plain 5 v → v.HasText s → Json.read s = .ok v :=
    fun hplain htext => Json.read_of_hasText hplain (by decide) htext
  have hcompact : ∀ {v : Json}, Plain 5 v → Json.read v.compact = .ok v := fun hplain =>
    hread hplain (Json.hasText_compact hplain)
  refine ⟨fun r isCompact => ?_, fun q => ?_, fun q s hs => ?_⟩
  · have htext := hasText_render r isCompact
    exact ⟨htext, r.toJson, hread r.plain_toJson htext, r.decode_toJson⟩
  · exact ⟨Json.hasText_compact q.plain_toJson, Json.hasText_pretty q.plain_toJson⟩
  · obtain ⟨hrequest, hresult, herror⟩ := answerRequest_of_hasText hs
    refine ⟨hrequest, answerRequest s, ?_⟩
    cases hg : q.generate with
    | ok r =>
        rw [hresult r hg]
        exact ⟨hcompact r.plain_toJson, by simp [r.decode_toJson],
          fun message => by simp [(errorJson_ne_toJson message r).symm]⟩
    | error fault =>
        rw [herror fault hg]
        refine ⟨hcompact (plain_errorJson _), by simp [decode_errorJson], fun message => ?_⟩
        constructor
        · intro h
          exact ⟨fault, rfl, by simpa [errorJson] using h⟩
        · rintro ⟨fault', hfault, rfl⟩
          rw [Except.error.inj hfault]

/-- A request for a blank text. -/
def blankRequest : Request := ⟨" \n", .mysql, .auto, some ⟨some false, none⟩⟩

/-- A request for a text with one table. -/
def tableRequest : Request := ⟨"SELECT \"name\" FROM users", .sqlite, .patternsOnly, none⟩

/-- The indented text of the one request is answered by an error, the compact text of the other
one by a result. -/
theorem results_of_texts_answered :
    (blankRequest.toJson.HasText blankRequest.toJson.pretty ∧
        Json.read (answerRequest blankRequest.toJson.pretty).compact =
          .ok (errorJson "SQL input is empty")) ∧
      tableRequest.toJson.HasText tableRequest.toJson.compact ∧
        ∃ v r, Json.read (answerRequest tableRequest.toJson.compact).compact = .ok v ∧
          Result.decode v = .ok r ∧ r.statement.tables = [⟨"users", none⟩] := by
  obtain ⟨-, htexts, hanswers⟩ := results_of_texts
  have hpretty := (htexts blankRequest).2
  have hcompact := (htexts tableRequest).1
  obtain ⟨-, v, hv, -, herror⟩ := hanswers blankRequest _ hpretty
  obtain ⟨-, w, hw, hresult, -⟩ := hanswers tableRequest _ hcompact
  have hblank : Text.nonBlank? blankRequest.sql = none := by decide +kernel
  have hfault : blankRequest.generate = .error .empty := by
    rw [Request.generate, Parsers.generate, hblank]
  have hsome : Text.nonBlank? tableRequest.sql = some tableRequest.sql := by decide +kernel
  have hok : tableRequest.generate =
      .ok (let read := Parsers.patternsOnly.statement tableRequest.sql
        ⟨read.1.graph .default, read.1, read.2⟩) := by
    rw [Request.generate, Parsers.generate, hsome]
    rfl
  rw [hv, (herror "SQL input is empty").2 ⟨.empty, hfault, rfl⟩]
  exact ⟨⟨hpretty, rfl⟩, hcompact, w, _, hw, (hresult _).2 hok, by decide +kernel⟩

end JoinGraph
