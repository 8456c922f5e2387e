import JoinGraph.CommandLine.Run
import JoinGraph.Proofs.Files
import JoinGraph.Proofs.Painted
import JoinGraph.Proofs.Sessions

/-!
# How runs end

A run reads a text, draws it, and delivers what was drawn.  Only the first and the last of these
can fail: a text that is not blank has a graph that shows something, in whatever form it is asked
for.  So a run that writes to a file ends with one of two codes, and it changes no file but this
one.  A run that prints may find that its output does not take all of the text, which is a fault
of its own.

## Main results

* `Arguments.shows_iff` — what a run delivers: the result for its text, in the form that is asked
  for.
* `Arguments.answer_cases` — only an input that is no text, or a blank one, has no answer.
* `Arguments.outcome_run` — the ways in which a run can end.
* `ending_of_run` — the code of a run, what it prints, and what it writes.
* `run_of_no_output` — a run that only prints leaves its directory as it is.
-/

namespace JoinGraph.CommandLine

open Render (Painted)

namespace Arguments

/-! ## Answers -/

/-- The text from which a run draws. -/
def Reads (a : Arguments) (s : Surroundings) (text : String) : Prop :=
  match a.origin with
  | .builtIn => text = exampleStatement
  | .standardInput => s.input = .ok text.toUTF8
  | .file path => s.read path = .ok text.toUTF8

theorem reads_iff (a : Arguments) (s : Surroundings) (text : String) :
    a.Reads s text ↔ (a.input s).bind textOfBytes = .ok text := by
  have hbytes : ∀ input : Except FileFault ByteArray,
      input = .ok text.toUTF8 ↔ input.bind textOfBytes = .ok text := by
    intro input
    simp only [bind_eq_ok_iff, textOfBytes_eq_ok_iff]
    exact ⟨fun h => ⟨_, h, rfl⟩, fun ⟨_, hinput, hbytes⟩ => hbytes ▸ hinput⟩
  unfold Reads input
  cases a.origin with
  | builtIn =>
      -- what the sample says does not matter, and it is long
      generalize exampleStatement = sample
      have hread := (textOfBytes_eq_ok_iff _ sample).2 rfl
      simp only [Except.bind, hread, Except.ok.injEq, eq_comm]
  | standardInput => exact hbytes s.input
  | file path => exact hbytes (s.read path)

/-- There is nothing to draw: the input is no text, or a blank one. -/
def NoStatement (a : Arguments) (s : Surroundings) : Prop :=
  (¬ ∃ text, a.Reads s text) ∨ ∃ text, a.Reads s text ∧ Text.isBlankText text = true

/-- The run has this text to deliver, which does not tell of a fault. -/
def Shows (a : Arguments) (s : Surroundings) (text : String) : Prop :=
  a.answer s.outlet.isTerminal (a.input s) = .ok ⟨text, false⟩

variable {a : Arguments} {s : Surroundings} {text : String}

/-- There is one text at most. -/
theorem noStatement_iff_of_reads {sql : String} (h : a.Reads s sql) :
    a.NoStatement s ↔ Text.isBlankText sql = true := by
  constructor
  · rintro (hnone | ⟨text, htext, hblank⟩)
    · exact absurd ⟨sql, h⟩ hnone
    · rw [reads_iff] at h htext
      obtain rfl := Except.ok.inj (h.symm.trans htext)
      exact hblank
  · intro hblank
    exact .inr ⟨sql, h, hblank⟩

theorem Shows.unique (h : a.Shows s text) {other : String} (hother : a.Shows s other) :
    text = other := by
  have hsame := Except.ok.inj (h.symm.trans hother)
  exact congrArg Rendering.text hsame

/-- What a run delivers is the result for its text, in the form that is asked for. -/
theorem shows_iff : a.Shows s text ↔ ∃ sql r, a.Reads s sql ∧ (a.request sql).generate = .ok r ∧
    r.graph.isDiagnostic = false ∧ text = r.render a.format (a.isColored s.outlet.isTerminal) := by
  unfold Shows answer
  constructor
  · intro h
    cases hsql : (a.input s).bind textOfBytes with
    | error fault => simp [hsql] at h
    | ok sql =>
        simp only [hsql, rendering] at h
        cases hr : (a.request sql).generate with
        | error fault => simp [hr] at h
        | ok r =>
            simp only [hr, Except.ok.injEq, Rendering.mk.injEq] at h
            exact ⟨sql, r, (a.reads_iff s sql).2 hsql, hr, h.2, h.1.symm⟩
  · rintro ⟨sql, r, hsql, hr, hdiagnostic, rfl⟩
    rw [(a.reads_iff s sql).1 hsql]
    simp only [rendering, hr, hdiagnostic]

/-- Only a run with nothing to draw has no answer, and the graph of an answer tells no fault. -/
theorem answer_cases (a : Arguments) (s : Surroundings) :
    (a.NoStatement s ∧ ∃ fault, a.answer s.outlet.isTerminal (a.input s) = .error fault) ∨
      (¬ a.NoStatement s ∧ ∃ text, a.Shows s text) := by
  cases htext : (a.input s).bind textOfBytes with
  | error fault =>
      refine .inl ⟨.inl ?_, a.origin.fault fault, by rw [answer, htext]⟩
      rintro ⟨text, hreads⟩
      rw [reads_iff, htext] at hreads
      cases hreads
  | ok sql =>
      have hreads := (a.reads_iff s sql).2 htext
      have hgenerate : (a.request sql).generate =
          (a.request sql).allParsers.generate (a.request sql).options sql := rfl
      rw [noStatement_iff_of_reads hreads]
      cases hblank : Text.isBlankText sql with
      | true =>
          refine .inl ⟨rfl, .noGraph .empty, ?_⟩
          rw [answer, htext]
          simp only [rendering, hgenerate, Parsers.generate_of_blank _ _ hblank]
      | false =>
          obtain ⟨r, hr, hdiagnostic, -⟩ :=
            Parsers.exists_generate (a.request sql).allParsers (a.request sql).options hblank
          exact .inr ⟨Bool.false_ne_true,
            _, shows_iff.2 ⟨sql, r, hreads, hgenerate.trans hr, hdiagnostic, rfl⟩⟩

/-- There is a file to write to, but its path leads to no file, or there is no room for the text. -/
def Unwritable (a : Arguments) (s : Surroundings) : Prop :=
  ∃ path text, a.output? = some path ∧ a.Shows s text ∧ ¬ s.Takes path text.toUTF8.size

/-- The text is to be printed, but the output does not take what is sent of it. -/
def Unprintable (a : Arguments) (s : Surroundings) : Prop :=
  a.output? = none ∧ ∃ text, a.Shows s text ∧ ¬ Limit.Allows s.outlet.limit? (sentAtOnce text)

/-- The text is to be printed, and the output takes what is sent of it, but not the end of its
last line. -/
def Unfinished (a : Arguments) (s : Surroundings) : Prop :=
  a.output? = none ∧ ∃ text, a.Shows s text ∧ Limit.Allows s.outlet.limit? (sentAtOnce text) ∧
    ¬ Limit.Allows s.outlet.limit? (endLine text).utf8ByteSize

/-- How a run can end, and which files there are then. -/
inductive Outcome (a : Arguments) (s : Surroundings) : Ending × Directory → Prop where
  | noStatement (fault : RunFault) (nothing : a.NoStatement s) :
      Outcome a s (.ofFault fault, s.files)
  | printed {text : String} (shows : a.Shows s text) (output : a.output? = none)
      (sent : Limit.Allows s.outlet.limit? (sentAtOnce text))
      (ended : Limit.Allows s.outlet.limit? (endLine text).utf8ByteSize) :
      Outcome a s (.done (endLine text), s.files)
  | unprintable (fault : RunFault) (front : String) (refused : a.Unprintable s) :
      Outcome a s ({ Ending.ofFault fault with output := front }, s.files)
  | unfinished (fault : FileFault) (front : String) (refused : a.Unfinished s) :
      Outcome a s (.brokenOff front fault, s.files)
  | written {text path : String} {file : Path} (shows : a.Shows s text)
      (output : a.output? = some path) (leads : s.Leads path file)
      (room : Limit.Allows (s.limit? file) text.toUTF8.size) :
      Outcome a s (.done "", s.files.put file text.toUTF8)
  | unwritable {path : String} (fault : RunFault) (contents : ByteArray)
      (output : a.output? = some path) (refused : a.Unwritable s) :
      Outcome a s (.ofFault fault, (s.write path contents).2)

variable {result : Ending × Directory}

theorem run_of_shows (hshows : a.Shows s text) (houtput : a.output? = none) :
    a.run s = (a.print ⟨text, false⟩ s.outlet, s.files) := by
  unfold run
  rw [show a.answer s.outlet.isTerminal (a.input s) = .ok ⟨text, false⟩ from hshows, houtput]

theorem run_of_write {path : String} {fault? : Option FileFault} {after : Directory}
    (hshows : a.Shows s text) (houtput : a.output? = some path)
    (hwrite : s.write path text.toUTF8 = (fault?, after)) : a.run s = match fault? with
      | none => (.done "", after)
      | some fault => (.ofFault (.unwritable path fault), after) := by
  unfold run
  rw [show a.answer s.outlet.isTerminal (a.input s) = .ok ⟨text, false⟩ from hshows, houtput]
  simp only [hwrite]
  cases fault? <;> rfl

theorem print_of_allows {outlet : Outlet} (hsent : Limit.Allows outlet.limit? (sentAtOnce text))
    (hended : Limit.Allows outlet.limit? (endLine text).utf8ByteSize) :
    a.print ⟨text, false⟩ outlet = .done (endLine text) := by
  unfold print
  rw [(Limit.exceeded?_eq_none_iff _ _).2 hsent, (Limit.exceeded?_eq_none_iff _ _).2 hended]
  rfl

/-- A run that prints ends in one of three ways. -/
theorem outcome_print (hshows : a.Shows s text) (houtput : a.output? = none) :
    a.Outcome s (a.print ⟨text, false⟩ s.outlet, s.files) := by
  cases hsent : Limit.exceeded? s.outlet.limit? (sentAtOnce text) with
  | some limit =>
      have hrefused := Limit.not_allows_of_exceeded? hsent
      have hprint : a.print ⟨text, false⟩ s.outlet =
          { Ending.ofFault (.unprintable limit.fault) with
            output := String.ofList (fitting limit.room text.toList) } := by rw [print, hsent]
      rw [hprint]
      exact .unprintable _ _ ⟨houtput, text, hshows, hrefused⟩
  | none =>
      have htaken := (Limit.exceeded?_eq_none_iff _ _).1 hsent
      cases hended : Limit.exceeded? s.outlet.limit? (endLine text).utf8ByteSize with
      | some limit =>
          have hrefused := Limit.not_allows_of_exceeded? hended
          have hprint : a.print ⟨text, false⟩ s.outlet =
              .brokenOff (String.ofList (fitting limit.room text.toList)) limit.fault := by
            rw [print, hsent, hended]
          rw [hprint]
          exact .unfinished _ _ ⟨houtput, text, hshows, htaken, hrefused⟩
      | none =>
          have hroom := (Limit.exceeded?_eq_none_iff _ _).1 hended
          rw [print_of_allows htaken hroom]
          exact .printed hshows houtput htaken hroom

/-- Every run ends in one of these ways. -/
theorem outcome_run (a : Arguments) (s : Surroundings) : a.Outcome s (a.run s) := by
  rcases a.answer_cases s with ⟨hnone, fault, hanswer⟩ | ⟨-, text, hshows⟩
  · have hrun : a.run s = (.ofFault fault, s.files) := by rw [run, hanswer]
    rw [hrun]
    exact .noStatement fault hnone
  cases houtput : a.output? with
  | none =>
      rw [run_of_shows hshows houtput]
      exact outcome_print hshows houtput
  | some path =>
      cases hwrite : s.write path text.toUTF8 with
      | mk fault? after =>
          rw [run_of_write hshows houtput hwrite]
          cases fault? with
          | none =>
              obtain ⟨file, hfile, hroom⟩ := Surroundings.write_fst_eq_none_iff.1
                (congrArg Prod.fst hwrite)
              obtain rfl :=
                congrArg Prod.snd ((Surroundings.write_eq hfile hroom).symm.trans hwrite)
              exact .written hshows houtput hfile hroom
          | some fault =>
              have hrefused : ¬ s.Takes path text.toUTF8.size := by
                rw [← Surroundings.write_fst_eq_none_iff, hwrite]
                simp
              obtain rfl := congrArg Prod.snd hwrite
              exact .unwritable _ _ houtput ⟨path, text, houtput, hshows, hrefused⟩

/-- A run without a file to write to leaves the files as they are. -/
theorem Outcome.of_no_output (h : a.Outcome s result) (hnone : a.output? = none) :
    result.2 = s.files := by
  cases h with
  | noStatement => rfl
  | printed => rfl
  | unprintable => rfl
  | unfinished => rfl
  | written _ houtput => simp [houtput] at hnone
  | unwritable _ _ houtput => simp [houtput] at hnone

end Arguments

/-- A run on a terminal in a directory that has only a link to an empty one. -/
def linked : Surroundings where
  files := ⟨[(["home", "query.sql"], "SELECT a FROM t".toUTF8)]⟩
  folders := [["home"], ["home", "work"], ["empty"]]
  links := [(["home", "work", "out"], "../../empty")]
  home := ["home", "work"]
  forbids? := fun _ _ => none
  limit? := fun _ => none
  input := .ok " ".toUTF8
  outlet := ⟨true, none⟩

/-- In a directory and nothing else, a run without a file to write to leaves the directory as it
is. -/
theorem run_of_no_output {words : List String} {a : Arguments}
    (hread : Arguments.read words = .ok a)
    (hnone : a.output? = none) (standardInput : ByteArray) (d : Directory) :
    (run words standardInput d).2 = d := by
  have hafter : (runIn words (.ofDirectory d standardInput)).2 =
      d.under Surroundings.workplace := by
    rw [runIn, hread]
    exact (a.outcome_run _).of_no_output hnone
  exact (congrArg (Directory.below · _) hafter).trans (d.below_under _)

end JoinGraph.CommandLine
