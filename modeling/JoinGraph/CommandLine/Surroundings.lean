import JoinGraph.CommandLine.Directory

/-!
# Surroundings

What a run finds when it starts: all files of the system and the ways to them, the directory it
starts in, its input, and the place where it prints.  A path is read from the root if it starts
with a slash, and else from the directory of the run; it may lead through any directories and
links.

The system may refuse to open what is there, and it may have no room for all that is written or
printed. Why it does so is not modelled: `forbids?` and the limits are any functions of the place.
-/

namespace JoinGraph.CommandLine

/-! ## Limits -/

/-- How many bytes there is room for, and the fault that more of them meet. -/
structure Limit where
  room : Nat
  fault : FileFault
  deriving DecidableEq, Repr

/-- The limit that so many bytes exceed. -/
def Limit.exceeded? (limit? : Option Limit) (size : Nat) : Option Limit :=
  limit?.filter fun limit => limit.room < size

/-- Where a run prints. -/
structure Outlet where
  /-- somebody reads it as it is printed, and sees colors -/
  isTerminal : Bool
  limit? : Option Limit
  deriving DecidableEq, Repr

/-! ## The system -/

/-- What the system is asked for. -/
inductive Access where
  /-- to look up a name in a directory -/
  | search
  | read
  | write
  deriving DecidableEq, Repr

/-- What a run finds when it starts. -/
structure Surroundings where
  /-- all files, by their paths from the root -/
  files : Directory
  /-- all directories but the root, with the empty ones -/
  folders : List Path
  /-- the texts of the links -/
  links : List (Path × String)
  /-- the directory of the run -/
  home : Path
  /-- the fault with which the system refuses something that is there -/
  forbids? : Access → Path → Option FileFault
  /-- the room for the contents of a file -/
  limit? : Path → Option Limit
  /-- the bytes on the input, if it can be read -/
  input : Except FileFault ByteArray
  outlet : Outlet

namespace Surroundings

/-- Whether there is a directory at a path. -/
def isDirectory (s : Surroundings) (path : Path) : Bool := path.isEmpty || s.folders.contains path

/-- The text of the link at a path. -/
def link? (s : Surroundings) (path : Path) : Option String :=
  (s.links.find? (·.1 == path)).map (·.2)

/-! ## Ways -/

/-- The names in the text of a path. -/
def namesOf (text : String) : List String :=
  ((Text.splitChars '/' text.toList).filter (!·.isEmpty)).map String.ofList

/-- Whether the text of a path ends in a slash, as only that of a directory does. -/
def endsInSlash (text : String) : Bool := text.toList.getLast? == some '/'

/-- The names in the text of a path to something that is there: behind a slash at the end, the
directory itself is looked up once more. -/
def namesThrough (text : String) : List String :=
  namesOf text ++ if endsInSlash text then ["."] else []

/-- Where a path starts that is read from a directory. -/
def startFrom (place : Path) (text : String) : Path :=
  if text.toList.head? = some '/' then [] else place

/-- How many bytes a name has at most. -/
def nameLimit : Nat := 255

/-- How many bytes the text of a path has at most. -/
def textLimit : Nat := 4095

/-- How many links are followed on one way. -/
def linkLimit : Nat := 40

/-- How far one gets without following links. -/
inductive Walk where
  /-- to the end -/
  | arrived (place : Path)
  /-- to a link with this text in a directory, with names behind it -/
  | detour (place : Path) (text : String) (rest : List String)
  deriving DecidableEq, Repr

/-- Goes on from a directory by names, up to the first link.  What the last name names need not be
there. -/
def walk (s : Surroundings) (place : Path) : List String → Except FileFault Walk
  | [] => .ok (.arrived place)
  | name :: rest =>
    if s.isDirectory place then
      match s.forbids? .search place with
      | some fault => .error fault
      | none =>
        if name = "." then s.walk place rest
        else if name = ".." then s.walk place.dropLast rest
        else if nameLimit < name.utf8ByteSize then .error .nameTooLong
        else
          match s.link? (place ++ [name]) with
          | some text => .ok (.detour place text rest)
          | none => s.walk (place ++ [name]) rest
    else .error (if (s.files.find? place).isSome then .notDirectory else .missing)

/-- Goes on from a directory by names, over as many links at most. -/
def arrive (s : Surroundings) (links : Nat) (place : Path) (names : List String) :
    Except FileFault Path :=
  match s.walk place names with
  | .error fault => .error fault
  | .ok (.arrived place) => .ok place
  | .ok (.detour place text rest) =>
    match links with
    | 0 => .error .tooManyLinks
    | links + 1 => s.arrive links (startFrom place text) (namesThrough text ++ rest)

/-- Where the text of a path leads by these names of it. -/
def follow (s : Surroundings) (text : String) (names : List String) : Except FileFault Path :=
  if textLimit < text.utf8ByteSize then .error .nameTooLong
  else s.arrive linkLimit (startFrom s.home text) names

/-! ## Reading and writing -/

/-- Reads a file. -/
def read (s : Surroundings) (text : String) : Except FileFault ByteArray := do
  let place ← s.follow text (namesThrough text)
  if s.isDirectory place then .error ((s.forbids? .read place).getD .isDirectory)
  else
    match s.files.find? place, s.forbids? .read place with
    | none, _ => .error .missing
    | some _, some fault => .error fault
    | some contents, none => .ok contents

/-- The place of the file that a path leads to, to be written. -/
def target (s : Surroundings) (text : String) : Except FileFault Path := do
  let place ← s.follow text (namesOf text)
  if s.isDirectory place || endsInSlash text then .error .isDirectory
  else
    match s.forbids? .write place with
    | some fault => .error fault
    | none => .ok place

/-- Writes a file, up to the room that there is for it.  The fault that is met, if there is one,
and the files after it. -/
def write (s : Surroundings) (text : String) (contents : ByteArray) :
    Option FileFault × Directory :=
  match s.target text with
  | .error fault => (some fault, s.files)
  | .ok place =>
    match Limit.exceeded? (s.limit? place) contents.size with
    | some limit => (some limit.fault, s.files.put place (contents.extract 0 limit.room))
    | none => (none, s.files.put place contents)

/-! ## A directory and nothing else -/

/-- The directories on the way to a path, but for the root. -/
def above (path : Path) : List Path := ((List.range path.length).map path.take).filter (!·.isEmpty)

/-- The directory of a run for which only the files in it matter. -/
def workplace : Path := ["home", "work"]

/-- A system with the files of one directory, in which the run starts.  Another program reads its
output. -/
def ofDirectory (d : Directory) (standardInput : ByteArray) : Surroundings where
  files := d.under workplace
  folders := above workplace ++ workplace ::
    (d.under workplace).files.flatMap fun f => above f.1
  links := []
  home := workplace
  forbids? := fun _ _ => none
  limit? := fun _ => none
  input := .ok standardInput
  outlet := ⟨false, none⟩

end Surroundings

end JoinGraph.CommandLine
