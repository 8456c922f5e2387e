import JoinGraph.Json.Fault

/-!
# Typed values in JSON

A `Decoder` turns a JSON value into a value of a type, or tells the mismatch. Records are
described by their `Fields`: a record is an object with named members, of which unknown ones are
ignored, or an array of its fields in their order.

A record may be wrong in several ways at once. The mismatch that comes first in the value is told; a
missing member comes after all others, since it is only noticed at the end.
-/

namespace JoinGraph.Json

/-- Reads a value of a type. -/
abbrev Decoder (α : Type) := Json → Except Mismatch α

namespace Decoder

/-- A string. -/
def text : Decoder String
  | string s => .ok s
  | v => .error (.wrongType (describe v) "a string")

/-- A truth value. -/
def flag : Decoder Bool
  | bool b => .ok b
  | v => .error (.wrongType (describe v) "a boolean")

/-- Any value. -/
def any : Decoder Json := .ok

/-- A value that may be null. -/
def orNull {α : Type} (decoder : Decoder α) : Decoder (Option α)
  | null => .ok none
  | v => some <$> decoder v

/-- Decodes items in order, up to the first mismatch. -/
def each {α : Type} (decoder : Decoder α) : List Json → Except Mismatch (List α)
  | [] => .ok []
  | item :: rest =>
    match decoder item with
    | .error m => .error m
    | .ok a => (a :: ·) <$> each decoder rest

/-- An array of values. -/
def listOf {α : Type} (decoder : Decoder α) : Decoder (List α)
  | array items => each decoder items
  | v => .error (.wrongType (describe v) "a sequence")

/-- An object whose members are the entries of a table. -/
def tableOf {α : Type} (decoder : Decoder α) : Decoder (List (String × α))
  | object members => entries members
  | v => .error (.wrongType (describe v) "a map")
where
  /-- Decodes entries in order, up to the first mismatch. -/
  entries : List (String × Json) → Except Mismatch (List (String × α))
    | [] => .ok []
    | (name, v) :: rest =>
      match decoder v with
      | .error m => .error m
      | .ok a => ((name, a) :: ·) <$> entries rest

/-- Finds the meaning of a name in an enumeration. -/
def known {α : Type} (names : List (String × α)) (name : String) : Except Mismatch α :=
  match names.find? (·.1 == name) with
  | some entry => .ok entry.2
  | none => .error (.unknownName name (names.map (·.1)))

/-- A name of an enumeration: a string, or an object with the name as its only member, and null. -/
def oneOf {α : Type} (names : List (String × α)) : Decoder α
  | string name => known names name
  | object [(name, v)] =>
    match known names name, v with
    | .error m, _ => .error m
    | .ok a, null => .ok a
    | .ok _, other => .error (.wrongType (describe other) "unit")
  | object _ => .error .notSingle
  | v => .error (.wrongType (describe v) "string or map")

end Decoder

/-! ## Records -/

/-- Where the fields of a record are taken from. -/
inductive RecordSource where
  | members (list : List (String × Json))
  | items (list : List Json)

/-- What is wrong with a field, and how early in the record it is noticed. -/
inductive FieldFault where
  | mismatch (rank : Nat) (m : Mismatch)
  | tooShort (length : Nat)

/-- How early a fault is noticed. -/
def FieldFault.rank : FieldFault → Nat
  | mismatch rank _ => rank
  | tooShort length => length

/-- Some consecutive fields of a record: how many, and how to read them from the given one on. -/
structure Fields (α : Type) where
  arity : Nat
  read : RecordSource → (index : Nat) → Except FieldFault α

namespace Fields

/-- No field. -/
def none {α : Type} (a : α) : Fields α := ⟨0, fun _ _ => .ok a⟩

/-- Both of two runs of fields; of two faults the earlier one is kept. -/
def andThen {α β γ : Type} (f : α → β → γ) (first : Fields α) (second : Fields β) : Fields γ where
  arity := first.arity + second.arity
  read source index :=
    match first.read source index, second.read source (index + first.arity) with
    | .ok a, .ok b => .ok (f a b)
    | .error e, .ok _ => .error e
    | .ok _, .error e => .error e
    | .error e, .error e' => .error (if e'.rank < e.rank then e' else e)

instance : Functor Fields where
  map f fields := ⟨fields.arity, fun source index => f <$> fields.read source index⟩

instance : Seq Fields where
  seq f fields := andThen (fun g a => g a) f (fields ())

/-- A field called `name`, decoded if it is there. -/
def present {α : Type} (name : String) (decoder : Decoder α) (source : RecordSource) (index : Nat) :
    Except FieldFault (Option α) :=
  let decoded (rank : Nat) (v : Json) : Except FieldFault (Option α) :=
    match decoder v with
    | .ok a => .ok (some a)
    | .error m => .error (.mismatch rank m)
  match source with
  | .members list =>
    match find? name list with
    | some v => decoded (list.findIdx (·.1 == name)) v
    | Option.none => .ok Option.none
  | .items list =>
    match list[index]? with
    | some v => decoded index v
    | Option.none => .ok Option.none

/-- A field that has to be there. -/
def required {α : Type} (name : String) (decoder : Decoder α) : Fields α where
  arity := 1
  read source index := do
    match ← present name decoder source index with
    | some a => return a
    | Option.none =>
      match source with
      | .members list => throw (.mismatch (list.length + index) (.missingMember name))
      | .items _ => throw (.tooShort index)

/-- A field with a value that holds if it is not there. -/
def withDefault {α : Type} (name : String) (default : α) (decoder : Decoder α) : Fields α where
  arity := 1
  read source index := do return (← present name decoder source index).getD default

/-- A field that may be missing or null. -/
def optional {α : Type} (name : String) (decoder : Decoder α) : Fields (Option α) :=
  withDefault name Option.none (Decoder.orNull decoder)

/-- The mismatch of a whole record. -/
def fault {α : Type} (type : String) (fields : Fields α) : FieldFault → Mismatch
  | .mismatch _ m => m
  | .tooShort length => .wrongLength length ("struct " ++ elementCount type fields.arity)

/-- Reads the fields from the members of an object. -/
def ofMembers {α : Type} (type : String) (fields : Fields α) (members : List (String × Json)) :
    Except Mismatch α :=
  (fields.read (.members members) 0).mapError (fault type fields)

/-- Reads the fields from the items of an array, which has no more. -/
def ofItems {α : Type} (type : String) (fields : Fields α) (items : List Json) :
    Except Mismatch α :=
  match (fields.read (.items items) 0).mapError (fault type fields) with
  | .error m => .error m
  | .ok a =>
    if fields.arity < items.length then
      .error (.wrongLength items.length "fewer elements in array")
    else .ok a

end Fields

/-- A record of the given fields. -/
def Decoder.record {α : Type} (type : String) (fields : Fields α) : Decoder α
  | object members => fields.ofMembers type members
  | array items => fields.ofItems type items
  | v => .error (.wrongType (describe v) ("struct " ++ type))

end JoinGraph.Json
