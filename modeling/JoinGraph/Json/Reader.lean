import JoinGraph.Json.Cursor

/-!
# Reading JSON values

`Json.read` reads a text that holds one value. Arrays and objects may be nested to a depth of 127.
Where an object names a member twice, the later value stands in the earlier place.
-/

namespace JoinGraph.Json

namespace Reader

/-- The items of an array, up to its bracket. `fuel` bounds their number. -/
def items (item : Reader Json) : (fuel : Nat) → (first : Bool) → Reader (List Json)
  | 0, _ => fail .endInArray
  | fuel + 1, first => do
    if ← nextItem first then
      let value ← item
      return value :: (← items item fuel false)
    else return []

/-- The members of an object, up to its brace, added to those before. `fuel` bounds their number. -/
def members (item : Reader Json) :
    (fuel : Nat) → (first : Bool) → List (String × Json) → Reader (List (String × Json))
  | 0, _, _ => fail .endInObject
  | fuel + 1, first, before => do
    match ← nextName first with
    | none => return before
    | some name =>
      colon
      let value ← item
      members item fuel false (setMember name value before)

/-- Reads a value. `room` is how many brackets may still be opened, and one more. -/
def value : (room : Nat) → Reader Json
  | 0 => fail .tooDeep
  | room + 1 => do
    match ← skipSpace with
    | none => fail .endInValue
    | some 'n' => skip; word ['u', 'l', 'l']; return .null
    | some 't' => skip; word ['r', 'u', 'e']; return .bool true
    | some 'f' => skip; word ['a', 'l', 's', 'e']; return .bool false
    | some '-' => skip; return .number (← unsignedNumber true)
    | some '"' => skip; return .string (← string)
    | some '[' =>
      if room = 0 then failAhead .tooDeep
      else
        skip
        let taken ← items (value room) ((← get).rest.length + 1) true
        skip
        return .array taken
    | some '{' =>
      if room = 0 then failAhead .tooDeep
      else
        skip
        let taken ← members (value room) ((← get).rest.length + 1) true []
        skip
        return .object taken
    | some c =>
      if '0' ≤ c && c ≤ '9' then return .number (← unsignedNumber false)
      else failAhead .valueExpected

end Reader

/-- How many brackets may be open at once, and one more. -/
def maxDepth : Nat := 128

/-- Runs a reader on a whole text. -/
def Reader.run {α : Type} (reader : Reader α) (text : String) : Except ReadError α :=
  match (do let a ← reader; Reader.textEnd; return a : Reader α) (Cursor.start text) with
  | .ok (a, _) => .ok a
  | .error e => .error e

/-- The value that a text holds. -/
def read (text : String) : Except ReadError Json := (Reader.value maxDepth).run text

end JoinGraph.Json
