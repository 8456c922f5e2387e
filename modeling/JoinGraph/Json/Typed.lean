import JoinGraph.Json.Reader
import JoinGraph.Json.Decoding
import JoinGraph.Json.Skim

/-!
# Typed values in JSON text

Reading a value of a known type straight from a text. Unlike decoding a value that was read
before, this meets faults in the order of the text, and each fault has a place.
-/

namespace JoinGraph.Json.Reader

/-! ## Scalars -/

/-- The number ahead is not what was expected. -/
def refuseNumber {α : Type} (isNegative : Bool) (expected : String) : Reader α := do
  let n ← unsignedNumber isNegative
  fail (.mismatch (.wrongType (showNumber n) expected))

/-- Fails because the value ahead is not what was expected. Scalars are read to name them. -/
def refuse {α : Type} (expected : String) : Reader α := do
  let wrong (found : String) : Reader α := fail (.mismatch (.wrongType found expected))
  match ← ahead with
  | some 'n' => skip; word ['u', 'l', 'l']; wrong (describe .null)
  | some 't' => skip; word ['r', 'u', 'e']; wrong (describe (.bool true))
  | some 'f' => skip; word ['a', 'l', 's', 'e']; wrong (describe (.bool false))
  | some '-' => skip; refuseNumber true expected
  | some '"' => skip; wrong (showString (← string))
  | some '[' => wrong (describe (.array []))
  | some '{' => wrong (describe (.object []))
  | some c => if '0' ≤ c && c ≤ '9' then refuseNumber false expected else failAhead .valueExpected
  | none => failAhead .valueExpected

/-- A string, called `expected` when something else is there. -/
def stringCalled (expected : String) : Reader String := do
  match ← skipSpace with
  | none => fail .endInValue
  | some '"' => skip; string
  | some _ => refuse expected

/-- A truth value. -/
def flag : Reader Bool := do
  match ← skipSpace with
  | none => fail .endInValue
  | some 't' => skip; word ['r', 'u', 'e']; return true
  | some 'f' => skip; word ['a', 'l', 's', 'e']; return false
  | some _ => refuse "a boolean"

/-- A value that may be null. -/
def orNull {α : Type} (reader : Reader α) : Reader (Option α) := do
  match ← skipSpace with
  | some 'n' => skip; word ['u', 'l', 'l']; return none
  | _ => return some (← reader)

/-- A name of an enumeration, as a string. -/
def variant {α : Type} (names : List (String × α)) : Reader α := do
  match Decoder.known names (← stringCalled "variant identifier") with
  | .ok a => return a
  | .error m => fail (.mismatch m)

/-- A name of an enumeration: a string, or an object with the name as its member, and null. -/
def oneOf {α : Type} (names : List (String × α)) : Reader α := do
  match ← skipSpace with
  | none => fail .endInValue
  | some '"' => variant names
  | some '{' =>
    skip
    let a ← variant names
    colon
    match ← skipSpace with
    | some 'n' => skip; word ['u', 'l', 'l']
    | some _ => refuse "unit"
    | none => fail .endInValue
    match ← skipSpace with
    | some '}' => skip; return a
    | some _ => fail .valueExpected
    | none => fail .endInObject
  | some _ => failAhead .valueExpected

/-! ## Records -/

/-- A field of a record that is collected in a `σ`. -/
structure TextField (σ : Type) where
  name : String
  isRequired : Bool
  isSet : σ → Bool
  read : σ → Reader σ

/-- Fails because of the members of an object, at its brace if nothing else follows. -/
def refuseMembers {α : Type} (m : Mismatch) : Reader α := do
  if (← skipSpace) = some '}' then skip
  fail (.mismatch m)

/-- Reads members into a record; unknown names are passed over. -/
def recordMembers {σ : Type} (fields : List (TextField σ)) :
    (fuel : Nat) → (first : Bool) → σ → Reader σ
  | 0, _, _ => fail .endInObject
  | fuel + 1, first, state => do
    match ← nextName first with
    | none =>
      match fields.find? fun f => f.isRequired && !f.isSet state with
      | some f => refuseMembers (.missingMember f.name)
      | none => skip; return state
    | some name =>
      match fields.find? (·.name == name) with
      | none => colon; skim; recordMembers fields fuel false state
      | some f =>
        if f.isSet state then refuseMembers (.repeatedMember name)
        else colon; recordMembers fields fuel false (← f.read state)

/-- Reads items into the fields of a record in their order. -/
def recordItems {σ : Type} (type : String) (arity : Nat) :
    (index : Nat) → (first : Bool) → List (TextField σ) → σ → Reader σ
  | _, _, [], state => do arrayEnd; return state
  | index, first, f :: rest, state => do
    if ← nextItem first then recordItems type arity (index + 1) false rest (← f.read state)
    else if f.isRequired then
      skip
      fail (.mismatch (.wrongLength index ("struct " ++ elementCount type arity)))
    else recordItems type arity (index + 1) first rest state

/-- Reads a record from an object, or from an array of its fields. -/
def record {σ : Type} (type : String) (fields : List (TextField σ)) (start : σ) : Reader σ := do
  match ← skipSpace with
  | none => fail .endInValue
  | some '{' => skip; recordMembers fields ((← get).rest.length + 1) true start
  | some '[' => skip; recordItems type fields.length 0 true fields start
  | some _ => refuse ("struct " ++ type)

end JoinGraph.Json.Reader
