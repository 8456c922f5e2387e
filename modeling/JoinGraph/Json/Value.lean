import JoinGraph.Decimal.Shortest

/-!
# JSON values

A JSON value keeps the order of its members. A number is an integer as long as it fits into 64 bits,
signed or unsigned, and a double otherwise; `-0` is a double too, as no integer is negative zero.
-/

namespace JoinGraph

/-- A JSON number. `negative n` stands for `-n`, with `0 < n`; `double` holds the bits. -/
inductive Json.Number where
  | natural (n : Nat)
  | negative (n : Nat)
  | double (bits : UInt64)
  deriving DecidableEq, Repr, Inhabited

/-- A JSON value. -/
inductive Json where
  | null
  | bool (b : Bool)
  | number (n : Json.Number)
  | string (s : String)
  | array (items : List Json)
  | object (members : List (String × Json))
  deriving Inhabited

namespace Json

/-- Up to sixteen digits before the point and four zeros after it are written out. -/
def numberLayout : Decimal.Layout := ⟨16, 4⟩

/-- The text of a number: integers without a point, doubles always with a point or an exponent. -/
def Number.text : Number → String
  | natural n => String.ofList (Nat.toDigits 10 n)
  | negative n => String.ofList ('-' :: Nat.toDigits 10 n)
  | double bits => (Decimal.Double.ofBits bits).render numberLayout

/-! ## Looking into a value -/

/-- The value of the member `key` in a list of members. -/
def find? (key : String) (members : List (String × Json)) : Option Json :=
  (members.find? (·.1 == key)).map (·.2)

/-- The member `key` of an object; nothing for any other value. -/
def get? (key : String) : Json → Option Json
  | object members => find? key members
  | _ => none

theorem sizeOf_lt_of_find? {key : String} {members : List (String × Json)} {v : Json}
    (h : find? key members = some v) : sizeOf v < sizeOf members := by
  obtain ⟨m, hm, rfl⟩ := Option.map_eq_some_iff.1 h
  have hmem := List.sizeOf_lt_of_mem (List.mem_of_find?_eq_some hm)
  have hsnd : sizeOf m.2 < sizeOf m := by
    rw [show sizeOf m = 1 + sizeOf m.1 + sizeOf m.2 from rfl]
    omega
  omega

/-- A member is smaller than the object it belongs to. -/
theorem sizeOf_lt_of_get? {key : String} {v member : Json} (h : v.get? key = some member) :
    sizeOf member < sizeOf v := by
  cases v with
  | object members =>
    have := sizeOf_lt_of_find? h
    simp only [object.sizeOf_spec]
    omega
  | _ => simp [get?] at h

mutual

/-- How deeply arrays and objects are nested in a value. -/
def depth : Json → Nat
  | array items => depthOfItems items + 1
  | object members => depthOfMembers members + 1
  | _ => 0

/-- The greatest depth of items. -/
def depthOfItems : List Json → Nat
  | [] => 0
  | item :: rest => max (depth item) (depthOfItems rest)

/-- The greatest depth of members. -/
def depthOfMembers : List (String × Json) → Nat
  | [] => 0
  | (_, value) :: rest => max (depth value) (depthOfMembers rest)

end

/-- The text of a string value. -/
def asString? : Json → Option String
  | string s => some s
  | _ => none

/-- Whether a value is an object. -/
def isObject : Json → Bool
  | object _ => true
  | _ => false

/-! ## Building a value -/

/-- A member that is left out where there is no value. -/
def optionalMember {α : Type} (key : String) (encode : α → Json) :
    Option α → List (String × Json)
  | some a => [(key, encode a)]
  | none => []

/-- A value, or null where there is none. -/
def orNull {α : Type} (encode : α → Json) : Option α → Json
  | some a => encode a
  | none => null

/-- Sets the member `key`, in its old place if it has one and at the end otherwise. -/
def setMember (key : String) (value : Json) : List (String × Json) → List (String × Json)
  | [] => [(key, value)]
  | (k, v) :: rest =>
    if k = key then (key, value) :: rest else (k, v) :: setMember key value rest

theorem find?_setMember (key : String) (value : Json) (members : List (String × Json)) :
    find? key (setMember key value members) = some value := by
  induction members with
  | nil => simp [setMember, find?]
  | cons m rest ih =>
    by_cases h : m.1 = key
    · simp [setMember, h, find?]
    · simpa [setMember, h, find?] using ih

end Json

end JoinGraph
