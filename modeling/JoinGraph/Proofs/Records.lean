import JoinGraph.Json.Decoding

/-!
# Records that are read back

A record is written as an object, in which absent parts are left out or null.  `Fields.Reads` says
what the fields of a record make of the members of an object.  It is composed like the fields are,
so that reading a record comes down to finding its members one by one.

Null is the one value that does not come back everywhere: a field that may be missing takes a null
for nothing, also where any value would do (`reads_optional_any`).

## Main results

* `Fields.reads_seq` — fields read one after the other.
* `Fields.reads_optional_of_encoded`, `Fields.reads_optional_of_orNull` — the two written forms of
  an optional part.
* `Decoder.each_map` — a list is read back if its items are.
-/

namespace JoinGraph.Json

/-! ## Finding members -/

section Finding

variable {α : Type} {key other : String} {v : Json} {rest : List (String × Json)}

@[simp] theorem find?_nil (key : String) : find? key [] = none := rfl

@[simp] theorem find?_cons_self (key : String) (v : Json) (rest : List (String × Json)) :
    find? key ((key, v) :: rest) = some v := by
  simp [find?]

@[simp] theorem find?_cons_ne (h : other ≠ key) :
    find? key ((other, v) :: rest) = find? key rest := by
  have hne : (other == key) = false := beq_false_of_ne h
  simp [find?, hne]

@[simp] theorem find?_append (key : String) (first second : List (String × Json)) :
    find? key (first ++ second) = (find? key first).or (find? key second) := by
  simp [find?, List.find?_append, Option.map_or]

@[simp] theorem find?_optionalMember_self (key : String) (encode : α → Json) (a : Option α) :
    find? key (optionalMember key encode a) = a.map encode := by
  cases a <;> simp [optionalMember]

@[simp] theorem find?_optionalMember_ne (h : other ≠ key) (encode : α → Json) (a : Option α) :
    find? key (optionalMember other encode a) = none := by
  cases a with
  | none => rfl
  | some a => rw [optionalMember, find?_cons_ne h, find?_nil]

end Finding

/-! ## Depth -/

/-- A member is less deep than its object. -/
theorem depth_lt_of_find? {key : String} {members : List (String × Json)} {v : Json}
    (h : find? key members = some v) : v.depth < (object members).depth := by
  induction members with
  | nil => cases h
  | cons m members ih =>
      obtain ⟨k, w⟩ := m
      by_cases hk : k = key
      · subst hk
        rw [find?_cons_self, Option.some.injEq] at h
        subst h
        simp only [depth, depthOfMembers]
        omega
      · rw [find?_cons_ne hk] at h
        have := ih h
        simp only [depth, depthOfMembers] at this ⊢
        omega

/-! ## Fields -/

namespace Fields

variable {α β : Type} {members : List (String × Json)} {name : String}

/-- The fields make the value of the members, whichever fields came before. -/
def Reads (fields : Fields α) (members : List (String × Json)) (a : α) : Prop :=
  ∀ index, fields.read (.members members) index = .ok a

theorem reads_map {fields : Fields α} {a : α} (f : α → β) (h : fields.Reads members a) :
    (f <$> fields).Reads members (f a) := by
  intro index
  rw [show (f <$> fields).read (.members members) index =
    f <$> fields.read (.members members) index from rfl, h index]
  rfl

/-- Fields are read one after the other, each from the same members. -/
theorem reads_seq {first : Fields (α → β)} {second : Fields α} {f : α → β} {a : α}
    (hf : first.Reads members f) (ha : second.Reads members a) :
    (first <*> second).Reads members (f a) := by
  intro index
  have hread : (first <*> second).read (.members members) index =
      (andThen (fun g a => g a) first second).read (.members members) index := rfl
  simp only [hread, andThen, hf index, ha (index + first.arity)]

theorem reads_withDefault {decoder : Decoder α} {default a : α} {v : Json}
    (hfind : find? name members = some v) (hv : decoder v = .ok a) :
    (withDefault name default decoder).Reads members a := by
  intro index
  simp [withDefault, present, hfind, hv, bind, Except.bind, pure, Except.pure]

theorem reads_withDefault_of_missing {decoder : Decoder α} {default : α}
    (hfind : find? name members = Option.none) :
    (withDefault name default decoder).Reads members default := by
  intro index
  simp [withDefault, present, hfind, bind, Except.bind, pure, Except.pure]

theorem reads_required {decoder : Decoder α} {a : α} {v : Json}
    (hfind : find? name members = some v) (hv : decoder v = .ok a) :
    (required name decoder).Reads members a := by
  intro index
  simp [required, present, hfind, hv, bind, Except.bind, pure, Except.pure]

/-- A part that is left out where it is absent. -/
theorem reads_optional_of_encoded {decoder : Decoder β} (encode : α → Json) {a : Option α}
    {f : α → β} (hfind : find? name members = a.map encode)
    (hread : ∀ x, a = some x → Decoder.orNull decoder (encode x) = .ok (some (f x))) :
    (optional name decoder).Reads members (a.map f) := by
  cases a with
  | none => exact reads_withDefault_of_missing hfind
  | some x => exact reads_withDefault hfind (hread x rfl)

/-- A part that is null where it is absent. -/
theorem reads_optional_of_orNull {decoder : Decoder β} (encode : α → Json) {a : Option α}
    {f : α → β} (hfind : find? name members = some (orNull encode a))
    (hread : ∀ x, a = some x → Decoder.orNull decoder (encode x) = .ok (some (f x))) :
    (optional name decoder).Reads members (a.map f) := by
  cases a with
  | none => exact reads_withDefault hfind rfl
  | some x => exact reads_withDefault hfind (hread x rfl)

/-- A part that is read back as it is, whether absent parts are left out or null. -/
theorem reads_optional_self {decoder : Decoder α} (encode : α → Json) {a : Option α}
    (hread : ∀ x, Decoder.orNull decoder (encode x) = .ok (some x))
    (hfind : find? name members = a.map encode ∨ find? name members = some (orNull encode a)) :
    (optional name decoder).Reads members a := by
  have hsome : ∀ x, a = some x → Decoder.orNull decoder (encode x) = .ok (some (id x)) :=
    fun x _ => hread x
  have hmap : a.map id = a := Option.map_id_fun ▸ rfl
  rcases hfind with hfind | hfind
  · exact hmap ▸ reads_optional_of_encoded encode hfind hsome
  · exact hmap ▸ reads_optional_of_orNull encode hfind hsome

/-- A text comes back, whether absent texts are left out or null. -/
theorem reads_optional_text {a : Option String}
    (hfind : find? name members = a.map .string ∨ find? name members = some (orNull .string a)) :
    (optional name Decoder.text).Reads members a :=
  reads_optional_self .string (fun _ => rfl) hfind

/-- What is left of a value where null stands for nothing. -/
def unlessNull : Option Json → Option Json
  | some null => Option.none
  | v => v

/-- Where any value will do, null does not come back. -/
theorem reads_optional_any {v : Option Json} (hfind : find? name members = v) :
    (optional name Decoder.any).Reads members (unlessNull v) := by
  cases v with
  | none => exact reads_withDefault_of_missing hfind
  | some v =>
      refine reads_withDefault hfind ?_
      cases v <;> rfl

end Fields

namespace Decoder

variable {α β : Type}

/-- A record is read from an object if its fields are. -/
theorem record_of_reads {type : String} {fields : Fields α} {members : List (String × Json)} {a : α}
    (h : fields.Reads members a) : record type fields (.object members) = .ok a := by
  rw [record, Fields.ofMembers, h 0]
  rfl

/-- An object is no null, so it is read where it is optional. -/
theorem orNull_object {decoder : Decoder α} {members : List (String × Json)} {a : α}
    (h : decoder (.object members) = .ok a) : orNull decoder (.object members) = .ok (some a) := by
  simp only [orNull, h]
  rfl

/-- Items that are read one by one are read together. -/
theorem each_map {decoder : Decoder β} (encode : α → Json) (f : α → β) (items : List α)
    (h : ∀ a ∈ items, decoder (encode a) = .ok (f a)) :
    each decoder (items.map encode) = .ok (items.map f) := by
  induction items with
  | nil => rfl
  | cons a items ih =>
      have hrest := ih fun b hb => h b (List.mem_cons_of_mem _ hb)
      simp only [List.map_cons, each, h a List.mem_cons_self, hrest]
      rfl

end Decoder

end JoinGraph.Json
