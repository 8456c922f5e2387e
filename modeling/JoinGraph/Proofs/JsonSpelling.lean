import JoinGraph.Proofs.JsonReading

/-!
# Texts of a value

A value has many texts: white space may stand around every element.  `Spells` says which texts are
texts of a value, numbers aside.  The compact and the indented text are two of them, so what is
proved of any text of a value holds of both.

## Main results

* `spells_compact`, `spells_indented` — the two texts that are written.
* `beginsItem_of_spells` — how a text of a value begins.
-/

namespace JoinGraph.Json

/-- The texts with a comma before each, but for the first one at the beginning. -/
def listed : (first : Bool) → List (List Char) → List Char
  | _, [] => []
  | first, text :: rest => comma first ++ (text ++ listed false rest)

/-- With what closes them, texts have more characters than there are texts. -/
theorem length_lt_closed (texts : List (List Char)) (space : List Char) (c : Char)
    (rest : List Char) :
    texts.length < (listed true texts ++ (space ++ c :: rest)).length + 1 := by
  have hmore : ∀ texts : List (List Char), texts.length ≤ (listed false texts).length := by
    intro texts
    induction texts with
    | nil => simp
    | cons t texts ih =>
        simp only [listed, comma, Bool.false_eq_true, if_false, List.length_append,
          List.length_cons]
        omega
  cases texts with
  | nil => simp
  | cons t texts =>
      have := hmore texts
      simp only [listed, List.length_append, List.length_cons]
      omega

/-- An item of an array with its text, and the white space around it. -/
structure SpelledItem where
  before : List Char
  text : List Char
  after : List Char
  value : Json

/-- A member of an object with the text of its value, and the white space around its parts. -/
structure SpelledMember extends SpelledItem where
  name : String
  beforeName : List Char
  afterName : List Char

namespace SpelledItem

/-- The characters of an item. -/
def chars (i : SpelledItem) : List Char := i.before ++ i.text ++ i.after

theorem chars_append (i : SpelledItem) (more : List Char) :
    i.chars ++ more = i.before ++ (i.text ++ (i.after ++ more)) := by
  simp [chars]

/-- Nothing but white space stands around the item. -/
structure IsSpaced (i : SpelledItem) : Prop where
  before : IsSpace i.before
  after : IsSpace i.after

end SpelledItem

namespace SpelledMember

/-- The characters of a member. -/
def chars (m : SpelledMember) : List Char :=
  m.beforeName ++ quoteChars m.name.toList ++ m.afterName ++ ':' :: m.toSpelledItem.chars

theorem chars_append (m : SpelledMember) (more : List Char) : m.chars ++ more =
    m.beforeName ++ (quoteChars m.name.toList ++
      (m.afterName ++ ':' :: (m.before ++ (m.text ++ (m.after ++ more))))) := by
  simp [chars, SpelledItem.chars]

/-- The member of the object. -/
def member (m : SpelledMember) : String × Json := (m.name, m.value)

/-- Nothing but white space stands around the parts of the member. -/
structure IsSpaced (m : SpelledMember) : Prop extends m.toSpelledItem.IsSpaced where
  beforeName : IsSpace m.beforeName
  afterName : IsSpace m.afterName

end SpelledMember

/-- The text is one of the value, without white space around it. -/
inductive Spells : List Char → Json → Prop
  | null : Spells ['n', 'u', 'l', 'l'] null
  | true : Spells ['t', 'r', 'u', 'e'] (bool true)
  | false : Spells ['f', 'a', 'l', 's', 'e'] (bool false)
  | string (s : String) : Spells (quoteChars s.toList) (string s)
  | array {items : List SpelledItem} {space : List Char} (hspaced : ∀ i ∈ items, i.IsSpaced)
      (hspace : IsSpace space) (hitems : ∀ i ∈ items, Spells i.text i.value) :
      Spells ('[' :: (listed true (items.map SpelledItem.chars) ++ space ++ [']']))
        (array (items.map SpelledItem.value))
  | object {members : List SpelledMember} {space : List Char} (hspaced : ∀ m ∈ members, m.IsSpaced)
      (hspace : IsSpace space) (hmembers : ∀ m ∈ members, Spells m.text m.value) :
      Spells ('\x7b' :: (listed true (members.map SpelledMember.chars) ++ space ++ ['\x7d']))
        (object (members.map SpelledMember.member))

/-- The text of a value begins with a mark of its kind. -/
theorem beginsItem_of_spells {text : List Char} {v : Json} (h : Spells text v) :
    BeginsItem text := by
  cases h <;> exact ⟨_, _, rfl, by decide, by decide⟩

theorem head?_ne_of_spells {text : List Char} {v : Json} (h : Spells text v) (hv : v ≠ null) :
    text.head? ≠ some 'n' := by
  cases h with
  | null => contradiction
  | _ => simp [quoteChars]

/-- The text has the value in it, and nothing else but white space. -/
def HasText (v : Json) (s : String) : Prop :=
  ∃ before text after, IsSpace before ∧ Spells text v ∧ IsSpace after ∧
    s.toList = before ++ (text ++ after)

theorem hasText_of_spells {v : Json} {s : String} (h : Spells s.toList v) : v.HasText s :=
  ⟨[], s.toList, [], isSpace_nil, h, isSpace_nil, by simp⟩

/-! ## Plain values -/

/-- A value with brackets nested at most `depth` deep, without numbers, and without an object that
has two members of one name. -/
inductive Plain : (depth : Nat) → Json → Prop
  | null {depth : Nat} : Plain depth null
  | bool {depth : Nat} (b : Bool) : Plain depth (bool b)
  | string {depth : Nat} (s : String) : Plain depth (string s)
  | array {depth : Nat} {items : List Json} (hitems : ∀ v ∈ items, Plain depth v) :
      Plain (depth + 1) (array items)
  | object {depth : Nat} {members : List (String × Json)} (hnames : (members.map (·.1)).Nodup)
      (hmembers : ∀ m ∈ members, Plain depth m.2) : Plain (depth + 1) (object members)

/-- Members with some of the names, in their order, and with plain values. -/
structure PlainMembers (depth : Nat) (names : List String) (members : List (String × Json)) :
    Prop where
  sublist : (members.map (·.1)).Sublist names
  plain : ∀ m ∈ members, Plain depth m.2

namespace PlainMembers

variable {depth : Nat} {names names' : List String} {members members' : List (String × Json)}

theorem nil : PlainMembers depth [] [] := ⟨.slnil, by simp⟩

theorem cons {v : Json} (name : String) (hv : Plain depth v)
    (h : PlainMembers depth names members) :
    PlainMembers depth (name :: names) ((name, v) :: members) :=
  ⟨h.sublist.cons_cons name, List.forall_mem_cons.2 ⟨hv, h.plain⟩⟩

theorem append (h : PlainMembers depth names members) (h' : PlainMembers depth names' members') :
    PlainMembers depth (names ++ names') (members ++ members') :=
  ⟨by simpa using h.sublist.append h'.sublist, List.forall_mem_append.2 ⟨h.plain, h'.plain⟩⟩

/-- A member that may be left out. -/
theorem optional {α : Type} (name : String) (encode : α → Json) (a : Option α)
    (h : ∀ x, Plain depth (encode x)) :
    PlainMembers depth [name] (optionalMember name encode a) := by
  cases a with
  | none => exact ⟨List.nil_sublist _, by simp [optionalMember]⟩
  | some x => exact .cons name (h x) .nil

/-- Members of different names make a plain object. -/
theorem object (h : PlainMembers depth names members) (hnames : names.Nodup) :
    Plain (depth + 1) (.object members) :=
  .object (hnames.sublist h.sublist) h.plain

end PlainMembers

/-- The items of a list make a plain array if each of them is plain. -/
theorem plain_array_map {α : Type} {depth : Nat} {encode : α → Json}
    (h : ∀ a, Plain depth (encode a))
    (items : List α) : Plain (depth + 1) (array (items.map encode)) :=
  .array (List.forall_mem_map.2 fun a _ => h a)

/-! ## Evenly spaced texts -/

section Even

variable {before afterColon space : List Char} (spell : Json → List Char)

/-- The text of an array with the same white space before each item. -/
theorem spells_array (items : List Json) (hbefore : IsSpace before) (hspace : IsSpace space)
    (hitems : ∀ v ∈ items, Spells (spell v) v) :
    Spells ('[' :: (listed true (items.map fun v => before ++ spell v) ++ space ++ [']']))
      (array items) := by
  let item (v : Json) : SpelledItem := ⟨before, spell v, [], v⟩
  have hspaced : ∀ i ∈ items.map item, i.IsSpaced :=
    List.forall_mem_map.2 fun _ _ => ⟨hbefore, isSpace_nil⟩
  have h := Spells.array hspaced hspace (List.forall_mem_map.2 hitems)
  simpa [item, SpelledItem.chars, Function.comp_def] using h

/-- The text of an object with the same white space before each name and behind each colon. -/
theorem spells_object (members : List (String × Json)) (hbefore : IsSpace before)
    (hcolon : IsSpace afterColon) (hspace : IsSpace space)
    (hmembers : ∀ m ∈ members, Spells (spell m.2) m.2) :
    Spells ('\x7b' :: (listed true (members.map fun m =>
        before ++ quoteChars m.1.toList ++ ':' :: (afterColon ++ spell m.2)) ++ space ++ ['\x7d']))
      (object members) := by
  let member (m : String × Json) : SpelledMember :=
    ⟨⟨afterColon, spell m.2, [], m.2⟩, m.1, before, []⟩
  have hspaced : ∀ m ∈ members.map member, m.IsSpaced :=
    List.forall_mem_map.2 fun _ _ => ⟨⟨hcolon, isSpace_nil⟩, hbefore, isSpace_nil⟩
  have h := Spells.object hspaced hspace (List.forall_mem_map.2 hmembers)
  simpa [member, SpelledMember.chars, SpelledMember.member, SpelledItem.chars,
    Function.comp_def] using h

end Even

private theorem toList_separated (texts : List String) :
    (separated "," texts).toList = listed true (texts.map String.toList) := by
  induction texts with
  | nil => rfl
  | cons t texts ih =>
      cases texts with
      | nil => simp [separated, listed, comma]
      | cons t' texts =>
          rw [separated, String.toList_append, String.toList_append, ih]
          · simp [listed, comma]
          · simp

/-! ## The compact text -/

private theorem compactItems_eq_map (items : List Json) :
    compactItems items = items.map compact := by
  induction items with
  | nil => rfl
  | cons v items ih => rw [compactItems, ih, List.map_cons]

private theorem compactMembers_eq_map (members : List (String × Json)) :
    compactMembers members = members.map fun m => quote m.1 ++ ":" ++ m.2.compact := by
  induction members with
  | nil => rfl
  | cons m members ih => rw [compactMembers, ih, List.map_cons]

theorem spells_compact {depth : Nat} {v : Json} (h : Plain depth v) :
    Spells v.compact.toList v := by
  induction h with
  | null => exact .null
  | bool b =>
      cases b with
      | true => exact .true
      | false => exact .false
  | string s => simpa [compact, quote] using Spells.string s
  | array _ ih =>
      have h := spells_array (fun v => v.compact.toList) _ isSpace_nil isSpace_nil ih
      simpa [compact, toList_separated, compactItems_eq_map, Function.comp_def] using h
  | object _ _ ih =>
      have h := spells_object (fun v => v.compact.toList) _ isSpace_nil isSpace_nil isSpace_nil ih
      simpa [compact, quote, toList_separated, compactMembers_eq_map, Function.comp_def] using h

/-! ## The indented text -/

private theorem isSpace_newLine (level : Nat) : IsSpace (newLine level).toList := by
  intro c hc
  rw [newLine, String.toList_ofList, List.mem_cons, List.mem_replicate] at hc
  rcases hc with rfl | ⟨-, rfl⟩ <;> decide

private theorem isSpace_blank : IsSpace [' '] := by simp [IsSpace, Reader.isSpace]

private theorem indentedItems_eq_map (level : Nat) (items : List Json) :
    indentedItems level items = items.map fun v => newLine level ++ indented level v := by
  induction items with
  | nil => rfl
  | cons v items ih => rw [indentedItems, ih, List.map_cons]

private theorem indentedMembers_eq_map (level : Nat) (members : List (String × Json)) :
    indentedMembers level members =
      members.map fun m => newLine level ++ quote m.1 ++ ": " ++ indented level m.2 := by
  induction members with
  | nil => rfl
  | cons m members ih => rw [indentedMembers, ih, List.map_cons]

theorem spells_indented {depth : Nat} {v : Json} (h : Plain depth v) (level : Nat) :
    Spells (indented level v).toList v := by
  induction h generalizing level with
  | null =>
      rw [indented]
      exact .null
  | bool b =>
      cases b with
      | true =>
          rw [indented]
          exact .true
      | false =>
          rw [indented]
          exact .false
  | string s => simpa [indented, quote] using Spells.string s
  | @array _ items _ ih =>
      cases items with
      | nil =>
          have h := spells_array (fun _ => []) [] isSpace_nil isSpace_nil (by simp)
          simpa [indented, listed] using h
      | cons v items =>
          have h := spells_array (fun v => (indented (level + 1) v).toList) _
            (isSpace_newLine (level + 1)) (isSpace_newLine level) fun v hv => ih v hv (level + 1)
          simpa [indented, toList_separated, indentedItems_eq_map, Function.comp_def] using h
  | @object _ members _ _ ih =>
      cases members with
      | nil =>
          have h := spells_object (fun _ => []) [] isSpace_nil isSpace_nil isSpace_nil (by simp)
          simpa [indented, listed] using h
      | cons m members =>
          have h := spells_object (fun v => (indented (level + 1) v).toList) _
            (isSpace_newLine (level + 1)) isSpace_blank (isSpace_newLine level)
            fun m hm => ih m hm (level + 1)
          simpa [indented, quote, toList_separated, indentedMembers_eq_map,
            Function.comp_def] using h

theorem hasText_compact {depth : Nat} {v : Json} (h : Plain depth v) : v.HasText v.compact :=
  hasText_of_spells (spells_compact h)

theorem hasText_pretty {depth : Nat} {v : Json} (h : Plain depth v) : v.HasText v.pretty :=
  hasText_of_spells (spells_indented h 0)

end JoinGraph.Json
