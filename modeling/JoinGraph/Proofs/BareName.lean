import JoinGraph.Proofs.Blank
import JoinGraph.Proofs.BlankSplit
import JoinGraph.Statement

/-!
# Bare names

A name without delimiters, dots and blanks around it leaves nothing to undress: trimming it,
taking off its delimiters and reading it as a path all give the name back.

## Main results

* `Name.bare_trim`, `ColumnRef.ofPath?_trim` — blanks around a name do not count.
* `IsBareName.bare_eq`, `IsBareName.nonBlank?_eq`, `IsBareName.ofPath?_eq` — the name stays.
* `bind_nonBlank?_of_bare` — so does one that may be missing.
-/

namespace JoinGraph

/-! ## Names with blanks around them -/

/-- Undressing a name leaves no blanks around it. -/
theorem Text.trim_bare (name : String) : Text.trim (Name.bare name) = Name.bare name := by
  rw [Text.trim, Name.bare, String.toList_ofList, Name.bareChars, Text.trimChars_trimChars]

/-- Blanks around a name do not count, even inside of delimiters. -/
theorem Name.bareChars_trimChars (name : List Char) :
    bareChars (Text.trimChars name) = bareChars name := by
  let p : Char → Bool := fun c => !isDelimiter c
  calc Text.trimBack (Text.trimFront ((Text.trimBack (Text.trimFront name)).filter p))
      = Text.trimFront (Text.trimBack ((Text.trimBack (Text.trimFront name)).filter p)) :=
        (Text.trimFront_trimBack _).symm
    _ = Text.trimFront (Text.trimBack ((Text.trimFront name).filter p)) := by
        rw [Text.trimBack_filter_trimBack]
    _ = Text.trimBack (Text.trimFront ((Text.trimFront name).filter p)) := Text.trimFront_trimBack _
    _ = Text.trimBack (Text.trimFront (name.filter p)) := by rw [Text.trimFront_filter_trimFront]

theorem Name.bare_trim (name : String) : bare (Text.trim name) = bare name := by
  rw [bare, bare, Text.trim, String.toList_ofList, bareChars_trimChars]

theorem ColumnRef.ofPath?_trim (path : String) : ofPath? (Text.trim path) = ofPath? path := by
  rw [ofPath?, ofPath?, ofPathChars?, ofPathChars?, Text.trim, String.toList_ofList,
    Text.trimChars_trimChars]

/-! ## Bare names -/

/-- A name without delimiters, schemas and blanks around it. -/
structure IsBareName (name : String) : Prop where
  ne_empty : name ≠ ""
  trimmed : Text.trim name = name
  undelimited : ∀ c ∈ name.toList, Name.isDelimiter c = false
  undotted : '.' ∉ name.toList

/-- A column whose name and qualifier are bare. -/
structure ColumnRef.IsBare (c : ColumnRef) : Prop where
  column : IsBareName c.column
  table : ∀ t ∈ c.table, IsBareName t

instance (name : String) : Decidable (IsBareName name) :=
  -- The characters of the name are tried one by one, never all characters that there are.
  have hall : (name.toList.all fun c => !Name.isDelimiter c) = true ↔
      ∀ c ∈ name.toList, Name.isDelimiter c = false := by simp
  decidable_of_iff (name ≠ "" ∧ Text.trim name = name ∧
    (name.toList.all fun c => !Name.isDelimiter c) = true ∧ '.' ∉ name.toList)
    ⟨fun ⟨hne, htrim, hdelimiters, hdot⟩ => ⟨hne, htrim, hall.1 hdelimiters, hdot⟩,
      fun h => ⟨h.ne_empty, h.trimmed, hall.2 h.undelimited, h.undotted⟩⟩

instance (c : ColumnRef) : Decidable c.IsBare :=
  decidable_of_iff (IsBareName c.column ∧ ∀ t ∈ c.table, IsBareName t)
    ⟨fun ⟨hcolumn, htable⟩ => ⟨hcolumn, htable⟩, fun h => ⟨h.column, h.table⟩⟩

namespace IsBareName

variable {name : String}

theorem trimChars_toList (h : IsBareName name) : Text.trimChars name.toList = name.toList := by
  have htrim := congrArg String.toList h.trimmed
  rwa [Text.trim, String.toList_ofList] at htrim

theorem bareChars_toList (h : IsBareName name) : Name.bareChars name.toList = name.toList := by
  have hfilter : name.toList.filter (fun c => !Name.isDelimiter c) = name.toList :=
    List.filter_eq_self.2 fun c hc => by simp [h.undelimited c hc]
  rw [Name.bareChars, hfilter, h.trimChars_toList]

theorem bare_eq (h : IsBareName name) : Name.bare name = name := by
  rw [Name.bare, h.bareChars_toList, String.ofList_toList]

theorem nonBlank?_eq (h : IsBareName name) : Text.nonBlank? name = some name :=
  (Text.nonBlank?_eq_some_iff name name).2 ⟨h.trimmed, h.ne_empty⟩

theorem not_blank (h : IsBareName name) : Text.isBlankText name = false := by
  refine Bool.eq_false_iff.2 fun hblank => h.ne_empty ?_
  rw [← h.trimmed]
  exact (Text.trim_eq_empty_iff name).2 hblank

/-- As a path, a bare name is a column without a qualifier. -/
theorem ofPath?_eq (h : IsBareName name) : ColumnRef.ofPath? name = some ⟨none, name⟩ := by
  have hne : name.toList ≠ [] := fun hnil => h.ne_empty (String.toList_eq_nil_iff.1 hnil)
  rw [ColumnRef.ofPath?, ColumnRef.ofPathChars?, h.trimChars_toList,
    Text.splitChars_of_not_mem h.undotted, List.map_singleton, h.bareChars_toList]
  simp [ColumnRef.ofSegments?, hne]

end IsBareName

/-- A name that may be missing is kept. -/
theorem bind_nonBlank?_of_bare {name? : Option String} (h : ∀ a ∈ name?, IsBareName a) :
    name?.bind Text.nonBlank? = name? := by
  cases name? with
  | none => rfl
  | some a => rw [Option.bind_some, (h a rfl).nonBlank?_eq]

end JoinGraph
