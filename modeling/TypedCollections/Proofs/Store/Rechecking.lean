import TypedCollections.Proofs.Store.Origins
/-!
# Checking stored documents again

What is read back of a document fits its fields, so it passes the check again. The check keeps the
names of values that have the names of such a document, and where the values are checked to what was
read back, it gives that back.
-/

namespace TypedCollections

namespace Writing.Retained

open Validation

variable {fields : Fields} {timestamps : Bool} {writing : Writing} {patterns : Patterns}

/-- What is read back fits each declared field but one called `_id`. -/
theorem fitsSlot (h : writing.Retained fields timestamps)
    (hunmarked : FieldType.UnmarkedFields fields)
    (hpatterns : Patterns.ofFields fields = .ok patterns) {name : String} {field : Field}
    (hmem : (name, field) ∈ fields) (hname : idField ≠ name) :
    FitsSlot name field.required field.options (FitsField patterns field)
      writing.document.reread.fields := by
  obtain ⟨patterns', checked, hpatterns', hconforms, hfields⟩ := h.produced.checked.conforms
  rw [hpatterns] at hpatterns'
  cases hpatterns'
  have hwritten : Entries.find? writing.document.fields name = Entries.find? checked name := by
    rw [hfields, Entries.find?_remove, if_neg hname]
  have hfind : Entries.find? writing.document.reread.fields name
      = (Entries.find? checked name).map Value.reread := by
    rw [← hwritten]
    exact Document.get?_reread writing.document name
  rcases fitsSlot_of_mem hconforms.fits hmem with ⟨value, hvalue, hfits⟩ | ⟨hmissing, hoptional⟩
  · have hkept : value.Kept := h.produced.checked.kept hunmarked h.finite
      (Entries.mem_of_find? (hwritten.trans hvalue))
    exact .inl ⟨value.reread, by rw [hfind, hvalue]; rfl, fitsField_reread hkept hfits⟩
  · refine .inr ⟨fun value hvalue => ?_, hoptional⟩
    rw [hfind] at hvalue
    obtain ⟨before, hbefore, rfl⟩ := Option.map_eq_some_iff.1 hvalue
    rw [hmissing before hbefore]
    rfl

theorem checkSlot_reread (h : writing.Retained fields timestamps)
    (hunmarked : FieldType.UnmarkedFields fields)
    (hpatterns : Patterns.ofFields fields = .ok patterns) {name : String} {field : Field}
    (hmem : (name, field) ∈ fields) (hname : idField ≠ name) :
    checkSlot name field.required field.options (checkField patterns field)
      writing.document.reread.fields = .ok writing.document.reread.fields :=
  checkSlot_of_fitsSlot (fun _ => checkField_of_fits) (not_fitsField_null field)
    (h.fitsSlot hunmarked hpatterns hmem hname)

/-- What is read back has declared names only. -/
theorem declared (h : writing.Retained fields timestamps) :
    Declared fields writing.document.reread.fields := by
  intro name hmem
  rw [Document.reread, Entries.names_mapValues] at hmem
  obtain ⟨value, hvalue⟩ := Entries.mem_names_iff.1 hmem
  exact h.produced.checked.mem_names hvalue

/-- With time stamps, what is read back has a number under each of their names that is declared. -/
theorem exists_stamp (h : writing.Retained fields true) {name : String}
    (hdeclared : name ∈ Entries.names fields) (hname : name = createdAt ∨ name = updatedAt) :
    ∃ number, Entries.find? writing.document.reread.fields name = some (.number number) := by
  obtain ⟨number, hnumber⟩ := h.produced.stamped rfl name hdeclared hname
  obtain ⟨finite, rfl⟩ := Value.finiteMembers_iff.1 h.finite _ (Entries.mem_of_find? hnumber)
  refine ⟨.finite finite.settled, ?_⟩
  have hreread := Document.get?_reread writing.document name
  rw [hnumber] at hreread
  exact hreread.trans (congrArg some (Value.reread_finite finite))

/-! ### Values with the names of what was read back -/

variable {values checked : List (String × Value)}

/-- A field called `_id` passes among values that have none. -/
theorem exists_checkSlot_idField (h : writing.Retained fields timestamps)
    (hpatterns : Patterns.ofFields fields = .ok patterns) {field : Field}
    (hmem : (idField, field) ∈ fields) (hvalues : Entries.find? values idField = none) :
    ∃ passed, checkSlot idField field.required field.options (checkField patterns field) values
      = .ok passed := by
  obtain ⟨passed, hpassed⟩ := h.produced.identifier patterns field hpatterns hmem
  have hfind : Entries.find? values idField = Entries.find? [] idField := hvalues
  obtain ⟨passed', hpassed', -⟩ := checkSlot_congr hfind hpassed
  exact ⟨passed', hpassed'⟩

/-- The check of values with the names of what was read back adds no name but `_id`. -/
theorem names_recheck (h : writing.Retained fields timestamps)
    (hdistinct : Entries.Distinct fields) (hunmarked : FieldType.UnmarkedFields fields)
    (hpatterns : Patterns.ofFields fields = .ok patterns)
    (hnames : Entries.names values = Entries.names writing.document.reread.fields)
    (hcheck : checkFields patterns fields values = .ok checked) :
    Entries.names (Entries.remove checked idField)
      = Entries.names writing.document.reread.fields := by
  have hid := h.produced.checked.wellFormed.reread.id_not_mem
  obtain ⟨added, hchecked, hadded⟩ := exists_added_of_checkFields hdistinct hcheck
  have hnone : added.filter (fun name => name != idField) = [] := by
    rw [List.filter_eq_nil_iff]
    intro name hmem
    obtain ⟨hnew, field, hfield, hvalue⟩ := hadded name hmem
    simp only [bne_iff_ne, ne_eq, not_not]
    -- Any other declared name that stands nowhere may do without a value and has no default.
    by_contra hne
    apply hvalue
    have hvalues := Entries.find?_eq_none_iff.2 hnew
    rw [hnames] at hnew
    have hreread := Entries.find?_eq_none_iff.2 hnew
    rcases h.fitsSlot hunmarked hpatterns hfield (Ne.symm hne) with ⟨value, hfound, -⟩ |
      ⟨-, -, hdefault⟩
    · rw [hreread] at hfound
      cases hfound
    · refine slotValue?_eq_none_iff.2 ⟨fun value hfound => ?_, hdefault⟩
      rw [hvalues] at hfound
      cases hfound
  have hkept : (Entries.names values).filter (fun name => name != idField)
      = Entries.names values := by
    rw [List.filter_eq_self]
    intro name hmem
    rw [bne_iff_ne]
    rintro rfl
    exact hid (hnames ▸ hmem)
  rw [Entries.names_remove, hchecked, List.filter_append, hnone, hkept, List.append_nil, hnames]

/-- Where a field is checked to what was read back, the check of all fields gives that back. -/
theorem find?_recheck (hdistinct : Entries.Distinct fields)
    (hcheck : checkFields patterns fields values = .ok checked) {name : String} {field : Field}
    (hmem : (name, field) ∈ fields) (hname : idField ≠ name)
    (hslot : ∃ passed, checkSlot name field.required field.options (checkField patterns field) values
        = .ok passed ∧
      Entries.find? passed name = Entries.find? writing.document.reread.fields name) :
    Entries.find? (Entries.remove checked idField) name
      = Entries.find? writing.document.reread.fields name := by
  obtain ⟨passed, hpassed, hfind⟩ := exists_checkSlot_of_checkFields hdistinct hcheck hmem
  obtain ⟨passed', hpassed', hsame⟩ := hslot
  rw [hpassed] at hpassed'
  cases hpassed'
  rw [Entries.find?_remove, if_neg hname, hfind, hsame]

/-- A field that holds what was read back is checked to it. -/
theorem checkSlot_of_find?_eq (h : writing.Retained fields timestamps)
    (hunmarked : FieldType.UnmarkedFields fields)
    (hpatterns : Patterns.ofFields fields = .ok patterns) {name : String} {field : Field}
    (hmem : (name, field) ∈ fields) (hname : idField ≠ name)
    (hsame : Entries.find? values name = Entries.find? writing.document.reread.fields name) :
    ∃ passed, checkSlot name field.required field.options (checkField patterns field) values
        = .ok passed ∧
      Entries.find? passed name = Entries.find? writing.document.reread.fields name :=
  checkSlot_congr hsame (h.checkSlot_reread hunmarked hpatterns hmem hname)

/-! ### Documents with the names of what was read back -/

/-- Time stamps do not add to the declared names of what was read back. -/
theorem names_stamped {collection : Collection}
    (h : writing.Retained collection.schema.fields collection.schema.timestamps)
    (hnames : Entries.names values = Entries.names writing.document.reread.fields) (now : Nat)
    (previous : Option Document) :
    Entries.names (keepDeclared collection.schema.fields (collection.stamp now previous values))
      = Entries.names writing.document.reread.fields := by
  have hkept : keepDeclared collection.schema.fields values = values :=
    keepDeclared_eq_self fun name hmem => h.declared name (hnames ▸ hmem)
  cases htimestamps : collection.schema.timestamps with
  | false => rw [Collection.stamp, htimestamps, if_neg Bool.false_ne_true, hkept, hnames]
  | true =>
      rw [htimestamps] at h
      have hstands : ∀ name, name = createdAt ∨ name = updatedAt →
          name ∈ Entries.names collection.schema.fields → name ∈ Entries.names values := by
        intro name hname hdeclared
        obtain ⟨number, hnumber⟩ := h.exists_stamp hdeclared hname
        rw [hnames]
        exact Entries.mem_names_iff.2 ⟨_, hnumber⟩
      rw [Collection.stamp, if_pos htimestamps, names_keepDeclared_write, names_keepDeclared_write,
        hkept, hnames]
      · exact hstands createdAt (.inl rfl)
      · intro hdeclared
        rw [Entries.names_write]
        split
        · exact hstands updatedAt (.inr rfl) hdeclared
        · exact List.mem_append_left _ (hstands updatedAt (.inr rfl) hdeclared)

/-- Values with the names of what was read back pass the check if each declared field passes. -/
theorem exists_rechecked (h : writing.Retained fields timestamps)
    (hdefinition : fields.WellFormed) (hpatterns : Patterns.ofFields fields = .ok patterns)
    (hnames : Entries.names values = Entries.names writing.document.reread.fields)
    (hslots : ∀ name field, (name, field) ∈ fields → idField ≠ name → ∃ passed,
      checkSlot name field.required field.options (checkField patterns field) values
        = .ok passed) :
    ∃ checked, checkFields patterns fields values = .ok checked := by
  refine exists_checkFields hdefinition.distinct fun name field hmem => ?_
  by_cases hname : idField = name
  · subst hname
    refine h.exists_checkSlot_idField hpatterns hmem (Entries.find?_eq_none_iff.2 ?_)
    rw [hnames]
    exact h.produced.checked.wellFormed.reread.id_not_mem
  · exact hslots name field hmem hname

/-- A document made of checked values with the names of what was read back has these names, and it
holds what was read back wherever a field is checked to that. -/
theorem rechecked (h : writing.Retained fields timestamps) (hdefinition : fields.WellFormed)
    (hunmarked : FieldType.UnmarkedFields fields)
    (hpatterns : Patterns.ofFields fields = .ok patterns)
    (hnames : Entries.names values = Entries.names writing.document.reread.fields)
    (hcheck : checkFields patterns fields values = .ok checked) (id : ObjectId) :
    Entries.names (Document.ofFields id checked).fields
        = Entries.names writing.document.reread.fields ∧
      ∀ name, (∀ field, (name, field) ∈ fields → idField ≠ name → ∃ passed,
          checkSlot name field.required field.options (checkField patterns field) values
            = .ok passed ∧
          Entries.find? passed name = Entries.find? writing.document.reread.fields name) →
        (Document.ofFields id checked).get? name = writing.document.reread.get? name := by
  have hwell := h.produced.checked.wellFormed.reread
  have hdistinct : Entries.Distinct values := by
    rw [Entries.Distinct, hnames]
    exact hwell.distinct
  rw [Document.ofFields_of_distinct (distinct_of_checkFields hdistinct hcheck)]
  have hsame := h.names_recheck hdefinition.distinct hunmarked hpatterns hnames hcheck
  refine ⟨hsame, fun name hslot => ?_⟩
  show Entries.find? (Entries.remove checked idField) name
    = Entries.find? writing.document.reread.fields name
  by_cases hname : name ∈ Entries.names writing.document.reread.fields
  · have hid : idField ≠ name := by
      rintro rfl
      exact hwell.id_not_mem hname
    obtain ⟨⟨_, field⟩, hmem, rfl⟩ := List.mem_map.1 (h.declared name hname)
    exact find?_recheck hdefinition.distinct hcheck hmem hid (hslot field hmem hid)
  · rw [Entries.find?_eq_none_iff.2 hname, Entries.find?_eq_none_iff.2]
    rw [hsame]
    exact hname

end Writing.Retained

end TypedCollections
