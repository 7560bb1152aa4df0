import TypedCollections.Proofs.Validation.Fits
/-!
# What a check gives back

The values a check gives back conform to the definition, and values that conform are given back as
they are. So a document that was checked once passes every later check unchanged, and it still does
after it was written as JSON and read back.
-/

namespace TypedCollections

namespace Validation

variable {patterns : Patterns}

/-- Null fits no type: where null is welcome, the field may do without a value. -/
theorem not_fits_null (type : FieldType) (options : Options) : ¬ Fits patterns type options .null := by
  cases type with
  | scalar kind => cases kind <;> simp [Fits, FitsScalar]
  | objectId => simp [Fits]
  | nested fields => simp [Fits]
  | array element => simp [Fits]
  | map values => simp [Fits]

theorem not_fitsField_null (field : Field) : ¬ FitsField patterns field .null := by
  obtain ⟨type, required, reference, options⟩ := field
  exact not_fits_null type options

/-- A check of null fails. -/
theorem checkField_null (field : Field) (checked : Value) :
    checkField patterns field .null ≠ .ok checked := by
  obtain ⟨type, required, reference, options⟩ := field
  cases type with
  | scalar kind => cases kind <;> simp [checkField, checkType, checkScalar, wrongKind, fail]
  | objectId => simp [checkField, checkType, castObjectId, wrongKind, fail]
  | nested fields => simp [checkField, checkType, wrongKind, fail]
  | array element => simp [checkField, checkType, wrongKind, fail]
  | map values => simp [checkField, checkType, wrongKind, fail]

/-! ### Slots -/

theorem slotValue?_eq_none_iff {name : String} {options : Options}
    {values : List (String × Value)} :
    slotValue? name options values = none ↔
      Missing name values ∧ Entries.find? options defaultOption = none := by
  unfold slotValue? Missing
  cases hfind : Entries.find? values name with
  | none => simp
  | some value => cases value <;> simp

theorem slotValue?_of_find? {name : String} {options : Options} {values : List (String × Value)}
    {value : Value} (hfind : Entries.find? values name = some value) (hnull : value ≠ .null) :
    slotValue? name options values = some value := by
  unfold slotValue?
  rw [hfind]
  cases value with
  | null => exact absurd rfl hnull
  | _ => rfl

/-- A field is checked with its default or with the value given. -/
theorem slotValue?_eq_some {name : String} {options : Options} {values : List (String × Value)}
    {value : Value} (h : slotValue? name options values = some value) :
    (∃ json, Entries.find? options defaultOption = some json ∧ value = Value.ofJson json) ∨
      Entries.find? values name = some value := by
  have hdefault : ∀ value, (Entries.find? options defaultOption).map Value.ofJson = some value →
      ∃ json, Entries.find? options defaultOption = some json ∧ value = Value.ofJson json := by
    intro value h
    obtain ⟨json, hjson, rfl⟩ := Option.map_eq_some_iff.1 h
    exact ⟨json, hjson, rfl⟩
  unfold slotValue? at h
  split at h
  · exact .inl (hdefault value h)
  · exact .inl (hdefault value h)
  · rename_i found hfound
    cases h
    exact .inr hfound

/-- A field is checked with the value of a well-formed tree or with one of the values given. -/
theorem slotValue?_cases {name : String} {options : Options} {values : List (String × Value)}
    {value : Value} (hoptions : Json.WellFormedMembers options)
    (h : slotValue? name options values = some value) :
    (∃ json, json.WellFormed ∧ value = Value.ofJson json) ∨ (name, value) ∈ values := by
  obtain ⟨json, hjson, rfl⟩ | hfound := slotValue?_eq_some h
  · have hwell := Json.wellFormedMembers_iff.1 hoptions _ (Entries.mem_of_find? hjson)
    exact .inl ⟨json, hwell, rfl⟩
  · exact .inr (Entries.mem_of_find? hfound)

theorem checkSlot_eq_ok_iff {name : String} {required : Bool} {options : Options}
    {check : Value → Check Value} {values checked : List (String × Value)} :
    checkSlot name required options check values = .ok checked ↔
      (∃ value result, slotValue? name options values = some value ∧ check value = .ok result ∧
        checked = Entries.write values name result) ∨
      slotValue? name options values = none ∧ required = false ∧ checked = values := by
  unfold checkSlot
  rw [at?_eq_ok_iff]
  cases slotValue? name options values with
  | none => cases required <;> simp [fail, eq_comm]
  | some value =>
      simp only [map_eq_ok_iff, Option.some.injEq, reduceCtorEq, false_and, or_false]
      constructor
      · intro h
        obtain ⟨result, hcheck, rfl⟩ := h
        exact ⟨value, result, rfl, hcheck, rfl⟩
      · intro h
        obtain ⟨_, result, rfl, hcheck, rfl⟩ := h
        exact ⟨result, hcheck, rfl⟩

/-- Checking a field changes no other field. -/
theorem find?_of_checkSlot {name other : String} {required : Bool} {options : Options}
    {check : Value → Check Value} {values checked : List (String × Value)}
    (h : checkSlot name required options check values = .ok checked) (hne : name ≠ other) :
    Entries.find? checked other = Entries.find? values other := by
  obtain ⟨value, result, -, -, rfl⟩ | ⟨-, -, rfl⟩ := checkSlot_eq_ok_iff.1 h
  · rw [Entries.find?_write, if_neg hne]
  · rfl

theorem names_of_checkSlot {name : String} {required : Bool} {options : Options}
    {check : Value → Check Value} {values checked : List (String × Value)}
    (h : checkSlot name required options check values = .ok checked) {other : String}
    (hmem : other ∈ Entries.names checked) : other = name ∨ other ∈ Entries.names values := by
  obtain ⟨value, result, -, -, rfl⟩ | ⟨-, -, rfl⟩ := checkSlot_eq_ok_iff.1 h
  · rw [Entries.names_write] at hmem
    split at hmem
    · exact .inr hmem
    · rcases List.mem_append.1 hmem with hmem | hmem
      · exact .inr hmem
      · exact .inl (List.mem_singleton.1 hmem)
  · exact .inr hmem

theorem fitsSlot_of_checkSlot {name : String} {required : Bool} {options : Options}
    {check : Value → Check Value} {fits : Value → Prop} {values checked : List (String × Value)}
    (hsound : ∀ value result, check value = .ok result → fits result)
    (h : checkSlot name required options check values = .ok checked) :
    FitsSlot name required options fits checked := by
  obtain ⟨value, result, -, hcheck, rfl⟩ | ⟨hnone, hrequired, rfl⟩ := checkSlot_eq_ok_iff.1 h
  · refine .inl ⟨result, ?_, hsound value result hcheck⟩
    rw [Entries.find?_write, if_pos rfl]
  · obtain ⟨hmissing, hdefault⟩ := slotValue?_eq_none_iff.1 hnone
    exact .inr ⟨hmissing, hrequired, hdefault⟩

theorem checkSlot_of_fitsSlot {name : String} {required : Bool} {options : Options}
    {check : Value → Check Value} {fits : Value → Prop} {values : List (String × Value)}
    (hcomplete : ∀ value, fits value → check value = .ok value) (hnull : ¬ fits .null)
    (h : FitsSlot name required options fits values) :
    checkSlot name required options check values = .ok values := by
  rw [checkSlot_eq_ok_iff]
  rcases h with ⟨value, hfind, hfits⟩ | ⟨hmissing, hrequired, hdefault⟩
  · have hne : value ≠ .null := by
      rintro rfl
      exact hnull hfits
    refine .inl ⟨value, value, slotValue?_of_find? hfind hne, hcomplete value hfits, ?_⟩
    exact (Entries.write_eq_self hfind).symm
  · exact .inr ⟨slotValue?_eq_none_iff.2 ⟨hmissing, hdefault⟩, hrequired, rfl⟩

theorem FitsSlot.congr {name : String} {required : Bool} {options : Options}
    {fits : Value → Prop} {values others : List (String × Value)}
    (h : Entries.find? others name = Entries.find? values name)
    (hfits : FitsSlot name required options fits values) :
    FitsSlot name required options fits others := by
  unfold FitsSlot Missing at hfits ⊢
  rw [h]
  exact hfits

/-! ### Fields -/

theorem checkFields_cons_eq_ok_iff {name : String} {field : Field} {rest : Fields}
    {values checked : List (String × Value)} :
    checkFields patterns ((name, field) :: rest) values = .ok checked ↔
      ∃ middle, checkSlot name field.required field.options (checkField patterns field) values
          = .ok middle ∧ checkFields patterns rest middle = .ok checked := by
  rw [checkFields]
  cases checkSlot name field.required field.options (checkField patterns field) values with
  | error violated => simp
  | ok middle => simp

/-- Checking fields changes no field that is not among them. -/
theorem find?_of_checkFields {fields : Fields} {values checked : List (String × Value)}
    (h : checkFields patterns fields values = .ok checked) {name : String}
    (hname : name ∉ Entries.names fields) :
    Entries.find? checked name = Entries.find? values name := by
  induction fields generalizing values with
  | nil =>
      rw [checkFields] at h
      cases h
      rfl
  | cons head rest ih =>
      obtain ⟨other, field⟩ := head
      simp only [Entries.names, List.map_cons, List.mem_cons, not_or] at hname
      obtain ⟨middle, hslot, hrest⟩ := checkFields_cons_eq_ok_iff.1 h
      rw [ih hrest hname.2]
      exact find?_of_checkSlot hslot (Ne.symm hname.1)

theorem names_of_checkFields {fields : Fields} {values checked : List (String × Value)}
    (h : checkFields patterns fields values = .ok checked) {name : String}
    (hmem : name ∈ Entries.names checked) :
    name ∈ Entries.names fields ∨ name ∈ Entries.names values := by
  induction fields generalizing values with
  | nil =>
      rw [checkFields] at h
      cases h
      exact .inr hmem
  | cons head rest ih =>
      obtain ⟨other, field⟩ := head
      obtain ⟨middle, hslot, hrest⟩ := checkFields_cons_eq_ok_iff.1 h
      rcases ih hrest with hmem | hmem
      · exact .inl (List.mem_cons_of_mem _ hmem)
      · rcases names_of_checkSlot hslot hmem with rfl | hmem
        · exact .inl (List.mem_cons_self ..)
        · exact .inr hmem

theorem declared_of_checkFields {fields : Fields} {values checked : List (String × Value)}
    (hdeclared : Declared fields values) (h : checkFields patterns fields values = .ok checked) :
    Declared fields checked := by
  intro name hmem
  rcases names_of_checkFields h hmem with hmem | hmem
  · exact hmem
  · exact hdeclared name hmem

theorem distinct_of_checkFields {fields : Fields} {values checked : List (String × Value)}
    (hdistinct : Entries.Distinct values) (h : checkFields patterns fields values = .ok checked) :
    Entries.Distinct checked := by
  induction fields generalizing values with
  | nil =>
      rw [checkFields] at h
      cases h
      exact hdistinct
  | cons head rest ih =>
      obtain ⟨name, field⟩ := head
      obtain ⟨middle, hslot, hrest⟩ := checkFields_cons_eq_ok_iff.1 h
      obtain ⟨value, result, -, -, rfl⟩ | ⟨-, -, rfl⟩ := checkSlot_eq_ok_iff.1 hslot
      · exact ih (Entries.distinct_write hdistinct name result) hrest
      · exact ih hdistinct hrest

/-! ### Types, one by one -/

theorem castObjectId_eq_ok {value checked : Value} (h : castObjectId value = .ok checked) :
    ∃ id, checked = .objectId id := by
  unfold castObjectId at h
  split at h
  · exact ⟨_, (Except.ok.inj h).symm⟩
  · split at h
    · exact ⟨_, (Except.ok.inj h).symm⟩
    · cases h
  · exact ⟨_, (Except.ok.inj h).symm⟩
  · cases h

/-- A check of a number gives the number back. -/
theorem checkField_number {field : Field} {number : Number} {checked : Value}
    (h : checkField patterns field (.number number) = .ok checked) : checked = .number number := by
  obtain ⟨type, required, reference, options⟩ := field
  have h : checkType patterns type options (.number number) = .ok checked := h
  cases type with
  | scalar kind =>
      rw [checkType] at h
      exact (checkScalar_eq_ok_iff.1 h).2
  | objectId => cases h
  | nested fields => simp [checkType, wrongKind, fail] at h
  | array element => simp [checkType, wrongKind, fail] at h
  | map values => simp [checkType, wrongKind, fail] at h

theorem checkType_nested_eq_ok_iff {fields : Fields} {options : Options} {value checked : Value} :
    checkType patterns (.nested fields) options value = .ok checked ↔
      ∃ members results, value = .object members ∧
        checkFields patterns fields (keepDeclared fields members) = .ok results ∧
        checked = .object results := by
  cases value with
  | object members => simp [checkType, map_eq_ok_iff]
  | _ => simp [checkType, reservedKey, wrongKind, fail, at?]

theorem checkType_array_eq_ok_iff {element : FieldType} {options : Options}
    {value checked : Value} :
    checkType patterns (.array element) options value = .ok checked ↔
      ∃ items results, value = .array items ∧
        List.Forall₂ (fun item result => checkType patterns element options item = .ok result)
          items results ∧
        checked = .array results := by
  cases value with
  | array items => simp [checkType, map_eq_ok_iff, checkItems_eq_ok_iff]
  | _ => simp [checkType, wrongKind, fail]

theorem checkType_map_eq_ok_iff {values : Field} {options : Options} {value checked : Value} :
    checkType patterns (.map values) options value = .ok checked ↔
      ∃ members results, value = .object members ∧
        List.Forall₂ (fun member result => result.1 = member.1 ∧
            FitsKey (patternOf? patterns options keyMatchOption) member.1 ∧
            (result.2 = .null ∧ member.2 = .null ∧ values.required = false ∨
              checkField patterns values member.2 = .ok result.2))
          members results ∧
        checked = .object results := by
  have hnull : ∀ result, checkField patterns values .null ≠ .ok result := checkField_null values
  cases value with
  | object members =>
      simp [checkType, map_eq_ok_iff, checkEntries_eq_ok_iff, checkEntry_eq_ok_iff hnull]
  | _ => simp [checkType, reservedKey, wrongKind, fail, at?]

theorem exists_of_mem_right {α β : Type} {R : α → β → Prop} {items : List α}
    {results : List β} (h : List.Forall₂ R items results) {result : β} (hmem : result ∈ results) :
    ∃ item ∈ items, R item result := by
  induction h with
  | nil => cases hmem
  | cons hhead _ ih =>
      rcases List.mem_cons.1 hmem with rfl | hmem
      · exact ⟨_, List.mem_cons_self .., hhead⟩
      · obtain ⟨item, hitem, hrelated⟩ := ih hmem
        exact ⟨item, List.mem_cons_of_mem _ hitem, hrelated⟩

private theorem names_eq_of_forall₂ {R : String × Value → String × Value → Prop}
    {members results : List (String × Value)}
    (h : List.Forall₂ (fun member result => result.1 = member.1 ∧ R member result)
      members results) : Entries.names results = Entries.names members := by
  induction h with
  | nil => rfl
  | cons hhead _ ih =>
      simp only [Entries.names, List.map_cons] at ih ⊢
      rw [hhead.1, ih]

/-! ### What is given back fits -/

mutual

/-- A value that a check gives back fits. -/
theorem fits_of_checkType : ∀ {type : FieldType} {options : Options} {value checked : Value},
    type.WellFormed → checkType patterns type options value = .ok checked →
      Fits patterns type options checked
  | .scalar _, _, _, _, _, h => by
      rw [checkType] at h
      obtain ⟨hfits, rfl⟩ := checkScalar_eq_ok_iff.1 h
      exact hfits
  | .objectId, _, _, _, _, h => by
      rw [checkType] at h
      exact castObjectId_eq_ok h
  | .nested fields, _, _, _, hwell, h => by
      obtain ⟨members, results, rfl, hfields, rfl⟩ := checkType_nested_eq_ok_iff.1 h
      exact ⟨results, rfl, declared_of_checkFields (declared_keepDeclared fields members) hfields,
        fitsFields_of_checkFields hwell.2 hwell.1 hfields⟩
  | .array element, _, _, _, hwell, h => by
      obtain ⟨items, results, rfl, hitems, rfl⟩ := checkType_array_eq_ok_iff.1 h
      refine ⟨results, rfl, fun result hmem => ?_⟩
      obtain ⟨item, -, hitem⟩ := exists_of_mem_right hitems hmem
      have helement : element.WellFormed := hwell
      exact fits_of_checkType helement hitem
  | .map values, _, _, _, hwell, h => by
      obtain ⟨members, results, rfl, hentries, rfl⟩ := checkType_map_eq_ok_iff.1 h
      refine ⟨results, rfl, fun result hmem => ?_⟩
      obtain ⟨member, -, hname, hkey, hvalue⟩ := exists_of_mem_right hentries hmem
      rw [← hname] at hkey
      refine ⟨hkey, ?_⟩
      rcases hvalue with ⟨hnull, -, hrequired⟩ | hcheck
      · exact .inl ⟨hnull, hrequired⟩
      · exact .inr (fits_of_checkField hwell hcheck)

/-- A value that a check of a field gives back fits the field. -/
theorem fits_of_checkField : ∀ {field : FieldOf FieldType} {value checked : Value},
    FieldType.WellFormedField field → checkField patterns field value = .ok checked →
      FitsField patterns field checked
  | ⟨_, _, _, _⟩, _, _, hwell, h => fits_of_checkType hwell.2 h

/-- The values that a check of fields gives back fit the fields. -/
theorem fitsFields_of_checkFields : ∀ {fields : List (String × FieldOf FieldType)}
    {values checked : List (String × Value)}, FieldType.WellFormedFields fields →
      Entries.Distinct fields → checkFields patterns fields values = .ok checked →
        FitsFields patterns fields checked
  | [], _, _, _, _, _ => trivial
  | (name, field) :: rest, values, checked, hwell, hdistinct, h => by
      obtain ⟨middle, hslot, hrest⟩ := checkFields_cons_eq_ok_iff.1 h
      simp only [Entries.Distinct, Entries.names, List.map_cons, List.nodup_cons] at hdistinct
      have hfield : FitsSlot name field.required field.options (FitsField patterns field) middle :=
        fitsSlot_of_checkSlot (fun _ _ hcheck => fits_of_checkField hwell.1 hcheck) hslot
      exact ⟨hfield.congr (find?_of_checkFields hrest hdistinct.1),
        fitsFields_of_checkFields hwell.2 hdistinct.2 hrest⟩

end

/-! ### What fits is given back unchanged -/

mutual

/-- A value that fits is given back as it is. -/
theorem checkType_of_fits : ∀ {type : FieldType} {options : Options} {value : Value},
    Fits patterns type options value → checkType patterns type options value = .ok value
  | .scalar _, _, _, h => by
      rw [checkType]
      exact checkScalar_eq_ok_iff.2 ⟨h, rfl⟩
  | .objectId, _, _, h => by
      obtain ⟨id, rfl⟩ := h
      rfl
  | .nested fields, _, _, h => by
      obtain ⟨members, rfl, hdeclared, hfits⟩ := h
      have hkept : keepDeclared fields members = members := keepDeclared_eq_self hdeclared
      refine checkType_nested_eq_ok_iff.2 ⟨members, members, rfl, ?_, rfl⟩
      rw [hkept]
      exact checkFields_of_fits hfits
  | .array element, _, _, h => by
      obtain ⟨items, rfl, hfits⟩ := h
      refine checkType_array_eq_ok_iff.2 ⟨items, items, rfl, ?_, rfl⟩
      exact List.forall₂_same.2 fun item hmem => checkType_of_fits (hfits item hmem)
  | .map values, _, _, h => by
      obtain ⟨members, rfl, hfits⟩ := h
      refine checkType_map_eq_ok_iff.2 ⟨members, members, rfl, ?_, rfl⟩
      apply List.forall₂_same.2
      intro member hmem
      obtain ⟨hkey, hvalue⟩ := hfits member hmem
      refine ⟨rfl, hkey, ?_⟩
      rcases hvalue with ⟨hnull, hrequired⟩ | hfield
      · exact .inl ⟨hnull, hnull, hrequired⟩
      · exact .inr (checkField_of_fits hfield)

/-- A value that fits a field is given back as it is. -/
theorem checkField_of_fits : ∀ {field : FieldOf FieldType} {value : Value},
    FitsField patterns field value → checkField patterns field value = .ok value
  | ⟨_, _, _, _⟩, _, h => checkType_of_fits h

/-- Values that fit the fields are given back as they are. -/
theorem checkFields_of_fits : ∀ {fields : List (String × FieldOf FieldType)}
    {values : List (String × Value)}, FitsFields patterns fields values →
      checkFields patterns fields values = .ok values
  | [], _, _ => rfl
  | (_, field) :: _, values, h => by
      refine checkFields_cons_eq_ok_iff.2 ⟨values, ?_, checkFields_of_fits h.2⟩
      exact checkSlot_of_fitsSlot (fun _ hfits => checkField_of_fits hfits)
        (not_fitsField_null field) h.1

end

/-- The check of a document gives values that conform. -/
theorem conforms_of_validate {fields : Fields} {values checked : List (String × Value)}
    (hwell : fields.WellFormed) (h : validate patterns fields values = .ok checked) :
    Conforms patterns fields checked :=
  ⟨declared_of_checkFields (declared_keepDeclared fields values) h,
    fitsFields_of_checkFields hwell.each hwell.distinct h⟩

/-- Values conform exactly if the check of a document gives them back as they are. -/
theorem conforms_iff {fields : Fields} {values : List (String × Value)}
    (hwell : fields.WellFormed) :
    Conforms patterns fields values ↔ validate patterns fields values = .ok values := by
  constructor
  · intro h
    rw [validate, keepDeclared_eq_self h.declared]
    exact checkFields_of_fits h.fits
  · exact conforms_of_validate hwell

/-! ### Well-formed trees -/

mutual

theorem wellFormed_of_checkType : ∀ {type : FieldType} {options : Options} {value checked : Value},
    type.WellFormed → value.WellFormed → checkType patterns type options value = .ok checked →
      checked.WellFormed
  | .scalar _, _, _, _, _, hvalue, h => by
      rw [checkType] at h
      obtain ⟨-, rfl⟩ := checkScalar_eq_ok_iff.1 h
      exact hvalue
  | .objectId, _, _, _, _, _, h => by
      rw [checkType] at h
      obtain ⟨id, rfl⟩ := castObjectId_eq_ok h
      trivial
  | .nested fields, _, _, _, hwell, hvalue, h => by
      obtain ⟨members, results, rfl, hfields, rfl⟩ := checkType_nested_eq_ok_iff.1 h
      exact wellFormed_of_checkFields hwell.2 (distinct_keepDeclared fields hvalue.1)
        (wellFormed_keepDeclared fields hvalue.2) hfields
  | .array element, _, _, _, hwell, hvalue, h => by
      obtain ⟨items, results, rfl, hitems, rfl⟩ := checkType_array_eq_ok_iff.1 h
      apply Value.wellFormedList_iff.2
      intro result hmem
      obtain ⟨item, hitem, hcheck⟩ := exists_of_mem_right hitems hmem
      have helement : element.WellFormed := hwell
      exact wellFormed_of_checkType helement (Value.wellFormedList_iff.1 hvalue item hitem) hcheck
  | .map values, _, _, _, hwell, hvalue, h => by
      obtain ⟨members, results, rfl, hentries, rfl⟩ := checkType_map_eq_ok_iff.1 h
      refine ⟨?_, Value.wellFormedMembers_iff.2 fun result hmem => ?_⟩
      · have hnames : Entries.names results = Entries.names members := names_eq_of_forall₂ hentries
        rw [Entries.Distinct, hnames]
        exact hvalue.1
      · obtain ⟨member, hmember, -, -, hcheck⟩ := exists_of_mem_right hentries hmem
        have hvalue := Value.wellFormedMembers_iff.1 hvalue.2 member hmember
        rcases hcheck with ⟨hnull, -, -⟩ | hcheck
        · rw [hnull]
          trivial
        · exact wellFormed_of_checkField hwell hvalue hcheck

theorem wellFormed_of_checkField : ∀ {field : FieldOf FieldType} {value checked : Value},
    FieldType.WellFormedField field → value.WellFormed →
      checkField patterns field value = .ok checked → checked.WellFormed
  | ⟨_, _, _, _⟩, _, _, hwell, hvalue, h => wellFormed_of_checkType hwell.2 hvalue h

theorem wellFormed_of_checkFields : ∀ {fields : List (String × FieldOf FieldType)}
    {values checked : List (String × Value)}, FieldType.WellFormedFields fields →
      Entries.Distinct values → Value.WellFormedMembers values →
        checkFields patterns fields values = .ok checked →
          Entries.Distinct checked ∧ Value.WellFormedMembers checked
  | [], _, _, _, hdistinct, hvalues, h => by
      rw [checkFields] at h
      cases h
      exact ⟨hdistinct, hvalues⟩
  | (name, field) :: _, values, _, hwell, hdistinct, hvalues, h => by
      obtain ⟨middle, hslot, hrest⟩ := checkFields_cons_eq_ok_iff.1 h
      obtain ⟨value, result, hfound, hcheck, rfl⟩ | ⟨-, -, rfl⟩ := checkSlot_eq_ok_iff.1 hslot
      · have hvalue : value.WellFormed := by
          rcases slotValue?_cases (FieldType.wellFormed_options hwell.1) hfound with
            ⟨json, hjson, rfl⟩ | hmem
          · exact Value.wellFormed_ofJson hjson
          · exact Value.wellFormedMembers_iff.1 hvalues _ hmem
        have hresult : result.WellFormed := wellFormed_of_checkField hwell.1 hvalue hcheck
        refine wellFormed_of_checkFields hwell.2 (Entries.distinct_write hdistinct name result) ?_
          hrest
        apply Value.wellFormedMembers_iff.2
        intro member hmem
        rcases Entries.mem_write hmem with rfl | hmem
        · exact hresult
        · exact Value.wellFormedMembers_iff.1 hvalues member hmem
      · exact wellFormed_of_checkFields hwell.2 hdistinct hvalues hrest

end

end Validation

end TypedCollections
