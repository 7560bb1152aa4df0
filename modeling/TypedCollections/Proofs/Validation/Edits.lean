import TypedCollections.Proofs.ObjectId
import TypedCollections.Proofs.Validation.Results
import TypedCollections.Proofs.Validation.Slots
/-!
# What a check changes

A check that succeeds gives back the values it was given, with three kinds of edits: undeclared
members of objects are left out, missing and null members are filled in with their defaults, and
where an identifier belongs it takes the place of what denotes it. The edits are said here of the
definition and the two values alone. What is left to be said is that nothing else happens:
everything stays in its place, and the edits leave no choice, so there is one result for each value.
-/

namespace TypedCollections

/-- The identifier that a value denotes: the value itself, or what its 24 digits or the document
loaded in its place say. -/
inductive Value.Denotes : Value → ObjectId → Prop where
  | identifier (id : ObjectId) : Denotes (.objectId id) id
  | text (id : ObjectId) : Denotes (.string id.hex) id
  | document (id : ObjectId) (fields populated : List (String × Value)) :
      Denotes (.document id fields populated) id

namespace Validation

/-- A declared field is supplied with the value given to it or, if that is missing or null, with its
default. -/
inductive Supplied (name : String) (options : Options) (values : List (String × Value)) :
    Value → Prop where
  | given {value : Value} (hfind : Entries.find? values name = some value)
      (hvalue : value ≠ .null) : Supplied name options values value
  | default {json : Json} (hmissing : Missing name values)
      (hdefault : Entries.find? options defaultOption = some json) :
      Supplied name options values (.ofJson json)

/-- The fields that are filled in at the end: those with a default that are not among the values. -/
def filledIn (fields : Fields) (values : List (String × Value)) : Fields :=
  fields.filter fun field =>
    !Entries.has values field.1 && Entries.has field.2.options defaultOption

/-- The declared names stand in the order in which they were given, and those filled in follow in
declared order. -/
def Layout (fields : Fields) (values results : List (String × Value)) : Prop :=
  Entries.names results
    = (Entries.names values).filter (Entries.has fields) ++ Entries.names (filledIn fields values)

/-- Under the name of a field stands the edited value that the field is supplied with. Without such
a value nothing is changed. -/
def EditedSlot (name : String) (options : Options) (edited : Value → Value → Prop)
    (values results : List (String × Value)) : Prop :=
  (∃ value result, Supplied name options values value ∧ edited value result ∧
    Entries.find? results name = some result) ∨
  (∀ value, ¬ Supplied name options values value) ∧
    Entries.find? results name = Entries.find? values name

/-- A value of a map is null and stays so, or is edited. -/
def EditedEntry (edited : Value → Value → Prop) (value result : Value) : Prop :=
  value = .null ∧ result = .null ∨ value ≠ .null ∧ edited value result

mutual

/-- The result comes from the value by the edits that a type asks for. -/
def Edited : FieldType → Value → Value → Prop
  | .scalar _, value, result => result = value
  | .objectId, value, result => ∃ id, value.Denotes id ∧ result = .objectId id
  | .nested fields, value, result =>
      ∃ members results, value = .object members ∧ result = .object results ∧
        Layout fields members results ∧ EditedFields fields members results
  | .array element, value, result =>
      ∃ items results, value = .array items ∧ result = .array results ∧
        List.Forall₂ (Edited element) items results
  | .map values, value, result =>
      ∃ members results, value = .object members ∧ result = .object results ∧
        List.Forall₂ (fun member result => result.1 = member.1 ∧
          EditedEntry (EditedField values) member.2 result.2) members results

/-- The result comes from the value by the edits that the type of a field asks for. -/
def EditedField : FieldOf FieldType → Value → Value → Prop
  | ⟨type, _, _, _⟩, value, result => Edited type value result

/-- The value under the name of each field is edited. -/
def EditedFields : List (String × FieldOf FieldType) → List (String × Value) →
    List (String × Value) → Prop
  | [], _, _ => True
  | (name, field) :: rest, values, results =>
      EditedSlot name field.options (EditedField field) values results ∧
        EditedFields rest values results

end

/-- The values of a document with nothing but the edits that a definition asks for. -/
structure EditedDocument (fields : Fields) (values results : List (String × Value)) : Prop where
  layout : Layout fields values results
  fields : EditedFields fields values results

variable {patterns : Patterns}

/-! ### Identifiers and slots -/

theorem castObjectId_eq_ok_iff {value checked : Value} :
    castObjectId value = .ok checked ↔ ∃ id, value.Denotes id ∧ checked = .objectId id := by
  constructor
  · intro h
    unfold castObjectId at h
    split at h
    · rename_i id
      exact ⟨id, .identifier id, (Except.ok.inj h).symm⟩
    · rename_i text
      split at h
      · rename_i id hid
        rw [← ObjectId.hex_of_ofHex? hid]
        exact ⟨id, .text id, (Except.ok.inj h).symm⟩
      · cases h
    · rename_i id fields populated
      exact ⟨id, .document id fields populated, (Except.ok.inj h).symm⟩
    · cases h
  · rintro ⟨id, hdenotes, rfl⟩
    cases hdenotes with
    | identifier => rfl
    | text => simp [castObjectId]
    | document => rfl

theorem denotes_unique {value : Value} {a b : ObjectId} (ha : value.Denotes a)
    (hb : value.Denotes b) : a = b := by
  have h := castObjectId_eq_ok_iff.2 ⟨a, ha, rfl⟩
  rw [castObjectId_eq_ok_iff.2 ⟨b, hb, rfl⟩] at h
  simpa using h.symm

theorem slotValue?_of_missing {name : String} {options : Options} {values : List (String × Value)}
    (h : Missing name values) :
    slotValue? name options values = (Entries.find? options defaultOption).map Value.ofJson := by
  unfold slotValue?
  cases hfind : Entries.find? values name with
  | none => rfl
  | some value => rw [h value hfind]

theorem slotValue?_eq_some_iff {name : String} {options : Options} {values : List (String × Value)}
    {value : Value} :
    slotValue? name options values = some value ↔ Supplied name options values value := by
  by_cases hmissing : Missing name values
  · rw [slotValue?_of_missing hmissing, Option.map_eq_some_iff]
    constructor
    · rintro ⟨json, hjson, rfl⟩
      exact .default hmissing hjson
    · intro h
      cases h with
      | given hfind hvalue => exact absurd (hmissing value hfind) hvalue
      | default _ hdefault => exact ⟨_, hdefault, rfl⟩
  · obtain ⟨found, hfind, hfound⟩ : ∃ found, Entries.find? values name = some found ∧
        found ≠ .null := by
      simpa [Missing] using hmissing
    rw [slotValue?_of_find? hfind hfound, Option.some.injEq]
    constructor
    · rintro rfl
      exact .given hfind hfound
    · intro h
      cases h with
      | given hfind' _ =>
          rw [hfind] at hfind'
          exact Option.some.inj hfind'
      | default hmissing' _ => exact absurd hmissing' hmissing

theorem slotValue?_eq_none_iff_forall {name : String} {options : Options}
    {values : List (String × Value)} :
    slotValue? name options values = none ↔ ∀ value, ¬ Supplied name options values value := by
  rw [Option.eq_none_iff_forall_ne_some]
  exact forall_congr' fun value => not_congr slotValue?_eq_some_iff

theorem Supplied.unique {name : String} {options : Options} {values : List (String × Value)}
    {a b : Value} (ha : Supplied name options values a) (hb : Supplied name options values b) :
    a = b := by
  have h := slotValue?_eq_some_iff.2 ha
  rw [slotValue?_eq_some_iff.2 hb] at h
  exact (Option.some.inj h).symm

theorem Supplied.wellFormed {name : String} {options : Options} {values : List (String × Value)}
    {value : Value} (hoptions : Json.WellFormedMembers options)
    (hvalues : Value.WellFormedMembers values) (h : Supplied name options values value) :
    value.WellFormed := by
  obtain ⟨json, hjson, rfl⟩ | hmem := slotValue?_cases hoptions (slotValue?_eq_some_iff.2 h)
  · exact Value.wellFormed_ofJson hjson
  · exact Value.wellFormedMembers_iff.1 hvalues _ hmem

/-- A checked field is edited as its check edits values. -/
theorem editedSlot_of_checkSlot {name : String} {required : Bool} {options : Options}
    {check : Value → Check Value} {edited : Value → Value → Prop}
    {values passed checked : List (String × Value)}
    (hsound : ∀ value result, check value = .ok result → edited value result)
    (h : checkSlot name required options check values = .ok passed)
    (hfind : Entries.find? checked name = Entries.find? passed name) :
    EditedSlot name options edited values checked := by
  obtain ⟨value, result, hvalue, hcheck, rfl⟩ | ⟨hnone, -, rfl⟩ := checkSlot_eq_ok_iff.1 h
  · rw [Entries.find?_write, if_pos rfl] at hfind
    exact .inl ⟨value, result, slotValue?_eq_some_iff.1 hvalue, hsound value result hcheck, hfind⟩
  · exact .inr ⟨slotValue?_eq_none_iff_forall.1 hnone, hfind⟩

theorem EditedSlot.unique {name : String} {options : Options} {edited : Value → Value → Prop}
    {values results others : List (String × Value)}
    (hedited : ∀ value, Supplied name options values value →
      ∀ a b, edited value a → edited value b → a = b)
    (h : EditedSlot name options edited values results)
    (h' : EditedSlot name options edited values others) :
    Entries.find? results name = Entries.find? others name := by
  obtain ⟨value, result, hvalue, hresult, hfind⟩ | ⟨hnone, hfind⟩ := h
  · obtain ⟨value', result', hvalue', hresult', hfind'⟩ | ⟨hnone', -⟩ := h'
    · cases hvalue.unique hvalue'
      rw [hfind, hfind', hedited value hvalue result result' hresult hresult']
    · exact absurd hvalue (hnone' value)
  · obtain ⟨value', -, hvalue', -, -⟩ | ⟨-, hfind'⟩ := h'
    · exact absurd hvalue' (hnone value')
    · rw [hfind, hfind']

theorem EditedEntry.unique {edited : Value → Value → Prop} {value a b : Value}
    (hedited : ∀ a b, edited value a → edited value b → a = b)
    (ha : EditedEntry edited value a) (hb : EditedEntry edited value b) : a = b := by
  obtain ⟨hnull, rfl⟩ | ⟨hne, ha⟩ := ha
  · obtain ⟨-, rfl⟩ | ⟨hne, -⟩ := hb
    · rfl
    · exact absurd hnull hne
  · obtain ⟨hnull, -⟩ | ⟨-, hb⟩ := hb
    · exact absurd hnull hne
    · exact hedited a b ha hb

/-! ### The layout of an object -/

theorem filledIn_cons (field : String × Field) (rest : Fields) (values : List (String × Value)) :
    filledIn (field :: rest) values = filledIn [field] values ++ filledIn rest values :=
  List.filter_append (p := _) [field] rest

/-- Checking a field adds its name if the field is filled in. -/
theorem names_of_checkSlot_eq {name : String} {field : Field} {check : Value → Check Value}
    {values passed : List (String × Value)}
    (h : checkSlot name field.required field.options check values = .ok passed) :
    Entries.names passed
      = Entries.names values ++ Entries.names (filledIn [(name, field)] values) := by
  obtain ⟨value, result, hvalue, -, rfl⟩ | ⟨hnone, -, rfl⟩ := checkSlot_eq_ok_iff.1 h
  · rw [Entries.names_write]
    by_cases hmem : name ∈ Entries.names values
    · have hhas : Entries.has values name = true := Entries.has_iff.2 hmem
      rw [if_pos hmem]
      simp [filledIn, hhas, Entries.names]
    · -- What is not given is filled in, so there is a default.
      have hhas : Entries.has values name = false := by simpa [← Entries.has_iff] using hmem
      have hdefault : Entries.has field.options defaultOption = true := by
        cases slotValue?_eq_some_iff.1 hvalue with
        | given hfind _ => simp [Entries.has, hfind] at hhas
        | default _ hdefault => simp [Entries.has, hdefault]
      rw [if_neg hmem]
      simp [filledIn, hhas, hdefault, Entries.names]
  · have hdefault : Entries.has field.options defaultOption = false := by
      simp [Entries.has, (slotValue?_eq_none_iff.1 hnone).2]
    simp [filledIn, hdefault, Entries.names]

/-- A check of fields adds the names of those that are filled in, in declared order. -/
theorem names_of_checkFields_eq {fields : Fields} (hdistinct : Entries.Distinct fields)
    {values checked : List (String × Value)}
    (h : checkFields patterns fields values = .ok checked) :
    Entries.names checked = Entries.names values ++ Entries.names (filledIn fields values) := by
  induction fields generalizing values with
  | nil =>
      rw [checkFields] at h
      cases h
      exact (List.append_nil _).symm
  | cons head rest ih =>
      obtain ⟨name, field⟩ := head
      have hrest : Entries.Distinct rest := (List.nodup_cons.1 hdistinct).2
      obtain ⟨middle, hslot, hchecked⟩ := checkFields_cons_eq_ok_iff.1 h
      -- For the later fields it makes no difference that this one was checked first.
      have hlater : filledIn rest middle = filledIn rest values := by
        apply List.filter_congr
        rintro ⟨other, declared⟩ hmem
        simp only [Entries.has, find?_of_checkSlot hslot (name_ne_of_mem hdistinct hmem)]
      rw [ih hrest hchecked, hlater, names_of_checkSlot_eq hslot, filledIn_cons (name, field) rest]
      simp [Entries.names]

/-- What is filled in does not depend on undeclared names. -/
theorem filledIn_keepDeclared (fields : Fields) (values : List (String × Value)) :
    filledIn fields (keepDeclared fields values) = filledIn fields values := by
  apply List.filter_congr
  rintro ⟨name, field⟩ hmem
  have hname : name ∈ Entries.names fields := List.mem_map_of_mem hmem
  simp only [Entries.has, find?_keepDeclared hname]

theorem layout_of_checkFields {fields : Fields} (hdistinct : Entries.Distinct fields)
    {values checked : List (String × Value)}
    (h : checkFields patterns fields (keepDeclared fields values) = .ok checked) :
    Layout fields values checked := by
  rw [Layout, names_of_checkFields_eq hdistinct h, names_keepDeclared, filledIn_keepDeclared]

/-- Only declared names stand in a result. -/
theorem Layout.mem_names {fields : Fields} {values results : List (String × Value)}
    (h : Layout fields values results) {name : String} (hmem : name ∈ Entries.names results) :
    name ∈ Entries.names fields := by
  rw [h, List.mem_append] at hmem
  rcases hmem with hmem | hmem
  · exact Entries.has_iff.1 (List.mem_filter.1 hmem).2
  · obtain ⟨field, hfield, rfl⟩ := List.mem_map.1 hmem
    exact List.mem_map_of_mem (List.mem_filter.1 hfield).1

theorem Layout.distinct {fields : Fields} {values results : List (String × Value)}
    (hfields : Entries.Distinct fields) (hvalues : Entries.Distinct values)
    (h : Layout fields values results) : Entries.Distinct results := by
  rw [Entries.Distinct, h, List.nodup_append]
  refine ⟨List.Pairwise.filter _ hvalues, ?_, ?_⟩
  · exact List.Nodup.sublist (List.Sublist.map _ List.filter_sublist) hfields
  · rintro name hgiven other hfilled rfl
    obtain ⟨field, hfield, rfl⟩ := List.mem_map.1 hfilled
    have hhas : Entries.has values field.1 = true := Entries.has_iff.2 (List.mem_filter.1 hgiven).1
    simpa [hhas] using (List.mem_filter.1 hfield).2

/-! ### A check edits -/

mutual

theorem edited_of_checkType : ∀ {type : FieldType} {options : Options} {value checked : Value},
    type.WellFormed → checkType patterns type options value = .ok checked →
      Edited type value checked
  | .scalar _, _, _, _, _, h => by
      rw [checkType] at h
      exact (checkScalar_eq_ok_iff.1 h).2
  | .objectId, _, _, _, _, h => by
      rw [checkType] at h
      exact castObjectId_eq_ok_iff.1 h
  | .nested fields, _, _, _, hwell, h => by
      obtain ⟨members, results, rfl, hfields, rfl⟩ := checkType_nested_eq_ok_iff.1 h
      exact ⟨members, results, rfl, rfl, layout_of_checkFields hwell.1 hfields,
        editedFields_of_passesEach hwell.2 (passesEach_of_kept hwell.1 hfields)⟩
  | .array element, _, _, _, hwell, h => by
      obtain ⟨items, results, rfl, hitems, rfl⟩ := checkType_array_eq_ok_iff.1 h
      have helement : element.WellFormed := hwell
      refine ⟨items, results, rfl, rfl, hitems.imp ?_⟩
      exact fun _ _ hitem => edited_of_checkType helement hitem
  | .map values, _, _, _, hwell, h => by
      obtain ⟨members, results, rfl, hentries, rfl⟩ := checkType_map_eq_ok_iff.1 h
      refine ⟨members, results, rfl, rfl, hentries.imp ?_⟩
      rintro member result ⟨hname, -, ⟨hresult, hmember, -⟩ | hcheck⟩
      · exact ⟨hname, .inl ⟨hmember, hresult⟩⟩
      · have hne : member.2 ≠ .null := by
          intro hnull
          rw [hnull] at hcheck
          exact checkField_null values _ hcheck
        exact ⟨hname, .inr ⟨hne, editedField_of_checkField hwell hcheck⟩⟩

theorem editedField_of_checkField : ∀ {field : FieldOf FieldType} {value checked : Value},
    FieldType.WellFormedField field → checkField patterns field value = .ok checked →
      EditedField field value checked
  | ⟨_, _, _, _⟩, _, _, hwell, h => edited_of_checkType hwell.2 h

theorem editedFields_of_passesEach : ∀ {fields : List (String × FieldOf FieldType)}
    {values checked : List (String × Value)}, FieldType.WellFormedFields fields →
      PassesEach patterns fields values checked → EditedFields fields values checked
  | [], _, _, _, _ => trivial
  | (name, field) :: _, _, _, hwell, h => by
      obtain ⟨passed, hpassed, hfind⟩ := h name field (List.mem_cons_self ..)
      exact ⟨editedSlot_of_checkSlot (fun _ _ => editedField_of_checkField hwell.1) hpassed hfind,
        editedFields_of_passesEach hwell.2 h.tail⟩

end

/-! ### Edits leave no choice -/

private theorem eq_of_forall₂ {α β : Type} {R : α → β → Prop} {items : List α}
    {results others : List β}
    (hunique : ∀ item ∈ items, ∀ a b, R item a → R item b → a = b)
    (h : List.Forall₂ R items results) (h' : List.Forall₂ R items others) : results = others := by
  induction h generalizing others with
  | nil =>
      cases h'
      rfl
  | cons hhead _ ih =>
      cases h' with
      | cons hhead' hrest' =>
          rw [hunique _ (List.mem_cons_self ..) _ _ hhead hhead',
            ih (fun item hmem => hunique item (List.mem_cons_of_mem _ hmem)) hrest']

mutual

theorem edited_unique : ∀ {type : FieldType} {value a b : Value}, type.WellFormed →
    value.WellFormed → Edited type value a → Edited type value b → a = b
  | .scalar _, _, _, _, _, _, ha, hb => ha.trans hb.symm
  | .objectId, _, _, _, _, _, ha, hb => by
      obtain ⟨id, hid, rfl⟩ := ha
      obtain ⟨id', hid', rfl⟩ := hb
      rw [denotes_unique hid hid']
  | .nested fields, _, _, _, hwell, hvalue, ha, hb => by
      obtain ⟨members, results, rfl, rfl, hlayout, hedited⟩ := ha
      obtain ⟨members', others, heq, rfl, hlayout', hedited'⟩ := hb
      cases heq
      have hdistinct : Entries.Distinct results := hlayout.distinct hwell.1 hvalue.1
      rw [Entries.ext_find? (hlayout.trans hlayout'.symm) hdistinct fun name hmem =>
        find?_unique hwell.2 hvalue.2 hedited hedited' name (hlayout.mem_names hmem)]
  | .array element, _, _, _, hwell, hvalue, ha, hb => by
      obtain ⟨items, results, rfl, rfl, hitems⟩ := ha
      obtain ⟨items', others, heq, rfl, hitems'⟩ := hb
      cases heq
      have helement : element.WellFormed := hwell
      have hresults : results = others := by
        refine eq_of_forall₂ ?_ hitems hitems'
        intro item hmem a b
        exact edited_unique helement (Value.wellFormedList_iff.1 hvalue item hmem)
      rw [hresults]
  | .map values, _, _, _, hwell, hvalue, ha, hb => by
      obtain ⟨members, results, rfl, rfl, hentries⟩ := ha
      obtain ⟨members', others, heq, rfl, hentries'⟩ := hb
      cases heq
      have hresults : results = others := by
        refine eq_of_forall₂ ?_ hentries hentries'
        rintro member hmem a b ⟨hname, ha⟩ ⟨hname', hb⟩
        have hmember : member.2.WellFormed := Value.wellFormedMembers_iff.1 hvalue.2 member hmem
        exact Prod.ext (hname.trans hname'.symm)
          (ha.unique (fun _ _ => editedField_unique hwell hmember) hb)
      rw [hresults]

theorem editedField_unique : ∀ {field : FieldOf FieldType} {value a b : Value},
    FieldType.WellFormedField field → value.WellFormed → EditedField field value a →
      EditedField field value b → a = b
  | ⟨_, _, _, _⟩, _, _, _, hwell, hvalue, ha, hb => edited_unique hwell.2 hvalue ha hb

/-- Edited fields hold the same under each declared name. -/
theorem find?_unique : ∀ {fields : List (String × FieldOf FieldType)}
    {values results others : List (String × Value)}, FieldType.WellFormedFields fields →
      Value.WellFormedMembers values → EditedFields fields values results →
        EditedFields fields values others → ∀ name ∈ Entries.names fields,
          Entries.find? results name = Entries.find? others name
  | [], _, _, _, _, _, _, _, _, hmem => by cases hmem
  | (name, field) :: _, values, _, _, hwell, hvalues, h, h', other, hmem => by
      rcases List.mem_cons.1 hmem with rfl | hmem
      · have hoptions := FieldType.wellFormed_options hwell.1
        refine EditedSlot.unique ?_ h.1 h'.1
        intro value hvalue a b ha hb
        exact editedField_unique hwell.1 (hvalue.wellFormed hoptions hvalues) ha hb
      · exact find?_unique hwell.2 hvalues h.2 h'.2 other hmem

end

theorem EditedDocument.unique {fields : Fields} {values results others : List (String × Value)}
    (hfields : fields.WellFormed) (hvalues : (Value.object values).WellFormed)
    (h : EditedDocument fields values results) (h' : EditedDocument fields values others) :
    results = others :=
  Entries.ext_find? (h.layout.trans h'.layout.symm) (h.layout.distinct hfields.distinct hvalues.1)
    fun name hmem => find?_unique hfields.each hvalues.2 h.fields h'.fields name
      (h.layout.mem_names hmem)

/-- What a check gives back comes from the values by edits alone: undeclared members are left out,
missing and null ones are filled in with their edited defaults, identifiers take the place of what
denotes them, and all else stays as it is and where it is. No other result comes from the values by
edits, and no object in it names a member twice. -/
theorem only_edits_of_validate {fields : Fields} {values checked : List (String × Value)}
    (hfields : fields.WellFormed) (hvalues : (Value.object values).WellFormed)
    (h : validate patterns fields values = .ok checked) :
    EditedDocument fields values checked ∧
      (∀ other, EditedDocument fields values other → other = checked) ∧
      (Value.object checked).WellFormed := by
  have hedited : EditedDocument fields values checked :=
    ⟨layout_of_checkFields hfields.distinct h,
      editedFields_of_passesEach hfields.each (passesEach_of_kept hfields.distinct h)⟩
  refine ⟨hedited, fun other hother => hother.unique hfields hvalues hedited, ?_⟩
  exact wellFormed_of_checkFields hfields.each (distinct_keepDeclared fields hvalues.1)
    (wellFormed_keepDeclared fields hvalues.2) h

end Validation

theorem Sample.wellFormed_givenAccount : (Value.object Sample.givenAccount).WellFormed := by
  simp [Value.WellFormed, Value.WellFormedMembers, Value.WellFormedList, Sample.givenAccount,
    Entries.Distinct, Entries.names]

theorem Validation.only_edits_of_accounts :
    EditedDocument Sample.accounts Sample.givenAccount Sample.keptAccount ∧
      (∀ other, EditedDocument Sample.accounts Sample.givenAccount other →
        other = Sample.keptAccount) ∧
      (Value.object Sample.keptAccount).WellFormed :=
  only_edits_of_validate Sample.wellFormed_accounts Sample.wellFormed_givenAccount
    Sample.validate_accounts

end TypedCollections
