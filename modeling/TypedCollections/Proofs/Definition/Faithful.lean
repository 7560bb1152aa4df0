import TypedCollections.Proofs.Definition.Printed
import TypedCollections.Proofs.Json.Unambiguous
import TypedCollections.Proofs.Schema
/-!
# Definitions are told apart by their text

The JSON form of a field is an object of the members that the definition writes itself, with the
options behind them. The compiler refuses options of these names, so that no option takes the place
of such a member, at any depth, and the two parts can be told apart. Nothing of a compiled definition
is lost in its text then, and nothing of a schema in what its fingerprint is the digest of.
-/

namespace TypedCollections

namespace FieldType

mutual

/-- The fields inside a type, at any depth. -/
def inner : FieldType → List Field
  | .nested fields => innerFields fields
  | .array element => inner element
  | .map values => innerField values
  | _ => []

def innerField : FieldOf FieldType → List Field
  | ⟨type, required, reference, options⟩ => ⟨type, required, reference, options⟩ :: inner type

def innerFields : List (String × FieldOf FieldType) → List Field
  | [] => []
  | (_, field) :: rest => innerField field ++ innerFields rest

end

theorem mem_innerFields {fields : Fields} {field : Field} :
    field ∈ innerFields fields ↔ ∃ outer ∈ fields, field ∈ innerField outer.2 := by
  induction fields with
  | nil => simp [innerFields]
  | cons head rest ih =>
      obtain ⟨name, outer⟩ := head
      simp [innerFields, ih]

end FieldType

/-- All fields of a definition, at any depth. -/
def Fields.all (fields : Fields) : List Field := FieldType.innerFields fields

/-- No option has a name that definitions write themselves, and none is given twice. -/
structure Options.Unreserved (options : Options) : Prop where
  distinct : Entries.Distinct options
  free : ∀ key ∈ reservedOptions, key ∉ Entries.names options

theorem Options.unreserved_nil : Options.Unreserved [] :=
  ⟨by simp [Entries.Distinct, Entries.names], by simp [Entries.names]⟩

/-- The member for the collection that a field refers to. -/
def referenceMembers : Option String → List (String × Json)
  | none => []
  | some collection => [("ref", .string collection)]

/-- The members that a definition itself writes for a field. -/
def FieldOf.ownMembers (field : Field) : List (String × Json) :=
  typeMembers field.type ++ ("required", .bool field.required) :: referenceMembers field.reference

private theorem mem_reservedOptions {field : Field} {name : String}
    (h : name ∈ Entries.names field.ownMembers) : name ∈ reservedOptions := by
  have htype : ∀ name ∈ Entries.names (typeMembers field.type), name ∈ reservedOptions := by
    cases field.type <;> simp [typeMembers, Entries.names, reservedOptions]
  have hreference : ∀ name ∈ Entries.names (referenceMembers field.reference),
      name ∈ reservedOptions := by
    cases field.reference <;> simp [referenceMembers, Entries.names, reservedOptions]
  rw [FieldOf.ownMembers, Entries.names, List.map_append, List.map_cons, List.mem_append,
    List.mem_cons] at h
  rcases h with h | rfl | h
  · exact htype name h
  · simp [reservedOptions]
  · exact hreference name h

private theorem distinct_ownMembers (field : Field) : Entries.Distinct field.ownMembers := by
  have hdistinct := distinct_fieldMembers field.type field.required field.reference
  unfold FieldOf.ownMembers
  cases hreference : field.reference <;> rw [hreference] at hdistinct <;> exact hdistinct

/-- The options of a field stand behind the members that the definition writes itself. -/
theorem fieldToJson_eq {field : Field} (h : field.options.Unreserved) :
    fieldToJson field = .object (field.ownMembers ++ field.options) := by
  have hdistinct : (Entries.names (field.ownMembers ++ field.options)).Nodup := by
    rw [Entries.names, List.map_append, List.nodup_append]
    refine ⟨distinct_ownMembers field, h.distinct, ?_⟩
    rintro name hown _ hoption rfl
    exact h.free name (mem_reservedOptions hown) hoption
  rw [← Entries.writeAll_eq_append hdistinct]
  obtain ⟨type, required, reference, options⟩ := field
  rw [fieldToJson.eq_def]
  cases reference <;> rfl

/-- No option takes the place of a member that the definition writes itself. -/
theorem find?_ownMembers_append {field : Field} (h : field.options.Unreserved) {key : String}
    (hkey : key ∈ reservedOptions) :
    Entries.find? (field.ownMembers ++ field.options) key = Entries.find? field.ownMembers key := by
  have hnone := Entries.find?_eq_none_iff.2 (h.free key hkey)
  induction field.ownMembers with
  | nil => exact hnone
  | cons member rest ih => rw [List.cons_append, Entries.find?_cons, Entries.find?_cons, ih]

/-! ### Reading a definition off its JSON form -/

/-- A map is told from the other types by the second member. -/
private theorem typeMembers_append_inj {a b : FieldType} {required required' : Json}
    {front back : List (String × Json)}
    (h : typeMembers a ++ ("required", required) :: front
      = typeMembers b ++ ("required", required') :: back) :
    a.toJson = b.toJson ∧ required = required' ∧ front = back := by
  cases a <;> cases b <;> simp_all [typeMembers, FieldType.toJson]

private theorem referenceMembers_append_inj {a b : Option String} {front back : Options}
    (hfront : "ref" ∉ Entries.names front) (hback : "ref" ∉ Entries.names back)
    (h : referenceMembers a ++ front = referenceMembers b ++ back) : a = b ∧ front = back := by
  cases a with
  | none =>
      cases b with
      | none => exact ⟨rfl, h⟩
      | some collection =>
          rw [show front = ("ref", Json.string collection) :: back from h] at hfront
          exact absurd (List.mem_cons_self ..) hfront
  | some collection =>
      cases b with
      | none =>
          rw [show back = ("ref", Json.string collection) :: front from h.symm] at hback
          exact absurd (List.mem_cons_self ..) hback
      | some other => simpa [referenceMembers] using h

namespace FieldType

/-- The form of a map is no object of fields: those are objects in their turn. -/
private theorem toJson_map_ne_nested (values : Field) (fields : Fields) :
    (FieldType.map values).toJson ≠ (FieldType.nested fields).toJson := by
  intro h
  match fields with
  | [] => simp [toJson, fieldsToMembers] at h
  | (name, ⟨type, required, reference, options⟩) :: rest =>
      simp [toJson, fieldsToMembers, fieldToJson] at h

mutual

-- The induction is on the first type, with the second one arbitrary.
theorem toJson_inj : ∀ {a b : FieldType}, (∀ field ∈ a.inner, field.options.Unreserved) →
    (∀ field ∈ b.inner, field.options.Unreserved) → a.toJson = b.toJson → a = b
  | .scalar kind, b, _, _, h => by
      cases b with
      | scalar other => cases kind <;> cases other <;> simp_all [toJson, ScalarKind.typeName]
      | objectId => cases kind <;> simp [toJson, ScalarKind.typeName] at h
      | _ => simp [toJson] at h
  | .objectId, b, _, _, h => by
      cases b with
      | scalar other => cases other <;> simp [toJson, ScalarKind.typeName] at h
      | objectId => rfl
      | _ => simp [toJson] at h
  | .nested fields, b, ha, hb, h => by
      cases b with
      | nested others =>
          simp only [toJson, Json.object.injEq] at h
          rw [fieldsToMembers_inj ha hb h]
      | map values => exact absurd h.symm (toJson_map_ne_nested values fields)
      | _ => simp [toJson] at h
  | .array element, b, ha, hb, h => by
      cases b with
      | array other =>
          simp only [toJson, Json.array.injEq, List.cons.injEq, and_true] at h
          rw [@toJson_inj element other ha hb h]
      | _ => simp [toJson] at h
  | .map values, b, ha, hb, h => by
      cases b with
      | map others =>
          simp only [toJson, Json.object.injEq, List.cons.injEq, Prod.mk.injEq, true_and,
            and_true] at h
          rw [fieldToJson_inj ha hb h]
      | nested fields => exact absurd h (toJson_map_ne_nested values fields)
      | _ => simp [toJson] at h

theorem fieldToJson_inj : ∀ {a b : FieldOf FieldType},
    (∀ field ∈ innerField a, field.options.Unreserved) →
    (∀ field ∈ innerField b, field.options.Unreserved) → fieldToJson a = fieldToJson b → a = b
  | ⟨type, required, reference, options⟩, ⟨type', required', reference', options'⟩, ha, hb, h => by
      have hfield := ha _ (List.mem_cons_self ..)
      have hfield' := hb _ (List.mem_cons_self ..)
      rw [fieldToJson_eq hfield, fieldToJson_eq hfield', Json.object.injEq, FieldOf.ownMembers,
        FieldOf.ownMembers, List.append_assoc, List.append_assoc] at h
      obtain ⟨htype, hrequired, hrest⟩ := typeMembers_append_inj h
      obtain ⟨rfl, rfl⟩ := referenceMembers_append_inj (hfield.free "ref" (by decide))
        (hfield'.free "ref" (by decide)) hrest
      cases hrequired
      rw [toJson_inj (fun field hmem => ha field (List.mem_cons_of_mem _ hmem))
        (fun field hmem => hb field (List.mem_cons_of_mem _ hmem)) htype]

theorem fieldsToMembers_inj : ∀ {a b : List (String × FieldOf FieldType)},
    (∀ field ∈ innerFields a, field.options.Unreserved) →
    (∀ field ∈ innerFields b, field.options.Unreserved) →
    fieldsToMembers a = fieldsToMembers b → a = b
  | [], [], _, _, _ => rfl
  | [], _ :: _, _, _, h => by simp [fieldsToMembers] at h
  | _ :: _, [], _, _, h => by simp [fieldsToMembers] at h
  | (name, field) :: rest, (name', field') :: rest', ha, hb, h => by
      simp only [fieldsToMembers, List.cons.injEq, Prod.mk.injEq] at h
      obtain ⟨⟨rfl, hfield⟩, hrest⟩ := h
      simp only [innerFields, List.mem_append, or_imp, forall_and] at ha hb
      rw [fieldToJson_inj ha.1 hb.1 hfield, fieldsToMembers_inj ha.2 hb.2 hrest]

end

end FieldType

/-- Definitions with the same text are the same, if no option of them is reserved. -/
theorem Fields.text_inj {a b : Fields} (ha : ∀ field ∈ a.all, field.options.Unreserved)
    (hb : ∀ field ∈ b.all, field.options.Unreserved) (h : a.text = b.text) : a = b := by
  have hjson : a.toJson = b.toJson := Json.text_inj h
  exact FieldType.fieldsToMembers_inj ha hb (Json.object.inj hjson)

/-! ### Compiled definitions -/

namespace Compiler

private theorem unreserved_write {options : Options} (h : options.Unreserved) {key : String}
    (hkey : key ∉ reservedOptions) (value : Json) :
    Options.Unreserved (Entries.write options key value) := by
  refine ⟨Entries.distinct_write h.distinct key value, fun reserved hreserved hmem => ?_⟩
  rcases Entries.mem_names_write.1 hmem with rfl | hmem
  · exact hkey hreserved
  · exact h.free reserved hreserved hmem

private theorem unreserved_addOptions {options more result : Options} (hoptions : options.Unreserved)
    (h : addOptions options more = .ok result) : result.Unreserved := by
  induction more generalizing options with
  | nil =>
      cases h
      exact hoptions
  | cons option rest ih =>
      obtain ⟨name, value⟩ := option
      rw [addOptions] at h
      split at h
      · cases h
      · rename_i hname
        exact ih (unreserved_write hoptions hname value) h

theorem unreserved_optionsOf {notes : List Annotations} {options : Options}
    (h : optionsOf notes = .ok options) : options.Unreserved :=
  unreserved_addOptions Options.unreserved_nil h

theorem unreserved_addKeyPattern {options : Options} (h : options.Unreserved)
    (pattern : Option Json) : (addKeyPattern options pattern).Unreserved := by
  cases pattern with
  | none => exact h
  | some json => exact unreserved_write h (by decide) json

private theorem unreserved_fieldOf {node : Description} {required : Bool} {field : Field}
    (htype : ∀ type, resolve node = .ok type → ∀ inner ∈ type.inner, inner.options.Unreserved)
    (h : fieldOf node required (resolve node) = .ok field) :
    ∀ inner ∈ FieldType.innerField field, inner.options.Unreserved := by
  by_cases hnode : IsReference node
  · cases node with
    | reference target collection many notes =>
        obtain ⟨options, hoptions, rfl⟩ := referenceField_eq_ok h
        intro inner hinner
        have hinner : inner.options = options := by
          cases many <;> simp [FieldType.innerField, FieldType.inner] at hinner <;> rw [hinner]
        rw [hinner]
        exact unreserved_optionsOf hoptions
    | _ => exact hnode.elim
  · obtain ⟨type, options, hresolve, hoptions, rfl⟩ := fieldOf_eq_ok hnode h
    intro inner hinner
    rcases List.mem_cons.1 hinner with rfl | hinner
    · exact unreserved_addKeyPattern (unreserved_optionsOf hoptions) (keyPattern? node)
    · exact htype type hresolve inner hinner

mutual

-- The induction follows the compiler.
theorem unreserved_resolve : ∀ {node : Description} {type : FieldType}, resolve node = .ok type →
    ∀ field ∈ type.inner, field.options.Unreserved
  | .scalar _ _, _, h => by
      rw [resolve] at h
      cases h
      simp [FieldType.inner]
  | .object _, _, h => by
      obtain ⟨fields, hfields, rfl⟩ := resolve_object_eq_ok h
      exact unreserved_compileProperties hfields
  | .array items _, _, h => by
      obtain ⟨element, helement, rfl⟩ := resolve_array_eq_ok h
      exact @unreserved_resolve items element helement
  | .dictionary values _ _, _, h => by
      obtain ⟨field, hfield, rfl⟩ := resolve_dictionary_eq_ok h
      exact unreserved_fieldOf (fun _ => unreserved_resolve) hfield
  | .reference .., _, h => by
      rw [resolve] at h
      cases h

theorem unreserved_compileProperties : ∀ {properties : List (String × Description)}
    {declared : Option NameSet} {fields : Fields},
    compileProperties declared properties = .ok fields →
      ∀ field ∈ fields.all, field.options.Unreserved
  | [], _, _, h => by
      rw [compileProperties] at h
      cases h
      simp [Fields.all, FieldType.innerFields]
  | (_, node) :: _, _, _, h => by
      obtain ⟨-, hrest⟩ | ⟨-, field, others, hfield, hrest, rfl⟩ := compileProperties_cons_eq_ok h
      · exact unreserved_compileProperties hrest
      · intro inner hinner
        rcases List.mem_append.1 hinner with hinner | hinner
        · exact unreserved_fieldOf (fun _ => unreserved_resolve) hfield inner hinner
        · exact unreserved_compileProperties hrest inner hinner

end

end Compiler

/-- The options of a compiled definition are free of reserved names, at any depth. -/
theorem unreserved_compile {description : ObjectDescription} {fields : Fields}
    (h : compile description = .ok fields) : ∀ field ∈ fields.all, field.options.Unreserved := by
  obtain ⟨properties, required, additional, notes⟩ := description
  exact @Compiler.unreserved_compileProperties properties required fields h

namespace Schema

private theorem unreserved_addStamp {fields : Fields} (name : String)
    (h : ∀ field ∈ fields.all, field.options.Unreserved) :
    ∀ field ∈ Fields.all (addStamp fields name), field.options.Unreserved := by
  unfold addStamp
  split
  · exact h
  · intro field hmem
    obtain ⟨outer, houter, hfield⟩ := FieldType.mem_innerFields.1 hmem
    rcases Entries.mem_write houter with rfl | houter
    · cases List.mem_singleton.1 hfield
      exact Options.unreserved_nil
    · exact h field (FieldType.mem_innerFields.2 ⟨outer, houter, hfield⟩)

/-- Time stamps have no options. -/
theorem unreserved_define {fields : Fields} (timestamps : Bool)
    (h : ∀ field ∈ fields.all, field.options.Unreserved) :
    ∀ field ∈ (define fields timestamps).fields.all, field.options.Unreserved := by
  cases timestamps with
  | true => exact unreserved_addStamp updatedAt (unreserved_addStamp createdAt h)
  | false => exact h

theorem fingerprintInput_inj {a b : Schema} (ha : ∀ field ∈ a.fields.all, field.options.Unreserved)
    (hb : ∀ field ∈ b.fields.all, field.options.Unreserved)
    (h : a.fingerprintInput = b.fingerprintInput) :
    a.fields = b.fields ∧ a.timestamps = b.timestamps := by
  obtain ⟨htext, hstamps⟩ := List.append_inj' h rfl
  refine ⟨Fields.text_inj ha hb (Utf8.encode_injective htext), ?_⟩
  cases hta : a.timestamps <;> cases htb : b.timestamps <;> simp_all

end Schema

/-- A compiled definition is rendered without loss: its text tells it from every other one, what the
fingerprint is the digest of tells its schema from every other one, and in no field, at any depth,
does an option take the place of what the definition itself says. -/
theorem rendering_faithful_of_compile {first second : ObjectDescription} {fields others : Fields}
    (hfirst : compile first = .ok fields) (hsecond : compile second = .ok others) :
    (fields.text = others.text → fields = others) ∧
    (∀ timestamps timestamps' : Bool,
      (Schema.define fields timestamps).fingerprintInput
          = (Schema.define others timestamps').fingerprintInput →
        (Schema.define fields timestamps).fields = (Schema.define others timestamps').fields ∧
          timestamps = timestamps') ∧
    ∀ field ∈ fields.all,
      fieldToJson field = .object (field.ownMembers ++ field.options) ∧
        ∀ key ∈ reservedOptions, Entries.find? (field.ownMembers ++ field.options) key
          = Entries.find? field.ownMembers key := by
  have hfields := unreserved_compile hfirst
  have hothers := unreserved_compile hsecond
  refine ⟨Fields.text_inj hfields hothers, fun timestamps timestamps' h => ?_, fun field hfield => ?_⟩
  · exact Schema.fingerprintInput_inj (Schema.unreserved_define timestamps hfields)
      (Schema.unreserved_define timestamps' hothers) h
  · have hfield := hfields field hfield
    exact ⟨fieldToJson_eq hfield, fun key hkey => find?_ownMembers_append hfield hkey⟩

-- Inside an array, both are objects with the members `type` and `of`.
theorem map_rendered_unlike_object :
    let text : Field := { type := .scalar .string, required := true }
    let maps : Fields := [("notes", { type := .array (.map text), required := true })]
    let objects : Fields :=
      [("notes", { type := .array (.nested [("type", text), ("of", text)]), required := true })]
    compile ⟨[("notes", .array (.dictionary (.scalar .string {}) [] {}) {})], none, true, {}⟩
        = .ok maps ∧
      compile ⟨[("notes", .array (.object ⟨[("type", .scalar .string {}),
        ("of", .scalar .string {})], none, true, {}⟩) {})], none, true, {}⟩ = .ok objects ∧
      maps.text ≠ objects.text := by
  intro text maps objects
  have hmaps : compile ⟨[("notes", .array (.dictionary (.scalar .string {}) [] {}) {})], none, true,
      {}⟩ = .ok maps := rfl
  have hobjects : compile ⟨[("notes", .array (.object ⟨[("type", .scalar .string {}),
      ("of", .scalar .string {})], none, true, {}⟩) {})], none, true, {}⟩ = .ok objects := rfl
  refine ⟨hmaps, hobjects, fun htext => ?_⟩
  have hequal := (rendering_faithful_of_compile hmaps hobjects).1 htext
  simp [maps, objects] at hequal

end TypedCollections
