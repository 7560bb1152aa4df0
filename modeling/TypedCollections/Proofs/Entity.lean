import TypedCollections.Entity
import TypedCollections.Proofs.Schema
/-!
# Prepared entities

An entity is prepared exactly if its description is compiled and its expandable fields are
references. Its schema then keeps time stamps and writes identifiers as text, those of references only
where they may be expanded; none of these is called `_id`.
-/

namespace TypedCollections

/-- The schema of an entity has the fields of its description and writes identifiers as text. -/
structure Entity.Prepared (entity : Entity) (schema : Schema) : Prop where
  fields : ∃ fields, compile entity.description = .ok fields ∧
    schema.fields = (Schema.define fields true).fields
  timestamps : schema.timestamps = true
  expandable : schema.expandable = entity.expandable
  transform : ∀ kind, schema.transform? kind
    = some (identifierTransform (NameSet.ofNames schema.expandable))
  /-- Expandable fields are declared and refer to a collection. -/
  references : ∀ name ∈ schema.expandable,
    name ≠ idField ∧ ∃ field target, Entries.find? schema.fields name = some field ∧
      field.reference = some target

namespace Schema

theorem find?_addStamp {fields : Fields} {name other : String} {field : Field}
    (h : Entries.find? fields name = some field) :
    Entries.find? (addStamp fields other) name = some field := by
  unfold addStamp
  split
  · exact h
  · rename_i hnew
    have hne : other ≠ name := by
      rintro rfl
      exact hnew (by rw [Entries.has, h]; rfl)
    rw [Entries.find?_write, if_neg hne, h]

/-- Time stamps leave the fields of a definition as they are. -/
theorem find?_define {fields : Fields} {name : String} {field : Field} (timestamps : Bool)
    (h : Entries.find? fields name = some field) :
    Entries.find? (define fields timestamps).fields name = some field := by
  cases timestamps with
  | true => exact find?_addStamp (find?_addStamp h)
  | false => exact h

/-- With time stamps, both of their fields are declared. -/
theorem mem_names_define (fields : Fields) :
    createdAt ∈ Entries.names (define fields true).fields ∧
      updatedAt ∈ Entries.names (define fields true).fields := by
  have hadd : ∀ (fields : Fields) (name : String), name ∈ Entries.names (addStamp fields name) := by
    intro fields name
    unfold addStamp
    split
    · rename_i h
      exact Entries.has_iff.1 h
    · rw [Entries.names_write]
      split
      · assumption
      · simp
  refine ⟨?_, hadd _ _⟩
  obtain ⟨field, hfield⟩ := Entries.mem_names_iff.1 (hadd fields createdAt)
  exact Entries.mem_names_iff.2 ⟨field, find?_addStamp hfield⟩

end Schema

namespace Entity

/-- Where no name is refused, each is that of a declared reference. -/
theorem notReference?_eq_none {fields : Fields} {names : List String}
    (h : notReference? fields names = none) {name : String} (hmem : name ∈ names) :
    ∃ field target, Entries.find? fields name = some field ∧ field.reference = some target := by
  have hsome := List.find?_eq_none.1 h name hmem
  rw [Bool.not_eq_true, Option.isNone_eq_false_iff, Option.isSome_iff_exists] at hsome
  obtain ⟨target, htarget⟩ := hsome
  obtain ⟨field, hfield, hreference⟩ := Option.bind_eq_some_iff.1 htarget
  exact ⟨field, target, hfield, hreference⟩

theorem schemaOf_eq_ok_iff {entity : Entity} {fields : Fields} {schema : Schema} :
    entity.schemaOf fields = .ok schema ↔ notReference? fields entity.expandable = none ∧
      schema = ⟨(Schema.define fields true).fields, true, entity.expandable,
        some (identifierTransform (NameSet.ofNames entity.expandable)),
        some (identifierTransform (NameSet.ofNames entity.expandable))⟩ := by
  unfold schemaOf
  cases notReference? fields entity.expandable with
  | some name => simp
  | none =>
      simp only [true_and, Except.ok.injEq]
      exact eq_comm

theorem prepare_eq_ok {entity : Entity} {schema : Schema} (h : entity.prepare = .ok schema) :
    ∃ fields, compile entity.description = .ok fields ∧ entity.schemaOf fields = .ok schema := by
  unfold prepare at h
  split at h
  · cases h
  · rename_i fields hcompile
    exact ⟨fields, hcompile, h⟩

/-- What is known of an entity that was prepared. -/
theorem prepared_of_prepare {entity : Entity} {schema : Schema} (h : entity.prepare = .ok schema) :
    entity.Prepared schema := by
  obtain ⟨fields, hcompile, hschema⟩ := prepare_eq_ok h
  obtain ⟨hreferences, rfl⟩ := schemaOf_eq_ok_iff.1 hschema
  refine ⟨⟨fields, hcompile, rfl⟩, rfl, rfl, fun kind => by cases kind <;> rfl, ?_⟩
  intro name hmem
  obtain ⟨field, target, hfield, hreference⟩ := notReference?_eq_none hreferences hmem
  refine ⟨?_, field, target, Schema.find?_define true hfield, hreference⟩
  rintro rfl
  apply idField_not_mem_of_compile hcompile
  exact Entries.mem_names_iff.2 ⟨field, hfield⟩

namespace Prepared

variable {entity : Entity} {schema : Schema}

/-- The fields of a prepared entity are compiled, if its description is a well-formed tree. -/
theorem compiled (h : entity.Prepared schema)
    (hdescription : Description.WellFormedShape entity.description) : Compiled schema.fields := by
  obtain ⟨fields, hcompile, hfields⟩ := h.fields
  exact ⟨entity.description, fields, true, hdescription, hcompile, hfields⟩

theorem stamps_mem (h : entity.Prepared schema) :
    createdAt ∈ Entries.names schema.fields ∧ updatedAt ∈ Entries.names schema.fields := by
  obtain ⟨fields, -, hfields⟩ := h.fields
  rw [hfields]
  exact Schema.mem_names_define fields

end Prepared

end Entity

end TypedCollections
