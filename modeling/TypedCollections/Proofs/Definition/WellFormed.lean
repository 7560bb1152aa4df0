import TypedCollections.Definition.Basic
import TypedCollections.Proofs.Json.ReadBack
/-!
# Well-formed definitions

What every definition satisfies that was made by writing fields and options one after the other: no
level names a field twice, and the options hold JSON that a program can hold.
-/

namespace TypedCollections

mutual

/-- No object inside the type names a field twice, and all options hold well-formed JSON. -/
def FieldType.WellFormed : FieldType → Prop
  | .nested fields => Entries.Distinct fields ∧ FieldType.WellFormedFields fields
  | .array element => FieldType.WellFormed element
  | .map values => FieldType.WellFormedField values
  | _ => True

/-- The type of a field is well-formed, and so are its options. -/
def FieldType.WellFormedField : FieldOf FieldType → Prop
  | ⟨type, _, _, options⟩ => Json.WellFormedMembers options ∧ FieldType.WellFormed type

/-- Every field is well-formed. -/
def FieldType.WellFormedFields : List (String × FieldOf FieldType) → Prop
  | [] => True
  | (_, field) :: rest => FieldType.WellFormedField field ∧ FieldType.WellFormedFields rest

end

/-- No level of the definition names a field twice, and all options hold well-formed JSON. -/
structure Fields.WellFormed (fields : Fields) : Prop where
  distinct : Entries.Distinct fields
  each : FieldType.WellFormedFields fields

namespace FieldType

theorem wellFormedFields_iff {fields : Fields} :
    WellFormedFields fields ↔ ∀ field ∈ fields, WellFormedField field.2 := by
  induction fields with
  | nil => simp [WellFormedFields]
  | cons field rest ih =>
      obtain ⟨name, field⟩ := field
      simp [WellFormedFields, ih]

theorem wellFormed_options {field : Field} (h : WellFormedField field) :
    Json.WellFormedMembers field.options := by
  obtain ⟨type, required, reference, options⟩ := field
  exact h.1

end FieldType

end TypedCollections
