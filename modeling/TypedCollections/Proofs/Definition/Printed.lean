import TypedCollections.Definition.Printer
import TypedCollections.Proofs.Definition.WellFormed
/-!
# Printed definitions

The JSON form of a well-formed definition is well-formed: an option takes the place of a member of
its name, so that no object names a member twice.
-/

namespace TypedCollections

theorem distinct_fieldMembers (type : FieldType) (required : Bool)
    (reference : Option String) :
    Entries.Distinct (typeMembers type ++ ("required", Json.bool required) ::
      (match reference with
        | none => []
        | some collection => [("ref", Json.string collection)])) := by
  cases type <;> cases reference <;> simp [typeMembers, Entries.Distinct, Entries.names]

theorem names_fieldsToMembers (fields : List (String × FieldOf FieldType)) :
    Entries.names (fieldsToMembers fields) = Entries.names fields := by
  induction fields with
  | nil => rfl
  | cons field rest ih =>
      obtain ⟨name, field⟩ := field
      rw [fieldsToMembers]
      exact congrArg (name :: ·) ih

theorem fieldsToMembers_append (fields others : List (String × FieldOf FieldType)) :
    fieldsToMembers (fields ++ others) = fieldsToMembers fields ++ fieldsToMembers others := by
  induction fields with
  | nil => rw [fieldsToMembers, List.nil_append, List.nil_append]
  | cons field rest ih =>
      obtain ⟨name, field⟩ := field
      rw [List.cons_append, fieldsToMembers, ih, fieldsToMembers, List.cons_append]

private theorem distinct_fieldsToMembers {fields : List (String × FieldOf FieldType)}
    (h : Entries.Distinct fields) : Entries.Distinct (fieldsToMembers fields) := by
  rw [Entries.Distinct, names_fieldsToMembers]
  exact h

mutual

theorem FieldType.wellFormed_toJson : ∀ {type : FieldType}, type.WellFormed →
    type.toJson.WellFormed
  | .scalar _, _ => trivial
  | .objectId, _ => trivial
  | .nested fields, h => by
      rw [FieldType.toJson]
      exact ⟨distinct_fieldsToMembers h.1, wellFormed_fieldsToMembers h.2⟩
  | .array _, h => ⟨FieldType.wellFormed_toJson h, trivial⟩
  | .map values, h => by
      rw [FieldType.toJson]
      refine ⟨?_, trivial, wellFormed_fieldToJson h, trivial⟩
      simp [Entries.Distinct, Entries.names]

theorem wellFormed_fieldToJson : ∀ {field : FieldOf FieldType}, FieldType.WellFormedField field →
    (fieldToJson field).WellFormed
  | ⟨type, required, reference, options⟩, h => by
      rw [fieldToJson.eq_def]
      refine ⟨Entries.distinct_writeAll (distinct_fieldMembers type required reference) options, ?_⟩
      apply Json.wellFormedMembers_iff.2
      intro member hmem
      rcases Entries.mem_writeAll hmem with hmem | hmem
      · exact Json.wellFormedMembers_iff.1 h.1 member hmem
      · rcases List.mem_append.1 hmem with hmem | hmem
        · exact Json.wellFormedMembers_iff.1 (wellFormed_typeMembers h.2) member hmem
        · rcases List.mem_cons.1 hmem with rfl | hmem
          · trivial
          · cases reference with
            | none => cases hmem
            | some collection =>
                rw [List.mem_singleton.1 hmem]
                trivial

theorem wellFormed_typeMembers : ∀ {type : FieldType}, type.WellFormed →
    Json.WellFormedMembers (typeMembers type)
  | .scalar _, _ => ⟨trivial, trivial⟩
  | .objectId, _ => ⟨trivial, trivial⟩
  | .nested fields, h => by
      rw [typeMembers]
      exact ⟨⟨distinct_fieldsToMembers h.1, wellFormed_fieldsToMembers h.2⟩, trivial⟩
  | .array _, h => ⟨⟨FieldType.wellFormed_toJson h, trivial⟩, trivial⟩
  | .map _, h => ⟨trivial, wellFormed_fieldToJson h, trivial⟩

theorem wellFormed_fieldsToMembers : ∀ {fields : List (String × FieldOf FieldType)},
    FieldType.WellFormedFields fields → Json.WellFormedMembers (fieldsToMembers fields)
  | [], _ => trivial
  | (_, _) :: _, h => ⟨wellFormed_fieldToJson h.1, wellFormed_fieldsToMembers h.2⟩

end

theorem Fields.wellFormed_toJson {fields : Fields} (h : fields.WellFormed) :
    fields.toJson.WellFormed :=
  ⟨distinct_fieldsToMembers h.distinct, wellFormed_fieldsToMembers h.each⟩

end TypedCollections
