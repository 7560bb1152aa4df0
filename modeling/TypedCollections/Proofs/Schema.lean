import TypedCollections.Proofs.Definition.Compiler
import TypedCollections.Proofs.Validation.Stored
import TypedCollections.Schema.Basic
/-!
# The fields of a schema

Schemas are defined by compiled descriptions. Time stamps add number fields, which are as harmless
as any: the definition stays well-formed, has no identifier, and declares no reserved name inside a
field.
-/

namespace TypedCollections

/-- The fields of a schema that is defined by a description. -/
def Compiled (fields : Fields) : Prop :=
  ∃ description compiled timestamps, Description.WellFormedShape description ∧
    compile description = .ok compiled ∧ fields = (Schema.define compiled timestamps).fields

namespace Schema

/-- The field of a time stamp that a description does not declare. -/
def addedStamp (name : String) : String × Field :=
  (name, { type := .scalar .number, required := false })

theorem addStamp_eq_append (fields : Fields) (name : String) :
    addStamp fields name = fields ++ ([name].filter (· ∉ Entries.names fields)).map addedStamp := by
  rw [addStamp]
  split
  · rename_i hhas
    simp [Entries.has_iff.1 hhas]
  · rename_i hhas
    have hnew : name ∉ Entries.names fields := fun hmem => hhas (Entries.has_iff.2 hmem)
    rw [Entries.write_eq_append hnew]
    simp [hnew, addedStamp]

/-- The time stamps that are missing come last, the time of creation before that of the last change.
-/
theorem define_fields_eq_append (fields : Fields) :
    (define fields true).fields
      = fields ++ ([createdAt, updatedAt].filter (· ∉ Entries.names fields)).map addedStamp := by
  have hnames : updatedAt ∈ Entries.names (addStamp fields createdAt)
      ↔ updatedAt ∈ Entries.names fields := by
    unfold addStamp
    split
    · rfl
    · rw [Entries.mem_names_write, or_iff_right (by decide)]
  have hfilter : [updatedAt].filter (· ∉ Entries.names (addStamp fields createdAt))
      = [updatedAt].filter (· ∉ Entries.names fields) :=
    List.filter_congr fun name hmem => by
      rw [List.mem_singleton.1 hmem, decide_eq_decide, hnames]
  show addStamp (addStamp fields createdAt) updatedAt = _
  rw [addStamp_eq_append _ updatedAt, hfilter, addStamp_eq_append, List.append_assoc,
    ← List.map_append, ← List.filter_append, List.singleton_append]

private theorem wellFormed_addStamp {fields : Fields} (h : fields.WellFormed) (name : String) :
    (addStamp fields name).WellFormed := by
  unfold addStamp
  split
  · exact h
  · refine ⟨Entries.distinct_write h.distinct name _, ?_⟩
    apply FieldType.wellFormedFields_iff.2
    intro field hmem
    rcases Entries.mem_write hmem with rfl | hmem
    · exact ⟨trivial, trivial⟩
    · exact FieldType.wellFormedFields_iff.1 h.each field hmem

private theorem not_mem_names_addStamp {fields : Fields} {name other : String}
    (hother : other ∉ Entries.names fields) (hname : name ≠ other) :
    other ∉ Entries.names (addStamp fields name) := by
  unfold addStamp
  split
  · exact hother
  · rw [Entries.names_write]
    split
    · exact hother
    · simp [hother, Ne.symm hname]

theorem wellFormed_define {fields : Fields} (h : fields.WellFormed) (timestamps : Bool) :
    (define fields timestamps).fields.WellFormed := by
  cases timestamps with
  | true => exact wellFormed_addStamp (wellFormed_addStamp h createdAt) updatedAt
  | false => exact h

theorem not_mem_names_define {fields : Fields} (h : idField ∉ Entries.names fields)
    (timestamps : Bool) : idField ∉ Entries.names (define fields timestamps).fields := by
  cases timestamps with
  | true => exact not_mem_names_addStamp (not_mem_names_addStamp h (by decide)) (by decide)
  | false => exact h

end Schema

theorem Compiled.wellFormed {fields : Fields} (h : Compiled fields) : fields.WellFormed := by
  obtain ⟨description, compiled, timestamps, hwell, hcompile, rfl⟩ := h
  exact Schema.wellFormed_define (wellFormed_compile hwell hcompile).1 timestamps

theorem Compiled.idField_not_mem {fields : Fields} (h : Compiled fields) :
    idField ∉ Entries.names fields := by
  obtain ⟨description, compiled, timestamps, hwell, hcompile, rfl⟩ := h
  exact Schema.not_mem_names_define (wellFormed_compile hwell hcompile).2 timestamps

end TypedCollections
