import TypedCollections.Proofs.ObjectId
import TypedCollections.Proofs.Validation.Conformance
import TypedCollections.Schema.Rendering
/-!
# Identifiers given as text

A value is rendered in its native form or, where identifiers stand, as their text. Either form is
cast back by the check of a field that the value fits: what it gives is the value itself. The text
forms nest no deeper than the native form, and they are read back where the native form is.
-/

namespace TypedCollections

namespace Value

/-- The tree is the native form of the value, or what takes the place of a reference. -/
def RenderedAs (value : Value) (json : Json) : Prop :=
  json = value.toJson ∨ referenceText? (some value) = some json

theorem renderedAs_toJson (value : Value) : value.RenderedAs value.toJson := .inl rfl

/-- Null is rendered as itself. -/
theorem RenderedAs.of_null {json : Json} (h : RenderedAs .null json) : json = .null := by
  rcases h with h | h
  · exact h
  · cases h

/-- Only identifiers and arrays have a text form. -/
theorem RenderedAs.cases {value : Value} {json : Json} (h : value.RenderedAs json) :
    json = value.toJson ∨ (∃ id, value = .objectId id ∧ json = .string id.hex) ∨
      ∃ items, value = .array items ∧ json = .array (items.map keyText) := by
  rcases h with h | h
  · exact .inl h
  · cases value with
    | objectId id => exact .inr (.inl ⟨id, rfl, (Option.some.inj h).symm⟩)
    | array items => exact .inr (.inr ⟨items, rfl, (Option.some.inj h).symm⟩)
    | _ => cases h

/-! ### The text of what is rendered -/

theorem keyText_eq (value : Value) :
    keyText value = value.toJson ∨ ∃ id, value = .objectId id ∧ keyText value = .string id.hex := by
  cases value with
  | objectId id => exact .inr ⟨id, rfl, rfl⟩
  | _ => exact .inl rfl

/-- What holds of texts and of the items' native forms holds of what the items are rendered as. -/
theorem forall_map_keyText {P : Json → Prop} {items : List Value}
    (htext : ∀ text, P (.string text)) (hitems : ∀ json ∈ listToJson items, P json) :
    ∀ json ∈ items.map keyText, P json := by
  intro json hmem
  obtain ⟨item, hitem, rfl⟩ := List.mem_map.1 hmem
  obtain heq | ⟨id, -, heq⟩ := keyText_eq item
  · rw [heq]
    apply hitems
    rw [listToJson_eq_map]
    exact List.mem_map_of_mem hitem
  · rw [heq]
    exact htext id.hex

theorem RenderedAs.wellFormed {value : Value} {json : Json} (h : value.RenderedAs json)
    (hvalue : value.toJson.WellFormed) : json.WellFormed := by
  obtain rfl | ⟨id, rfl, rfl⟩ | ⟨items, rfl, rfl⟩ := h.cases
  · exact hvalue
  · trivial
  · have hitems : Json.WellFormedList (listToJson items) := hvalue
    exact Json.wellFormedList_iff.2
      (forall_map_keyText (fun _ => trivial) (Json.wellFormedList_iff.1 hitems))

theorem RenderedAs.legible {value : Value} {json : Json} (h : value.RenderedAs json)
    (hvalue : value.toJson.Legible) : json.Legible := by
  obtain rfl | ⟨id, rfl, rfl⟩ | ⟨items, rfl, rfl⟩ := h.cases
  · exact hvalue
  · trivial
  · have hitems : Json.LegibleList (listToJson items) := hvalue
    exact Json.legibleList_iff.2
      (forall_map_keyText (fun _ => trivial) (Json.legibleList_iff.1 hitems))

theorem RenderedAs.depth_le {value : Value} {json : Json} (h : value.RenderedAs json) :
    json.depth ≤ value.toJson.depth := by
  obtain rfl | ⟨id, rfl, rfl⟩ | ⟨items, rfl, rfl⟩ := h.cases
  · exact Nat.le_refl _
  · exact Nat.zero_le _
  · have hitems : Json.depthList (items.map keyText) ≤ Json.depthList (listToJson items) := by
      refine Json.depthList_le_iff.2 (forall_map_keyText (fun _ => Nat.zero_le _) ?_)
      exact Json.depthList_le_iff.1 (Nat.le_refl _)
    exact Nat.add_le_add_right hitems 1

end Value

namespace Validation

variable {patterns : Patterns}

/-! ### The check of what is rendered -/

/-- The text of an identifier is cast to the identifier, wherever the identifier fits. -/
theorem checkType_hex {type : FieldType} {options : Options} {id : ObjectId}
    (h : Fits patterns type options (.objectId id)) :
    checkType patterns type options (.string id.hex) = .ok (.objectId id) := by
  cases type with
  | scalar kind => cases kind <;> simp [Fits, FitsScalar] at h
  | objectId => simp [checkType, castObjectId]
  | nested fields => simp [Fits] at h
  | array element => simp [Fits] at h
  | map values => simp [Fits] at h

private theorem checkType_keyText {type : FieldType} {options : Options} {value : Value}
    (hfits : Fits patterns type options value) (hread : value.reread = value) :
    checkType patterns type options (Value.ofJson (keyText value)) = .ok value := by
  obtain heq | ⟨id, rfl, heq⟩ := Value.keyText_eq value
  · rw [heq, ← Value.reread, hread]
    exact checkType_of_fits hfits
  · rw [heq, Value.ofJson]
    exact checkType_hex hfits

/-- What a value is rendered as is checked to the value, if the value fits and is read back as it
is. -/
theorem checkField_of_renderedAs {field : Field} {value : Value} {json : Json}
    (h : value.RenderedAs json) (hfits : FitsField patterns field value)
    (hread : value.reread = value) :
    checkField patterns field (Value.ofJson json) = .ok value := by
  obtain ⟨type, required, reference, options⟩ := field
  have hfits : Fits patterns type options value := hfits
  show checkType patterns type options (Value.ofJson json) = .ok value
  obtain rfl | ⟨id, rfl, rfl⟩ | ⟨items, rfl, rfl⟩ := h.cases
  · rw [← Value.reread, hread]
    exact checkType_of_fits hfits
  · exact checkType_hex hfits
  · -- Only arrays fit an array, and each item is cast on its own.
    cases type with
    | array element =>
        obtain ⟨items', heq, hitems⟩ := hfits
        cases heq
        rw [Value.reread_array, Value.array.injEq] at hread
        have hsame : ∀ item ∈ items, item.reread = item :=
          List.map_inj_left.1 (hread.trans (List.map_id items).symm)
        rw [Value.ofJson, Value.listOfJson_eq_map, List.map_map]
        refine checkType_array_eq_ok_iff.2 ⟨_, items, rfl, ?_, rfl⟩
        rw [List.forall₂_map_left_iff]
        exact List.forall₂_same.2 fun item hmem =>
          checkType_keyText (hitems item hmem) (hsame item hmem)
    | scalar kind => cases kind <;> simp [Fits, FitsScalar] at hfits
    | objectId => simp [Fits] at hfits
    | nested fields => simp [Fits] at hfits
    | map values => simp [Fits] at hfits

/-- Where one number fits a field, another fits if it is within the bounds. -/
theorem fitsField_of_fitsNumber {field : Field} {number other : Number}
    (hfits : FitsField patterns field (.number number)) (hother : FitsNumber field.options other) :
    FitsField patterns field (.number other) := by
  obtain ⟨type, required, reference, options⟩ := field
  have hfits : Fits patterns type options (.number number) := hfits
  show Fits patterns type options (.number other)
  cases type with
  | scalar kind =>
      cases kind with
      | number => exact ⟨other, rfl, hother⟩
      | _ => simp [Fits, FitsScalar] at hfits
  | _ => simp [Fits] at hfits

end Validation

end TypedCollections
