import TypedCollections.Definition.Compiler
import TypedCollections.Proofs.Definition.WellFormed
import TypedCollections.Proofs.Entries
import TypedCollections.Proofs.Except
/-!
# What compiling gives

Compiling read backwards: which field a node was compiled to, which options it has, and which names
an object keeps. A well-formed description is compiled to a well-formed definition without
identifiers.
-/

namespace TypedCollections

/-- The options hold well-formed JSON. -/
structure Annotations.WellFormed (notes : Annotations) : Prop where
  attributes : Json.WellFormedMembers notes.attributes
  constraints : Json.WellFormedMembers notes.constraints

namespace Description

mutual

/-- No object names a property twice, and all annotations hold well-formed JSON. What a reference
says about its target does not count. -/
def WellFormed : Description → Prop
  | .scalar _ notes => notes.WellFormed
  | .object shape => WellFormedShape shape
  | .array items notes => WellFormed items ∧ notes.WellFormed
  | .dictionary values keyOptions notes =>
      WellFormed values ∧ Json.WellFormedMembers keyOptions ∧ notes.WellFormed
  | .reference _ _ _ notes => notes.WellFormed

/-- The object names no property twice, and its properties are well-formed. -/
def WellFormedShape : ObjectShape Description → Prop
  | ⟨properties, _, _, notes⟩ =>
      Entries.Distinct properties ∧ WellFormedProperties properties ∧ notes.WellFormed

/-- Every property is well-formed. -/
def WellFormedProperties : List (String × Description) → Prop
  | [] => True
  | (_, node) :: rest => WellFormed node ∧ WellFormedProperties rest

end

end Description

namespace Compiler

/-! ### Options -/

/-- Options under the names by which they are kept. -/
def renamed (options : Options) : Options := options.map fun option => (optionKey option.1, option.2)

theorem addOptions_eq_ok {options more result : Options} (h : addOptions options more = .ok result) :
    result = Entries.writeAll options (renamed more) := by
  induction more generalizing options with
  | nil =>
      cases h
      rfl
  | cons option rest ih =>
      obtain ⟨key, value⟩ := option
      rw [addOptions] at h
      split at h
      · cases h
      · exact ih h

theorem optionsOf_eq_ok {notes : List Annotations} {options : Options}
    (h : optionsOf notes = .ok options) :
    options = Entries.ofList
      (renamed (notes.flatMap fun note => note.constraints ++ note.attributes)) :=
  addOptions_eq_ok h

theorem wellFormed_optionsOf {notes : List Annotations} {options : Options}
    (hnotes : ∀ note ∈ notes, note.WellFormed) (h : optionsOf notes = .ok options) :
    Json.WellFormedMembers options := by
  apply Json.wellFormedMembers_iff.2
  intro option hmem
  rw [optionsOf_eq_ok h] at hmem
  obtain ⟨before, hbefore, rfl⟩ := List.mem_map.1 (Entries.mem_of_mem_ofList hmem)
  obtain ⟨note, hnote, hbefore⟩ := List.mem_flatMap.1 hbefore
  rcases List.mem_append.1 hbefore with h | h
  · exact Json.wellFormedMembers_iff.1 (hnotes note hnote).constraints before h
  · exact Json.wellFormedMembers_iff.1 (hnotes note hnote).attributes before h

/-! ### Fields -/

theorem referenceField_eq_ok {collection : String} {many required : Bool} {notes : Annotations}
    {field : Field} (h : referenceField collection many required notes = .ok field) :
    ∃ options, optionsOf [notes] = .ok options ∧
      field = { type := if many then .array .objectId else .objectId, required,
                reference := some collection, options } := by
  unfold referenceField at h
  split at h
  · cases h
  · cases hoptions : optionsOf [notes] with
    | error error =>
        rw [hoptions] at h
        cases h
    | ok options =>
        rw [hoptions] at h
        cases h
        exact ⟨options, rfl, rfl⟩

/-- Whether the node is a reference to another collection. -/
def IsReference : Description → Prop
  | .reference .. => True
  | _ => False

/-- A node that is no reference is resolved before its options are gathered. -/
theorem fieldOf_eq_bind {node : Description} (hnode : ¬ IsReference node) (required : Bool) :
    fieldOf node required (resolve node)
      = (resolve node).bind fun type => (optionsOf (chain node)).bind fun options =>
          .ok { type, required, options := addKeyPattern options (keyPattern? node) } := by
  cases node with
  | reference target collection many notes => exact absurd trivial hnode
  | _ => rfl

/-- The field of a node that is no reference. -/
theorem fieldOf_eq_ok {node : Description} {required : Bool} {field : Field}
    (hnode : ¬ IsReference node) (h : fieldOf node required (resolve node) = .ok field) :
    ∃ type options, resolve node = .ok type ∧ optionsOf (chain node) = .ok options ∧
      field = { type, required, options := addKeyPattern options (keyPattern? node) } := by
  rw [fieldOf_eq_bind hnode] at h
  obtain ⟨type, htype, h⟩ := bind_eq_ok_iff.1 h
  obtain ⟨options, hoptions, h⟩ := bind_eq_ok_iff.1 h
  cases h
  exact ⟨type, options, htype, hoptions, rfl⟩

/-- The first property is an identifier and is left out, or it is compiled to the first field. -/
theorem compileProperties_cons_eq_ok {declared : Option NameSet} {name : String}
    {node : Description} {rest : List (String × Description)} {fields : Fields}
    (h : compileProperties declared ((name, node) :: rest) = .ok fields) :
    (name = idField ∧ compileProperties declared rest = .ok fields) ∨
    (name ≠ idField ∧ ∃ field others,
      fieldOf node (isRequired declared name node) (resolve node) = .ok field ∧
      compileProperties declared rest = .ok others ∧ fields = (name, field) :: others) := by
  rw [compileProperties] at h
  split at h
  · exact .inl ⟨by assumption, h⟩
  · split at h
    · cases h
    · split at h
      · cases h
      · rename_i hfield
        obtain ⟨others, hothers, rfl⟩ := map_eq_ok_iff.1 h
        exact .inr ⟨by assumption, _, others, mapError_eq_ok_iff.1 hfield, hothers, rfl⟩

/-- An object keeps the names of its properties, in order, except for identifiers. -/
theorem names_compileProperties {declared : Option NameSet}
    {properties : List (String × Description)} {fields : Fields}
    (h : compileProperties declared properties = .ok fields) :
    Entries.names fields = (Entries.names properties).filter (· ≠ idField) := by
  induction properties generalizing fields with
  | nil =>
      rw [compileProperties] at h
      cases h
      rfl
  | cons head rest ih =>
      obtain ⟨name, node⟩ := head
      obtain ⟨hname, hrest⟩ | ⟨hname, field, others, -, hrest, rfl⟩ :=
        compileProperties_cons_eq_ok h
      · rw [ih hrest]
        simp [Entries.names, hname]
      · simp only [Entries.names, List.map_cons] at ih ⊢
        rw [ih hrest, List.filter_cons_of_pos (by simpa using hname)]

theorem resolve_object_eq_ok {shape : ObjectShape Description} {type : FieldType}
    (h : resolve (.object shape) = .ok type) :
    ∃ fields, compileProperties shape.required shape.properties = .ok fields ∧
      type = .nested fields := by
  obtain ⟨properties, required, additional, notes⟩ := shape
  rw [resolve, compileShape] at h
  exact map_eq_ok_iff.1 h

theorem resolve_array_eq_ok {items : Description} {notes : Annotations} {type : FieldType}
    (h : resolve (.array items notes) = .ok type) :
    ∃ element, resolve items = .ok element ∧ type = .array element := by
  rw [resolve] at h
  obtain ⟨element, helement, rfl⟩ := map_eq_ok_iff.1 h
  exact ⟨element, mapError_eq_ok_iff.1 helement, rfl⟩

theorem resolve_dictionary_eq_ok {values : Description} {keyOptions : Options}
    {notes : Annotations} {type : FieldType}
    (h : resolve (.dictionary values keyOptions notes) = .ok type) :
    ∃ field, fieldOf values (!values.isOptional) (resolve values) = .ok field ∧
      type = .map field := by
  rw [resolve] at h
  obtain ⟨field, hfield, rfl⟩ := map_eq_ok_iff.1 h
  exact ⟨field, mapError_eq_ok_iff.1 hfield, rfl⟩

/-! ### Well-formed descriptions -/

theorem wellFormed_chain : ∀ {node : Description}, node.WellFormed →
    ∀ note ∈ chain node, note.WellFormed
  | .array items notes, h, note, hmem => by
      rw [chain] at hmem
      rcases List.mem_cons.1 hmem with rfl | hmem
      · exact h.2
      · exact wellFormed_chain h.1 note hmem
  | .scalar _ notes, h, note, hmem => by
      cases List.mem_singleton.1 hmem
      exact h
  | .object ⟨_, _, _, notes⟩, h, note, hmem => by
      cases List.mem_singleton.1 hmem
      exact h.2.2
  | .dictionary _ _ notes, h, note, hmem => by
      cases List.mem_singleton.1 hmem
      exact h.2.2
  | .reference _ _ _ notes, h, note, hmem => by
      cases List.mem_singleton.1 hmem
      exact h

theorem wellFormed_keyPattern : ∀ {node : Description} {pattern : Json}, node.WellFormed →
    keyPattern? node = some pattern → pattern.WellFormed
  | .array _ _, _, h, hpattern => wellFormed_keyPattern h.1 hpattern
  | .dictionary _ _ _, _, h, hpattern =>
      Json.wellFormedMembers_iff.1 h.2.1 _ (Entries.mem_of_find? hpattern)

theorem wellFormed_addKeyPattern {options : Options} {pattern : Option Json}
    (hoptions : Json.WellFormedMembers options)
    (hpattern : ∀ json, pattern = some json → json.WellFormed) :
    Json.WellFormedMembers (addKeyPattern options pattern) := by
  cases pattern with
  | none => exact hoptions
  | some json =>
      apply Json.wellFormedMembers_iff.2
      intro option hmem
      rcases Entries.mem_write hmem with rfl | hmem
      · exact hpattern json rfl
      · exact Json.wellFormedMembers_iff.1 hoptions option hmem

/-- A field is well-formed if its node is and the type it resolves to is. -/
theorem wellFormed_fieldOf {node : Description} {required : Bool} {field : Field}
    (hnode : node.WellFormed) (htype : ∀ type, resolve node = .ok type → type.WellFormed)
    (h : fieldOf node required (resolve node) = .ok field) :
    FieldType.WellFormedField field := by
  cases node with
  | reference target collection many notes =>
      obtain ⟨options, hoptions, rfl⟩ := referenceField_eq_ok h
      refine ⟨wellFormed_optionsOf ?_ hoptions, by cases many <;> trivial⟩
      intro note hmem
      cases List.mem_singleton.1 hmem
      exact hnode
  | _ =>
      obtain ⟨type, options, hresolve, hoptions, rfl⟩ := fieldOf_eq_ok id h
      have hwell := wellFormed_optionsOf (wellFormed_chain hnode) hoptions
      exact ⟨wellFormed_addKeyPattern hwell fun _ => wellFormed_keyPattern hnode, htype type hresolve⟩

mutual

theorem wellFormed_resolve : ∀ {node : Description} {type : FieldType}, node.WellFormed →
    resolve node = .ok type → type.WellFormed
  | .scalar _ _, _, _, h => by
      rw [resolve] at h
      cases h
      trivial
  | .object ⟨properties, _, _, _⟩, _, hnode, h => by
      obtain ⟨fields, hfields, rfl⟩ := resolve_object_eq_ok h
      have hwell := wellFormed_compileProperties hnode.2.1 hfields
      refine ⟨?_, hwell⟩
      rw [Entries.Distinct, names_compileProperties hfields]
      exact List.Pairwise.filter _ hnode.1
  | .array items _, _, hnode, h => by
      obtain ⟨element, helement, rfl⟩ := resolve_array_eq_ok h
      have hwell : element.WellFormed := wellFormed_resolve hnode.1 helement
      exact hwell
  | .dictionary values _ _, _, hnode, h => by
      obtain ⟨field, hfield, rfl⟩ := resolve_dictionary_eq_ok h
      exact wellFormed_fieldOf hnode.1 (fun _ => wellFormed_resolve hnode.1) hfield
  | .reference .., _, _, h => by
      rw [resolve] at h
      cases h

theorem wellFormed_compileProperties : ∀ {properties : List (String × Description)}
    {declared : Option NameSet} {fields : Fields},
    Description.WellFormedProperties properties →
      compileProperties declared properties = .ok fields → FieldType.WellFormedFields fields
  | [], _, _, _, h => by
      rw [compileProperties] at h
      cases h
      trivial
  | (_, node) :: _, _, _, hproperties, h => by
      obtain ⟨-, hrest⟩ | ⟨-, field, others, hfield, hrest, rfl⟩ := compileProperties_cons_eq_ok h
      · exact wellFormed_compileProperties hproperties.2 hrest
      · refine ⟨?_, wellFormed_compileProperties hproperties.2 hrest⟩
        exact wellFormed_fieldOf hproperties.1 (fun _ => wellFormed_resolve hproperties.1) hfield

end

end Compiler

/-- No field of a compiled definition is an identifier. -/
theorem idField_not_mem_of_compile {description : ObjectDescription} {fields : Fields}
    (h : compile description = .ok fields) : idField ∉ Entries.names fields := by
  obtain ⟨properties, required, additional, notes⟩ := description
  have hfields : Compiler.compileProperties required properties = .ok fields := h
  rw [Compiler.names_compileProperties hfields]
  simp

/-- A well-formed description is compiled to a well-formed definition without identifiers. -/
theorem wellFormed_compile {description : ObjectDescription} {fields : Fields}
    (hdescription : Description.WellFormedShape description) (h : compile description = .ok fields) :
    fields.WellFormed ∧ idField ∉ Entries.names fields := by
  refine ⟨?_, idField_not_mem_of_compile h⟩
  obtain ⟨properties, required, additional, notes⟩ := description
  have hfields : Compiler.compileProperties required properties = .ok fields := h
  refine ⟨?_, Compiler.wellFormed_compileProperties hdescription.2.1 hfields⟩
  rw [Entries.Distinct, Compiler.names_compileProperties hfields]
  exact List.Pairwise.filter _ hdescription.1

end TypedCollections
