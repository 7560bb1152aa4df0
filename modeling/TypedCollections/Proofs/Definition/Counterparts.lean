import TypedCollections.Proofs.Definition.Meaning
/-!
# Descriptions beside their definitions

A compiled definition is read beside its description, part by part: an object beside the fields it
became, the node of a property or of a dictionary's values beside its field, and every node, that of
an item too, beside its type. Each part has the names, the type, the reference and the mark of its
counterpart, at every depth. What a part has to be is said of the two sides alone; compiling occurs
only in the proof that it is so, where each part was compiled to its counterpart.
-/

namespace TypedCollections

/-- How many arrays the values of a node nest. References to many documents are one array. -/
def Description.nesting : Description → Nat
  | .array items _ => items.nesting + 1
  | .reference _ _ many _ => if many then 1 else 0
  | _ => 0

/-- How many arrays a type nests. -/
def FieldType.nesting : FieldType → Nat
  | .array element => element.nesting + 1
  | _ => 0

/-- The node is an array or a reference to many documents. -/
def Description.IsSequence : Description → Prop
  | .array .. => True
  | .reference _ _ many _ => many = true
  | _ => False

/-- The kind of type that stands for each kind of node. -/
def Description.StandsAs : Description → FieldType → Prop
  | .scalar kind _, type => type = .scalar kind
  | .object _, type => ∃ fields, type = .nested fields
  | .array .., type => ∃ element, type = .array element
  | .dictionary .., type => ∃ values, type = .map values
  | .reference _ _ many _, type => type = if many then .array .objectId else .objectId

/-- A part of a description beside a part of a definition. A node that has a field comes with what
makes its value required. -/
inductive Counterpart where
  | object (shape : ObjectShape Description) (fields : Fields)
  | field (node : Description) (required : Prop) (field : Field)
  | type (node : Description) (type : FieldType)

/-- The parts of a description and a definition that stand at the same place. -/
inductive Meets (description : ObjectDescription) (definition : Fields) : Counterpart → Prop where
  | whole : Meets description definition (.object description definition)
  | property {shape : ObjectShape Description} {fields : Fields} {name : String}
      {node : Description} {field : Field} (h : Meets description definition (.object shape fields))
      (hnode : Entries.find? shape.properties name = some node)
      (hfield : Entries.find? fields name = some field) :
      Meets description definition (.field node (Description.Requires shape.required name node) field)
  | type {node : Description} {required : Prop} {field : Field}
      (h : Meets description definition (.field node required field)) :
      Meets description definition (.type node field.type)
  | nested {shape : ObjectShape Description} {fields : Fields}
      (h : Meets description definition (.type (.object shape) (.nested fields))) :
      Meets description definition (.object shape fields)
  | element {items : Description} {notes : Annotations} {element : FieldType}
      (h : Meets description definition (.type (.array items notes) (.array element))) :
      Meets description definition (.type items element)
  | values {values : Description} {keyOptions : Options} {notes : Annotations} {field : Field}
      (h : Meets description definition (.type (.dictionary values keyOptions notes) (.map field))) :
      Meets description definition (.field values (values.isOptional = false) field)

/-- The definition's part says what the description's part does. -/
def Counterpart.Mirrors : Counterpart → Prop
  | .object shape fields =>
      Entries.names fields = (Entries.names shape.properties).filter (· ≠ idField)
  | .field node required found =>
      (∀ collection, found.reference = some collection ↔
        ∃ target many notes, node = .reference target collection many notes) ∧
      (found.required = true ↔ required)
  | .type node found =>
      node.StandsAs found ∧ ((∃ element, found = .array element) ↔ node.IsSequence) ∧
        found.nesting = node.nesting

namespace Compiler

/-! ### Every part was compiled to its counterpart -/

/-- The type was made from the node: by resolving it, unless it is a reference. -/
def Resolves : Description → FieldType → Prop
  | .reference _ _ many _, type => type = if many then .array .objectId else .objectId
  | node, type => resolve node = .ok type

/-- The definition's part was compiled from the description's part. -/
def CompiledTo : Counterpart → Prop
  | .object shape fields => compileProperties shape.required shape.properties = .ok fields
  | .field node required field =>
      ∃ needed, (needed = true ↔ required) ∧ fieldOf node needed (resolve node) = .ok field
  | .type node type => Resolves node type

theorem resolves_of_resolve {node : Description} {type : FieldType} (h : resolve node = .ok type) :
    Resolves node type := by
  cases node with
  | reference target collection many notes =>
      rw [resolve] at h
      cases h
  | _ => exact h

theorem resolves_of_fieldOf {node : Description} {needed : Bool} {field : Field}
    (h : fieldOf node needed (resolve node) = .ok field) : Resolves node field.type := by
  by_cases hnode : IsReference node
  · cases node with
    | reference target collection many notes =>
        obtain ⟨options, -, rfl⟩ := referenceField_eq_ok h
        rfl
    | _ => exact hnode.elim
  · obtain ⟨type, options, htype, -, rfl⟩ := fieldOf_eq_ok hnode h
    exact resolves_of_resolve htype

/-- The field under a name was compiled from the property of this name. -/
theorem fieldOf_of_compileProperties {declared : Option NameSet}
    {properties : List (String × Description)} {fields : Fields}
    (h : compileProperties declared properties = .ok fields) {name : String} {node : Description}
    {field : Field} (hnode : Entries.find? properties name = some node)
    (hfield : Entries.find? fields name = some field) :
    fieldOf node (isRequired declared name node) (resolve node) = .ok field := by
  induction properties generalizing fields with
  | nil => cases hnode
  | cons head rest ih =>
      obtain ⟨first, firstNode⟩ := head
      rw [Entries.find?_cons] at hnode
      obtain ⟨hid, hrest⟩ | ⟨-, firstField, others, hfirst, hrest, rfl⟩ :=
        compileProperties_cons_eq_ok h
      · -- The identifier has no field, so the name is another one.
        have hname : first ≠ name := by
          rintro rfl
          have hmem : first ∈ Entries.names fields :=
            Entries.mem_names_iff.2 ⟨field, hfield⟩
          rw [names_compileProperties hrest, hid] at hmem
          simp at hmem
        rw [if_neg hname] at hnode
        exact ih hrest hnode hfield
      · rw [Entries.find?_cons] at hfield
        by_cases hname : first = name
        · rw [if_pos hname] at hnode hfield
          cases hnode
          cases hfield
          rw [← hname]
          exact hfirst
        · rw [if_neg hname] at hnode hfield
          exact ih hrest hnode hfield

theorem compiledTo_of_meets {description : ObjectDescription} {definition : Fields}
    (h : compile description = .ok definition) {part : Counterpart}
    (hpart : Meets description definition part) : CompiledTo part := by
  induction hpart with
  | whole =>
      obtain ⟨properties, declared, additional, notes⟩ := description
      exact h
  | property _ hnode hfield ih =>
      exact ⟨_, isRequired_iff, fieldOf_of_compileProperties ih hnode hfield⟩
  | type _ ih =>
      obtain ⟨needed, -, hfield⟩ := ih
      exact resolves_of_fieldOf hfield
  | nested _ ih =>
      obtain ⟨fields, hfields, heq⟩ := resolve_object_eq_ok ih
      cases heq
      exact hfields
  | element _ ih =>
      obtain ⟨element, helement, heq⟩ := resolve_array_eq_ok ih
      cases heq
      exact resolves_of_resolve helement
  | values _ ih =>
      obtain ⟨field, hfield, heq⟩ := resolve_dictionary_eq_ok ih
      cases heq
      exact ⟨_, by simp, hfield⟩

/-! ### What was compiled mirrors what it was compiled from -/

theorem standsAs_of_resolves {node : Description} {type : FieldType} (h : Resolves node type) :
    node.StandsAs type := by
  cases node with
  | scalar kind notes =>
      have htype : resolve (.scalar kind notes) = .ok type := h
      rw [resolve] at htype
      cases htype
      rfl
  | object shape =>
      obtain ⟨fields, -, rfl⟩ := resolve_object_eq_ok h
      exact ⟨fields, rfl⟩
  | array items notes =>
      obtain ⟨element, -, rfl⟩ := resolve_array_eq_ok h
      exact ⟨element, rfl⟩
  | dictionary values keyOptions notes =>
      obtain ⟨field, -, rfl⟩ := resolve_dictionary_eq_ok h
      exact ⟨field, rfl⟩
  | reference target collection many notes => exact h

end Compiler

/-- A type that stands for a node is an array exactly if the node is a sequence. -/
theorem Description.StandsAs.array_iff {node : Description} {type : FieldType}
    (h : node.StandsAs type) : (∃ element, type = .array element) ↔ node.IsSequence := by
  cases node with
  | scalar kind notes =>
      cases h
      simp [IsSequence]
  | object shape =>
      obtain ⟨fields, rfl⟩ := h
      simp [IsSequence]
  | array items notes =>
      obtain ⟨element, rfl⟩ := h
      simp [IsSequence]
  | dictionary values keyOptions notes =>
      obtain ⟨field, rfl⟩ := h
      simp [IsSequence]
  | reference target collection many notes =>
      cases h
      cases many <;> simp [IsSequence]

namespace Compiler

-- Only arrays go further down, and the items of a compiled array were resolved themselves.
theorem nesting_of_resolves : ∀ {node : Description} {type : FieldType}, Resolves node type →
    type.nesting = node.nesting
  | .array items notes, _, h => by
      obtain ⟨element, helement, rfl⟩ := resolve_array_eq_ok h
      have hitems : element.nesting = items.nesting :=
        nesting_of_resolves (resolves_of_resolve helement)
      rw [FieldType.nesting, Description.nesting, hitems]
  | .scalar kind notes, _, h => by
      cases standsAs_of_resolves h
      rfl
  | .object shape, _, h => by
      obtain ⟨fields, rfl⟩ := standsAs_of_resolves h
      rfl
  | .dictionary values keyOptions notes, _, h => by
      obtain ⟨field, rfl⟩ := standsAs_of_resolves h
      rfl
  | .reference target collection many notes, _, h => by
      cases h
      cases many <;> rfl

theorem reference_of_fieldOf {node : Description} {needed : Bool} {field : Field}
    (h : fieldOf node needed (resolve node) = .ok field) (collection : String) :
    field.reference = some collection ↔
      ∃ target many notes, node = .reference target collection many notes := by
  by_cases hnode : IsReference node
  · cases node with
    | reference target collection many notes =>
        obtain ⟨options, -, rfl⟩ := referenceField_eq_ok h
        simp [eq_comm]
    | _ => exact hnode.elim
  · obtain ⟨type, options, -, -, rfl⟩ := fieldOf_eq_ok hnode h
    simp only [reduceCtorEq, false_iff]
    rintro ⟨target, many, notes, rfl⟩
    exact hnode trivial

end Compiler

/-- Every part of a compiled definition mirrors the part of the description at its place: an object's
names are those of its properties, in order and without the identifier; a field refers to a
collection exactly if its node does, and requires a value exactly if its object or dictionary does;
and a type is the one for its node and nests as many arrays. -/
theorem mirrors_of_compile {description : ObjectDescription} {definition : Fields}
    (h : compile description = .ok definition) {part : Counterpart}
    (hpart : Meets description definition part) : part.Mirrors := by
  have hcompiled := Compiler.compiledTo_of_meets h hpart
  cases part with
  | object shape fields => exact Compiler.names_compileProperties hcompiled
  | field node required field =>
      obtain ⟨needed, hneeded, hfield⟩ := hcompiled
      refine ⟨Compiler.reference_of_fieldOf hfield, ?_⟩
      rw [Compiler.required_fieldOf hfield]
      exact hneeded
  | type node type =>
      have hstands := Compiler.standsAs_of_resolves hcompiled
      exact ⟨hstands, hstands.array_iff, Compiler.nesting_of_resolves hcompiled⟩

namespace Sample

/-- The shops that sell something. -/
def shopsNode : Description := .reference none "Shops" true {}

/-- An offer must name its shops and may have a note, whatever the marks of its properties say. -/
def offer : ObjectShape Description :=
  { properties := [("_id", .objectId), ("note", .scalar .string {}), ("shops", shopsNode)]
    required := some (NameSet.ofNames ["shops"]) }

/-- Some offers, which may be missing. -/
def offersNode : Description := .array (.object offer) { optional := true }

/-- Offers by the name of the product. -/
def productsNode : Description := .dictionary offersNode [] {}

def offers : ObjectDescription := { properties := [("offers", productsNode)] }

def shopsField : Field :=
  { type := .array .objectId, required := true, reference := some "Shops" }

def offerFields : Fields :=
  [("note", { type := .scalar .string, required := false }), ("shops", shopsField)]

def offersField : Field := { type := .array (.nested offerFields), required := false }

def productsField : Field := { type := .map offersField, required := true }

def offersFields : Fields := [("offers", productsField)]

theorem compile_offers : compile offers = .ok offersFields := by
  have hnames : Text.isBlank "offers" = false ∧ Text.isBlank "note" = false ∧
      Text.isBlank "shops" = false ∧ Text.isBlank "Shops" = false := by decide +kernel
  simp only [compile, offers, Compiler.compileShape, Compiler.compileProperties, hnames]
  rfl

theorem meets_shops : Meets offers offersFields
    (.field shopsNode (Description.Requires offer.required "shops" shopsNode) shopsField) := by
  have hproducts : Meets offers offersFields (.field productsNode
      (Description.Requires offers.required "offers" productsNode) productsField) :=
    .property .whole rfl rfl
  have hoffers : Meets offers offersFields (.type offersNode offersField.type) :=
    (Meets.values hproducts.type).type
  exact .property (Meets.nested (.element hoffers)) rfl rfl

end Sample

theorem shops_mirrored : (Counterpart.field Sample.shopsNode
      (Description.Requires Sample.offer.required "shops" Sample.shopsNode)
      Sample.shopsField).Mirrors ∧
    (Counterpart.type Sample.shopsNode Sample.shopsField.type).Mirrors :=
  ⟨mirrors_of_compile Sample.compile_offers Sample.meets_shops,
    mirrors_of_compile Sample.compile_offers Sample.meets_shops.type⟩

end TypedCollections
