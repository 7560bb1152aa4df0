import TypedCollections.Proofs.Definition.Compiler
import TypedCollections.Proofs.Except
/-!
# Which descriptions compile

A description compiles exactly if every property reached in it has a name, every reference reached
names a collection and is no item of an array, and no node reached carries an option that a definition
writes itself. A description that does not compile is refused with a place that is reached in it and
the rule that is broken at this place.

Options are the one thing that is not reported where it stands: what the items of an array carry is
gathered by the array, so the place is that of the property or of the dictionary's value which holds
the outermost array.
-/

namespace TypedCollections

/-- A constraint or an attribute is kept under the given name. -/
def Annotations.Carries (notes : Annotations) (key : String) : Prop :=
  ∃ option ∈ notes.constraints ++ notes.attributes, optionKey option.1 = key

/-- No constraint and no attribute is kept under a name that a definition writes itself. -/
def Annotations.Unreserved (notes : Annotations) : Prop :=
  ∀ key, notes.Carries key → key ∉ reservedOptions

/-- The text that a step adds to the place before it. -/
def DescriptionStep.mark : DescriptionStep → String
  | .property name => "." ++ name
  | .element => "[]"
  | .value => "\x7b\x7d"

namespace ObjectShape

/-- The nodes reached from an object, with their places: the nodes of its properties, and from each
node reached those of the properties of an object, the items of an array and the values of a
dictionary. Nothing is reached under the name of the identifier, and nothing through a reference. -/
inductive Reached (description : ObjectDescription) : DescriptionPlace → Description → Prop where
  | property {name : String} {node : Description} (hmem : (name, node) ∈ description.properties)
      (hname : name ≠ idField) : Reached description [.property name] node
  | inner {place : DescriptionPlace} {shape : ObjectShape Description} {name : String}
      {node : Description} (h : Reached description place (.object shape))
      (hmem : (name, node) ∈ shape.properties) (hname : name ≠ idField) :
      Reached description (place ++ [.property name]) node
  | element {place : DescriptionPlace} {items : Description} {notes : Annotations}
      (h : Reached description place (.array items notes)) :
      Reached description (place ++ [.element]) items
  | value {place : DescriptionPlace} {values : Description} {keyOptions : Options}
      {notes : Annotations} (h : Reached description place (.dictionary values keyOptions notes)) :
      Reached description (place ++ [.value]) values

/-- What a definition can express: no property without a name, no reference without a collection or
inside an array, and no option of a reserved name. -/
structure Expressible (description : ObjectDescription) : Prop where
  named : ∀ {place : DescriptionPlace} {name : String} {node : Description},
    description.Reached (place ++ [.property name]) node → Text.isBlank name = false
  targeted : ∀ {place : DescriptionPlace} {target : Option Description} {collection : String}
    {many : Bool} {notes : Annotations},
    description.Reached place (.reference target collection many notes) →
      Text.isBlank collection = false
  outside_arrays : ∀ {place : DescriptionPlace} {items : Description} {notes : Annotations},
    description.Reached place (.array items notes) → ¬ Compiler.IsReference items
  unreserved : ∀ {place : DescriptionPlace} {node : Description},
    description.Reached place node → node.annotations.Unreserved

/-- The place is reached and breaks the rule that the fault is about. A reserved option may stand on
the node or, if the node is an array, on the items at any level inside it. -/
def Breaks (description : ObjectDescription) (place : DescriptionPlace) : CompileFault → Prop
  | .emptyFieldName => ∃ outer name node, place = outer ++ [.property name] ∧
      description.Reached place node ∧ Text.isBlank name = true
  | .emptyReferenceTarget => ∃ target collection many notes,
      description.Reached place (.reference target collection many notes) ∧
        Text.isBlank collection = true
  | .nestedReference => ∃ outer target collection many notes, place = outer ++ [.element] ∧
      description.Reached place (.reference target collection many notes)
  | .reservedOption key => key ∈ reservedOptions ∧ (∀ outer, place ≠ outer ++ [.element]) ∧
      ∃ levels node, description.Reached (place ++ List.replicate levels .element) node ∧
        node.annotations.Carries key

variable {description : ObjectDescription}

/-- What is reached as an item of an array is an item of an array that is reached. -/
theorem exists_array_of_reached {place : DescriptionPlace} {node : Description}
    (h : description.Reached (place ++ [.element]) node) :
    ∃ notes, description.Reached place (.array node notes) := by
  generalize hlast : place ++ [.element] = whole at h
  cases h with
  | property hmem hname =>
      have := (List.append_inj' (hlast.trans (List.nil_append _).symm) rfl).2
      cases this
  | inner h hmem hname => cases (List.append_inj' hlast rfl).2
  | element h =>
      obtain ⟨rfl, -⟩ := List.append_inj' hlast rfl
      exact ⟨_, h⟩
  | value h => cases (List.append_inj' hlast rfl).2

/-- A description in which some place breaks a rule has no definition. -/
theorem not_expressible_of_breaks {place : DescriptionPlace} {fault : CompileFault}
    (h : description.Breaks place fault) : ¬ description.Expressible := by
  intro hexpressible
  cases fault with
  | emptyFieldName =>
      obtain ⟨outer, name, node, rfl, hreached, hblank⟩ := h
      rw [hexpressible.named hreached] at hblank
      cases hblank
  | emptyReferenceTarget =>
      obtain ⟨target, collection, many, notes, hreached, hblank⟩ := h
      rw [hexpressible.targeted hreached] at hblank
      cases hblank
  | nestedReference =>
      obtain ⟨outer, target, collection, many, notes, rfl, hreached⟩ := h
      obtain ⟨notes', harray⟩ := exists_array_of_reached hreached
      exact hexpressible.outside_arrays harray trivial
  | reservedOption key =>
      obtain ⟨hkey, -, levels, node, hreached, hcarries⟩ := h
      exact hexpressible.unreserved hreached key hcarries hkey

end ObjectShape

namespace Compiler

open ObjectShape

/-! ### Options -/

theorem addOptions_eq_error {options more : Options} {error : CompileError}
    (h : addOptions options more = .error error) :
    ∃ option ∈ more, optionKey option.1 ∈ reservedOptions ∧
      error = ⟨[], .reservedOption (optionKey option.1)⟩ := by
  induction more generalizing options with
  | nil => cases h
  | cons option rest ih =>
      obtain ⟨key, value⟩ := option
      rw [addOptions] at h
      split at h
      · rename_i hreserved
        cases h
        exact ⟨(key, value), List.mem_cons_self .., hreserved, rfl⟩
      · obtain ⟨option, hmem, hrest⟩ := ih h
        exact ⟨option, List.mem_cons_of_mem _ hmem, hrest⟩

theorem not_reserved_of_addOptions {options more result : Options}
    (h : addOptions options more = .ok result) :
    ∀ option ∈ more, optionKey option.1 ∉ reservedOptions := by
  induction more generalizing options with
  | nil => simp
  | cons option rest ih =>
      obtain ⟨key, value⟩ := option
      rw [addOptions] at h
      split at h
      · cases h
      · rename_i hreserved
        exact List.forall_mem_cons.2 ⟨hreserved, ih h⟩

/-- Options cannot be gathered only because one of the annotations carries a reserved one. -/
theorem optionsOf_eq_error {notes : List Annotations} {error : CompileError}
    (h : optionsOf notes = .error error) :
    ∃ key ∈ reservedOptions, (∃ note ∈ notes, note.Carries key) ∧ error = ⟨[], .reservedOption key⟩ := by
  obtain ⟨option, hmem, hreserved, rfl⟩ := addOptions_eq_error h
  obtain ⟨note, hnote, hoption⟩ := List.mem_flatMap.1 hmem
  exact ⟨_, hreserved, ⟨note, hnote, option, hoption, rfl⟩, rfl⟩

theorem unreserved_of_optionsOf {notes : List Annotations} {options : Options}
    (h : optionsOf notes = .ok options) : ∀ note ∈ notes, note.Unreserved := by
  rintro note hnote key ⟨option, hoption, rfl⟩
  exact not_reserved_of_addOptions h option (List.mem_flatMap.2 ⟨note, hnote, hoption⟩)

theorem annotations_mem_chain (node : Description) : node.annotations ∈ chain node := by
  cases node with
  | array items notes => exact List.mem_cons_self ..
  | _ => exact List.mem_singleton_self _

/-- The annotations that a node gathers are those of the node and of the items inside it. -/
theorem exists_reached_of_mem_chain {description : ObjectDescription} {note : Annotations} :
    ∀ {node : Description} {place : DescriptionPlace}, description.Reached place node →
      note ∈ chain node →
      ∃ levels inner, description.Reached (place ++ List.replicate levels .element) inner ∧
        inner.annotations = note
  | .array items notes, place, hreached, hmem => by
      rcases List.mem_cons.1 hmem with rfl | hmem
      · exact ⟨0, _, by simpa using hreached, rfl⟩
      · obtain ⟨levels, inner, hinner, hnote⟩ := exists_reached_of_mem_chain hreached.element hmem
        refine ⟨levels + 1, inner, ?_, hnote⟩
        rw [List.replicate_succ, List.append_cons]
        exact hinner
  | .scalar _ _, _, hreached, hmem
  | .object _, _, hreached, hmem
  | .dictionary _ _ _, _, hreached, hmem
  | .reference .., _, hreached, hmem => by
      cases List.mem_singleton.1 hmem
      exact ⟨0, _, by simpa using hreached, rfl⟩

/-! ### Faults name a place that breaks a rule -/

theorem referenceField_eq_error {collection : String} {many required : Bool} {notes : Annotations}
    {error : CompileError} (h : referenceField collection many required notes = .error error) :
    (Text.isBlank collection = true ∧ error = ⟨[], .emptyReferenceTarget⟩) ∨
      optionsOf [notes] = .error error := by
  unfold referenceField at h
  split at h
  · rename_i hblank
    cases h
    exact .inl ⟨hblank, rfl⟩
  · obtain hoptions | ⟨options, -, h⟩ := bind_eq_error_iff.1 h
    · exact .inr hoptions
    · cases h

/-- A field is refused for a blank collection, for the type of its node, or for an option of the node
or of the items inside it. -/
theorem fieldOf_eq_error {node : Description} {required : Bool} {error : CompileError}
    (h : fieldOf node required (resolve node) = .error error) :
    (∃ target collection many notes, node = .reference target collection many notes ∧
      Text.isBlank collection = true ∧ error = ⟨[], .emptyReferenceTarget⟩) ∨
    (¬ IsReference node ∧ resolve node = .error error) ∨
    optionsOf (chain node) = .error error := by
  by_cases hnode : IsReference node
  · cases node with
    | reference target collection many notes =>
        obtain ⟨hblank, rfl⟩ | hoptions := referenceField_eq_error h
        · exact .inl ⟨target, collection, many, notes, rfl, hblank, rfl⟩
        · exact .inr (.inr hoptions)
    | _ => exact hnode.elim
  · rw [fieldOf_eq_bind hnode] at h
    obtain hresolve | ⟨type, -, h⟩ := bind_eq_error_iff.1 h
    · exact .inr (.inl ⟨hnode, hresolve⟩)
    · obtain hoptions | ⟨options, -, h⟩ := bind_eq_error_iff.1 h
      · exact .inr (.inr hoptions)
      · cases h

/-- The first property is refused for its name or for its field, or a later one is refused. -/
theorem compileProperties_cons_eq_error {declared : Option NameSet} {name : String}
    {node : Description} {rest : List (String × Description)} {error : CompileError}
    (h : compileProperties declared ((name, node) :: rest) = .error error) :
    (name ≠ idField ∧ Text.isBlank name = true ∧ error = ⟨[.property name], .emptyFieldName⟩) ∨
    (name ≠ idField ∧ Text.isBlank name = false ∧ ∃ inner,
      fieldOf node (isRequired declared name node) (resolve node) = .error inner ∧
        error = inner.within (.property name)) ∨
    compileProperties declared rest = .error error := by
  rw [compileProperties] at h
  split at h
  · exact .inr (.inr h)
  · rename_i hname
    split at h
    · rename_i hblank
      cases h
      exact .inl ⟨hname, hblank, rfl⟩
    · rename_i hblank
      split at h
      · rename_i hfield
        cases h
        exact .inr (.inl ⟨hname, by simpa using hblank, mapError_eq_error_iff.1 hfield⟩)
      · exact .inr (.inr (map_eq_error_iff.1 h))

section

variable {description : ObjectDescription}

/-- The options of a node that starts a chain are refused at its place. -/
private theorem breaks_of_optionsOf {node : Description} {place : DescriptionPlace}
    {error : CompileError} (hreached : description.Reached place node)
    (hstart : ∀ outer, place ≠ outer ++ [.element])
    (h : optionsOf (chain node) = .error error) :
    description.Breaks (place ++ error.place) error.fault := by
  obtain ⟨key, hkey, ⟨note, hnote, hcarries⟩, rfl⟩ := optionsOf_eq_error h
  obtain ⟨levels, inner, hinner, rfl⟩ := exists_reached_of_mem_chain hreached hnote
  rw [List.append_nil]
  exact ⟨hkey, hstart, levels, inner, hinner, hcarries⟩

private theorem breaks_of_fieldOf {node : Description} {required : Bool} {place : DescriptionPlace}
    {error : CompileError} (hreached : description.Reached place node)
    (hstart : ∀ outer, place ≠ outer ++ [.element])
    (hresolve : ¬ IsReference node → resolve node = .error error →
      description.Breaks (place ++ error.place) error.fault)
    (h : fieldOf node required (resolve node) = .error error) :
    description.Breaks (place ++ error.place) error.fault := by
  obtain ⟨target, collection, many, notes, rfl, hblank, rfl⟩ | ⟨hnode, herror⟩ | hoptions :=
    fieldOf_eq_error h
  · rw [List.append_nil]
    exact ⟨target, collection, many, notes, hreached, hblank⟩
  · exact hresolve hnode herror
  · exact breaks_of_optionsOf hreached hstart hoptions

private theorem append_property_ne (place outer : DescriptionPlace) (name : String) :
    place ++ [.property name] ≠ outer ++ [.element] := by
  intro h
  cases (List.append_inj' h rfl).2

private theorem append_value_ne (place outer : DescriptionPlace) :
    place ++ [.value] ≠ outer ++ [DescriptionStep.element] := by
  intro h
  cases (List.append_inj' h rfl).2

mutual

-- The fault is found inside a node and named from there, so the induction is on the node and keeps
-- the place of the node in front. A reference is resolved only as an item of an array.
theorem breaks_of_resolve : ∀ {node : Description} {place : DescriptionPlace} {error : CompileError},
    description.Reached place node → (IsReference node → ∃ outer, place = outer ++ [.element]) →
    resolve node = .error error → description.Breaks (place ++ error.place) error.fault
  | .scalar _ _, _, _, _, _, h => by
      rw [resolve] at h
      cases h
  | .object ⟨properties, declared, _, _⟩, _, _, hreached, _, h => by
      rw [resolve, compileShape] at h
      exact breaks_of_compileProperties (fun _ _ => hreached.inner) (map_eq_error_iff.1 h)
  | .array items notes, place, _, hreached, _, h => by
      rw [resolve] at h
      obtain ⟨inner, hinner, rfl⟩ := mapError_eq_error_iff.1 (map_eq_error_iff.1 h)
      have hbreaks := breaks_of_resolve hreached.element (fun _ => ⟨place, rfl⟩) hinner
      rw [← List.append_cons] at hbreaks
      exact hbreaks
  | .dictionary values keyOptions notes, place, _, hreached, _, h => by
      rw [resolve] at h
      obtain ⟨inner, hinner, rfl⟩ := mapError_eq_error_iff.1 (map_eq_error_iff.1 h)
      have hbreaks := breaks_of_fieldOf hreached.value (append_value_ne place)
        (fun hvalues => breaks_of_resolve hreached.value fun hreference => absurd hreference hvalues)
        hinner
      rw [← List.append_cons] at hbreaks
      exact hbreaks
  | .reference target collection many notes, place, _, hreached, hplace, h => by
      rw [resolve] at h
      cases h
      obtain ⟨outer, rfl⟩ := hplace trivial
      rw [List.append_nil]
      exact ⟨outer, target, collection, many, notes, rfl, hreached⟩

theorem breaks_of_compileProperties : ∀ {properties : List (String × Description)}
    {declared : Option NameSet} {place : DescriptionPlace} {error : CompileError},
    (∀ name node, (name, node) ∈ properties → name ≠ idField →
      description.Reached (place ++ [.property name]) node) →
    compileProperties declared properties = .error error →
      description.Breaks (place ++ error.place) error.fault
  | [], _, _, _, _, h => by
      rw [compileProperties] at h
      cases h
  | (name, node) :: rest, declared, place, error, hreached, h => by
      obtain ⟨hname, hblank, rfl⟩ | ⟨hname, -, inner, hinner, rfl⟩ | hrest :=
        compileProperties_cons_eq_error h
      · exact ⟨place, name, node, rfl, hreached name node (List.mem_cons_self ..) hname, hblank⟩
      · have hnode := hreached name node (List.mem_cons_self ..) hname
        have hbreaks := breaks_of_fieldOf hnode (append_property_ne place · name)
          (fun hreference => breaks_of_resolve hnode fun h => absurd h hreference) hinner
        rw [← List.append_cons] at hbreaks
        exact hbreaks
      · exact breaks_of_compileProperties
          (fun name node hmem => hreached name node (List.mem_cons_of_mem _ hmem)) hrest

end

end

/-! ### What is reached in a compiled description -/

/-- What holds of a node that was compiled. -/
structure Accepted (node : Description) : Prop where
  target : ∀ {target : Option Description} {collection : String} {many : Bool} {notes : Annotations},
    node = .reference target collection many notes → Text.isBlank collection = false
  type : ¬ IsReference node → ∃ type, resolve node = .ok type
  options : ∀ note ∈ chain node, note.Unreserved

private theorem isBlank_of_referenceField {collection : String} {many required : Bool}
    {notes : Annotations} {field : Field}
    (h : referenceField collection many required notes = .ok field) :
    Text.isBlank collection = false := by
  unfold referenceField at h
  split at h
  · cases h
  · rename_i hblank
    simpa using hblank

theorem accepted_of_fieldOf {node : Description} {required : Bool} {field : Field}
    (h : fieldOf node required (resolve node) = .ok field) : Accepted node := by
  by_cases hnode : IsReference node
  · cases node with
    | reference target collection many notes =>
        obtain ⟨options, hoptions, -⟩ := referenceField_eq_ok h
        refine ⟨?_, fun hnode => absurd trivial hnode, unreserved_of_optionsOf hoptions⟩
        rintro _ _ _ _ ⟨⟩
        exact isBlank_of_referenceField h
    | _ => exact hnode.elim
  · obtain ⟨type, options, htype, hoptions, -⟩ := fieldOf_eq_ok hnode h
    refine ⟨?_, fun _ => ⟨type, htype⟩, unreserved_of_optionsOf hoptions⟩
    rintro target collection many notes rfl
    exact absurd trivial hnode

/-- Every property of a compiled object has a name and was compiled. -/
theorem accepted_of_compileProperties {declared : Option NameSet}
    {properties : List (String × Description)} {fields : Fields}
    (h : compileProperties declared properties = .ok fields) {name : String} {node : Description}
    (hmem : (name, node) ∈ properties) (hname : name ≠ idField) :
    Text.isBlank name = false ∧ Accepted node := by
  induction properties generalizing fields with
  | nil => cases hmem
  | cons head rest ih =>
      obtain ⟨first, firstNode⟩ := head
      rcases List.mem_cons.1 hmem with heq | hmem
      · cases heq
        obtain ⟨hid, -⟩ | ⟨-, field, others, hfield, -, -⟩ := compileProperties_cons_eq_ok h
        · exact absurd hid hname
        · refine ⟨?_, accepted_of_fieldOf hfield⟩
          rw [compileProperties, if_neg hname] at h
          split at h
          · cases h
          · rename_i hblank
            simpa using hblank
      · obtain ⟨-, hrest⟩ | ⟨-, field, others, -, hrest, -⟩ := compileProperties_cons_eq_ok h
        · exact ih hrest hmem
        · exact ih hrest hmem

theorem Accepted.property {shape : ObjectShape Description} (h : Accepted (.object shape))
    {name : String} {node : Description} (hmem : (name, node) ∈ shape.properties)
    (hname : name ≠ idField) : Text.isBlank name = false ∧ Accepted node := by
  obtain ⟨type, htype⟩ := h.type id
  obtain ⟨fields, hfields, -⟩ := resolve_object_eq_ok htype
  exact accepted_of_compileProperties hfields hmem hname

theorem Accepted.not_isReference {items : Description} {notes : Annotations}
    (h : Accepted (.array items notes)) : ¬ IsReference items := by
  obtain ⟨type, htype⟩ := h.type id
  obtain ⟨element, helement, -⟩ := resolve_array_eq_ok htype
  intro hitems
  cases items with
  | reference target collection many notes =>
      rw [resolve] at helement
      cases helement
  | _ => exact hitems

theorem Accepted.items {items : Description} {notes : Annotations}
    (h : Accepted (.array items notes)) : Accepted items := by
  refine ⟨?_, fun _ => ?_, fun note hnote => h.options note (List.mem_cons_of_mem _ hnote)⟩
  · rintro _ _ _ _ rfl
    exact absurd trivial h.not_isReference
  · obtain ⟨type, htype⟩ := h.type id
    obtain ⟨element, helement, -⟩ := resolve_array_eq_ok htype
    exact ⟨element, helement⟩

theorem Accepted.values {values : Description} {keyOptions : Options} {notes : Annotations}
    (h : Accepted (.dictionary values keyOptions notes)) : Accepted values := by
  obtain ⟨type, htype⟩ := h.type id
  obtain ⟨field, hfield, -⟩ := resolve_dictionary_eq_ok htype
  exact accepted_of_fieldOf hfield

/-- Every node reached in a description that compiles was compiled. -/
theorem accepted_of_reached {description : ObjectDescription} {fields : Fields}
    (h : compile description = .ok fields) {place : DescriptionPlace} {node : Description}
    (hreached : description.Reached place node) : Accepted node := by
  induction hreached with
  | property hmem hname =>
      obtain ⟨properties, declared, additional, notes⟩ := description
      exact (accepted_of_compileProperties h hmem hname).2
  | inner _ hmem hname ih => exact (ih.property hmem hname).2
  | element _ ih => exact ih.items
  | value _ ih => exact ih.values

/-- Every property reached in a description that compiles has a name. -/
theorem isBlank_of_reached {description : ObjectDescription} {fields : Fields}
    (h : compile description = .ok fields) {place : DescriptionPlace} {name : String}
    {node : Description} (hreached : description.Reached (place ++ [.property name]) node) :
    Text.isBlank name = false := by
  generalize hlast : place ++ [.property name] = whole at hreached
  cases hreached with
  | property hmem hname =>
      cases (List.append_inj' (hlast.trans (List.nil_append _).symm) rfl).2
      obtain ⟨properties, declared, additional, notes⟩ := description
      exact (accepted_of_compileProperties h hmem hname).1
  | inner hshape hmem hname =>
      cases (List.append_inj' hlast rfl).2
      exact ((accepted_of_reached h hshape).property hmem hname).1
  | element _ => cases (List.append_inj' hlast rfl).2
  | value _ => cases (List.append_inj' hlast rfl).2

theorem expressible_of_compile {description : ObjectDescription} {fields : Fields}
    (h : compile description = .ok fields) : description.Expressible where
  named := isBlank_of_reached h
  targeted hreached := (accepted_of_reached h hreached).target rfl
  outside_arrays hreached := (accepted_of_reached h hreached).not_isReference
  unreserved hreached := (accepted_of_reached h hreached).options _ (annotations_mem_chain _)

/-! ### The text of a place -/

/-- A refused description is refused at a property, and further inside only if this property has a
name. -/
private theorem exists_property_of_error {declared : Option NameSet}
    {properties : List (String × Description)} {error : CompileError}
    (h : compileProperties declared properties = .error error) :
    ∃ name rest, error.place = .property name :: rest ∧ (rest = [] ∨ Text.isBlank name = false) := by
  induction properties with
  | nil => cases h
  | cons head rest ih =>
      obtain ⟨name, node⟩ := head
      obtain ⟨-, -, rfl⟩ | ⟨-, hblank, inner, -, rfl⟩ | hrest := compileProperties_cons_eq_error h
      · exact ⟨name, [], rfl, .inl rfl⟩
      · exact ⟨name, inner.place, rfl, .inr hblank⟩
      · exact ih hrest

end Compiler

/-- Behind a property with a name every step adds its mark. -/
private theorem text_eq_join {name : String} {rest : DescriptionPlace}
    (h : rest = [] ∨ Text.isBlank name = false) :
    DescriptionPlace.text (.property name :: rest)
      = name ++ String.join (rest.map DescriptionStep.mark) := by
  obtain rfl | hblank := h
  · simp [DescriptionPlace.text]
  · have hname : name ≠ "" := by
      rintro rfl
      cases hblank
    clear hblank
    change rest.foldl _ name = _
    induction rest generalizing name with
    | nil => simp
    | cons step rest ih =>
        -- What is written so far is not empty, so a property adds its dot.
        have hmore : name ++ step.mark ≠ "" := by simp [hname]
        rw [List.foldl_cons, List.map_cons, String.join_cons, ← String.append_assoc, ← ih hmore]
        cases step with
        | property next => simp [DescriptionStep.mark, hname, String.append_assoc]
        | element => rfl
        | value => rfl

/-- A description compiles exactly if a definition can express it. If it does not compile, the place
named by the error breaks the rule named by the error, and its text is that of the names joined by
dots, with brackets for items and braces for values. -/
theorem compiles_iff_expressible (description : ObjectDescription) :
    ((∃ fields, compile description = .ok fields) ↔ description.Expressible) ∧
    ∀ error, compile description = .error error → description.Breaks error.place error.fault ∧
      ∃ name rest, error.place = .property name :: rest ∧
        error.place.text = name ++ String.join (rest.map DescriptionStep.mark) := by
  have hbreaks : ∀ error, compile description = .error error →
      description.Breaks error.place error.fault := by
    intro error h
    obtain ⟨properties, declared, additional, notes⟩ := description
    change ObjectShape.Breaks _ ([] ++ error.place) error.fault
    exact Compiler.breaks_of_compileProperties (fun _ _ => .property) h
  refine ⟨⟨?_, ?_⟩, ?_⟩
  · rintro ⟨fields, h⟩
    exact Compiler.expressible_of_compile h
  · intro hexpressible
    cases h : compile description with
    | ok fields => exact ⟨fields, rfl⟩
    | error error => exact absurd hexpressible (ObjectShape.not_expressible_of_breaks (hbreaks error h))
  · intro error h
    refine ⟨hbreaks error h, ?_⟩
    obtain ⟨properties, declared, additional, notes⟩ := description
    obtain ⟨name, rest, hplace, hrest⟩ := Compiler.exists_property_of_error h
    exact ⟨name, rest, hplace, by rw [hplace, text_eq_join hrest]⟩

namespace Sample

/-- Rooms by name, each with a grid of numbers that claim to be references. -/
def rooms : ObjectDescription :=
  { properties :=
      [("rooms", .dictionary (.object
        { properties :=
            [("grid", .array (.array (.scalar .number { attributes := [("ref", .bool true)] }) {})
              {})] }) [] {})] }

/-- The reserved option stands on the numbers and is reported at the grid. -/
def roomsError : CompileError :=
  ⟨[.property "rooms", .value, .property "grid"], .reservedOption "ref"⟩

theorem compile_rooms : compile rooms = .error roomsError := by
  have hnames : Text.isBlank "rooms" = false ∧ Text.isBlank "grid" = false := by decide +kernel
  simp only [compile, rooms, Compiler.compileShape, Compiler.compileProperties, hnames]
  rfl

end Sample

theorem breaks_at_grid :
    Sample.rooms.Breaks Sample.roomsError.place (.reservedOption "ref") ∧
      ¬ Sample.rooms.Expressible ∧ Sample.roomsError.place.text = "rooms\x7b\x7d.grid" := by
  obtain ⟨hiff, herror⟩ := compiles_iff_expressible Sample.rooms
  obtain ⟨hbreaks, name, rest, hplace, htext⟩ := herror _ Sample.compile_rooms
  refine ⟨hbreaks, fun hexpressible => ?_, ?_⟩
  · obtain ⟨fields, hfields⟩ := hiff.2 hexpressible
    rw [Sample.compile_rooms] at hfields
    cases hfields
  · cases hplace
    rw [htext]
    decide +kernel

end TypedCollections
