import TypedCollections.Proofs.Definition.Counterparts
import TypedCollections.Proofs.Definition.Faults
/-!
# Where the options of a field come from

A field has one list of options, but its node speaks at many levels: the node itself, the items of an
array, the items inside these, each with constraints and attributes. What they say is read as one
sequence, from the node inward, and of several entries that are kept under one name the last one
decides. Only the pattern of a dictionary's keys comes from elsewhere, and it has the last word.
-/

namespace TypedCollections

namespace Description

/-- The first node that is no array, from the node inward. -/
def innermost : Description → Description
  | .array items _ => items.innermost
  | node => node

/-- What the levels of a node say, from the node inward to the first one that is no array: at each
level the constraints in order, then the attributes in order. -/
def entries : Description → Options
  | .array items notes => notes.constraints ++ notes.attributes ++ items.entries
  | node => node.annotations.constraints ++ node.annotations.attributes

/-- The innermost node is a dictionary that has a pattern for its keys. -/
def HasKeyPattern (node : Description) (pattern : Json) : Prop :=
  ∃ values keyOptions notes, node.innermost = .dictionary values keyOptions notes ∧
    Entries.find? keyOptions "pattern" = some pattern

/-- The value that a node gives to an option: the pattern of keys if there is one and the option is
for it, and otherwise the value of the last entry that is kept under the name of the option. -/
inductive Gives (node : Description) : String → Json → Prop where
  | keyPattern {pattern : Json} (h : node.HasKeyPattern pattern) : Gives node keyMatchOption pattern
  | last {key name : String} {value : Json} {before after : Options}
      (hentries : node.entries = before ++ (name, value) :: after) (hname : optionKey name = key)
      (hafter : ∀ entry ∈ after, optionKey entry.1 ≠ key)
      (hkeys : key = keyMatchOption → ∀ pattern, ¬ node.HasKeyPattern pattern) :
      Gives node key value

end Description

namespace Compiler

open Description (HasKeyPattern Gives)

/-! ### What is gathered -/

theorem flatMap_chain : ∀ node : Description,
    (chain node).flatMap (fun note => note.constraints ++ note.attributes) = node.entries
  | .array items notes => by
      rw [chain, List.flatMap_cons, flatMap_chain items, Description.entries]
  | .scalar _ _ => List.append_nil _
  | .object _ => List.append_nil _
  | .dictionary _ _ _ => List.append_nil _
  | .reference .. => List.append_nil _

theorem keyPattern?_eq_some_iff {pattern : Json} : ∀ {node : Description},
    keyPattern? node = some pattern ↔ node.HasKeyPattern pattern
  | .array items _ => by
      have hitems : keyPattern? items = some pattern ↔ items.HasKeyPattern pattern :=
        keyPattern?_eq_some_iff
      exact hitems
  | .dictionary values keyOptions notes => by
      simp [keyPattern?, HasKeyPattern, Description.innermost]
  | .scalar _ _ => by simp [keyPattern?, HasKeyPattern, Description.innermost]
  | .object _ => by simp [keyPattern?, HasKeyPattern, Description.innermost]
  | .reference .. => by simp [keyPattern?, HasKeyPattern, Description.innermost]

/-- The last of the entries that are kept under a name is what is found under it. -/
theorem find?_ofList_renamed_eq_some_iff {entries : Options} {key : String} {value : Json} :
    Entries.find? (Entries.ofList (renamed entries)) key = some value ↔
      ∃ before name after, entries = before ++ (name, value) :: after ∧ optionKey name = key ∧
        ∀ entry ∈ after, optionKey entry.1 ≠ key := by
  rw [Entries.ofList, find?_writeAll_renamed, Entries.find?_nil, Option.or_none,
    Option.map_eq_some_iff]
  constructor
  · rintro ⟨⟨name, found⟩, hfind, rfl⟩
    obtain ⟨hname, after, before, hreverse, hafter⟩ := List.find?_eq_some_iff_append.1 hfind
    refine ⟨before.reverse, name, after.reverse, ?_, by simpa using hname, ?_⟩
    · rw [← List.reverse_reverse entries, hreverse]
      simp
    · intro entry hmem
      simpa using hafter entry (List.mem_reverse.1 hmem)
  · rintro ⟨before, name, after, rfl, hname, hafter⟩
    refine ⟨(name, value), List.find?_eq_some_iff_append.2 ⟨by simpa using hname, after.reverse,
      before.reverse, by simp, ?_⟩, rfl⟩
    intro entry hmem
    simpa using hafter entry (List.mem_reverse.1 hmem)

/-- The pattern of keys, if there is one, takes the place of what is gathered under its name. -/
theorem find?_addKeyPattern {options : Options} {pattern : Option Json} {key : String}
    {value : Json} :
    Entries.find? (addKeyPattern options pattern) key = some value ↔
      (key = keyMatchOption ∧ pattern = some value) ∨
      (key = keyMatchOption → pattern = none) ∧ Entries.find? options key = some value := by
  cases pattern with
  | none => simp [addKeyPattern]
  | some json =>
      rw [addKeyPattern, Entries.find?_write]
      by_cases hkey : keyMatchOption = key
      · simp [hkey]
      · simp [hkey, Ne.symm hkey]

/-- What is gathered from a node, with the pattern of keys, is what the node gives to the
options. -/
theorem find?_gathered_eq_some_iff {node : Description} {options : Options}
    (h : optionsOf (chain node) = .ok options) {key : String} {value : Json} :
    Entries.find? (addKeyPattern options (keyPattern? node)) key = some value ↔
      node.Gives key value := by
  have hkeys : keyPattern? node = none ↔ ∀ pattern, ¬ node.HasKeyPattern pattern := by
    rw [Option.eq_none_iff_forall_ne_some]
    exact forall_congr' fun pattern => not_congr keyPattern?_eq_some_iff
  rw [find?_addKeyPattern, optionsOf_eq_ok h, flatMap_chain, find?_ofList_renamed_eq_some_iff,
    keyPattern?_eq_some_iff, hkeys]
  constructor
  · rintro (⟨rfl, hpattern⟩ | ⟨hnone, before, name, after, hentries, hname, hafter⟩)
    · exact .keyPattern hpattern
    · exact .last hentries hname hafter hnone
  · intro hgives
    cases hgives with
    | keyPattern hpattern => exact .inl ⟨rfl, hpattern⟩
    | last hentries hname hafter hnone => exact .inr ⟨hnone, _, _, _, hentries, hname, hafter⟩

theorem distinct_gathered {notes : List Annotations} {options : Options}
    (h : optionsOf notes = .ok options) (pattern : Option Json) :
    Entries.Distinct (addKeyPattern options pattern) := by
  rw [optionsOf_eq_ok h]
  cases pattern with
  | none => exact Entries.distinct_ofList _
  | some json => exact Entries.distinct_write (Entries.distinct_ofList _) keyMatchOption json

/-- A node whose options were gathered gives nothing to an option that a definition writes
itself. -/
theorem not_reserved_of_gives {node : Description} {options : Options}
    (h : optionsOf (chain node) = .ok options) {key : String} {value : Json}
    (hgives : node.Gives key value) : key ∉ reservedOptions := by
  cases hgives with
  | keyPattern _ => decide
  | last hentries hname _ _ =>
      rw [← hname]
      apply not_reserved_of_addOptions h (_, value)
      rw [flatMap_chain, hentries]
      simp

/-- The options of a compiled field were gathered from its node. -/
theorem exists_gathered_of_fieldOf {node : Description} {needed : Bool} {field : Field}
    (h : fieldOf node needed (resolve node) = .ok field) :
    ∃ options, optionsOf (chain node) = .ok options ∧
      field.options = addKeyPattern options (keyPattern? node) := by
  by_cases hnode : IsReference node
  · cases node with
    | reference target collection many notes =>
        obtain ⟨options, hoptions, rfl⟩ := referenceField_eq_ok h
        exact ⟨options, hoptions, rfl⟩
    | _ => exact hnode.elim
  · obtain ⟨type, options, -, hoptions, rfl⟩ := fieldOf_eq_ok hnode h
    exact ⟨options, hoptions, rfl⟩

end Compiler

/-- Every field of a compiled definition, at any depth, has exactly the options that its node gives,
each with the value that the node gives to it, no name twice, and no name that a definition writes
itself. -/
theorem options_of_compile {description : ObjectDescription} {definition : Fields}
    (h : compile description = .ok definition) {node : Description} {required : Prop} {field : Field}
    (hfield : Meets description definition (.field node required field)) :
    (∀ key value, field.option? key = some value ↔ node.Gives key value) ∧
      Entries.Distinct field.options ∧
      ∀ key ∈ reservedOptions, key ∉ Entries.names field.options := by
  obtain ⟨needed, -, hcompiled⟩ := Compiler.compiledTo_of_meets h hfield
  obtain ⟨options, hoptions, hgathered⟩ := Compiler.exists_gathered_of_fieldOf hcompiled
  have hgives : ∀ key value, field.option? key = some value ↔ node.Gives key value := by
    intro key value
    rw [FieldOf.option?, hgathered]
    exact Compiler.find?_gathered_eq_some_iff hoptions
  refine ⟨hgives, ?_, ?_⟩
  · rw [hgathered]
    exact Compiler.distinct_gathered hoptions _
  · intro key hreserved hmem
    obtain ⟨value, hvalue⟩ := Entries.mem_names_iff.1 hmem
    exact Compiler.not_reserved_of_gives hoptions ((hgives key value).1 hvalue) hreserved

namespace Sample

/-- Words by their initial: the items of the array say again what the array says, under both names of
the option, and the dictionary inside has a pattern for its keys. -/
def wordsNode : Description :=
  .array (.dictionary (.scalar .string {}) [("pattern", .string "^[a-z]$")]
      { attributes := [("match", .string "b"), ("keyMatch", .string "c"), ("pattern", .string "d")]
        constraints := [("match", .string "e")] })
    { optional := true, attributes := [("pattern", .string "a"), ("maxItems", .ofNat 9)] }

def words : ObjectDescription :=
  { properties := [("index", .object { properties := [("words", wordsNode)] })] }

def wordsField : Field :=
  { type := .array (.map { type := .scalar .string, required := true })
    required := false
    options := [("match", .string "d"), ("maxItems", .ofNat 9), ("keyMatch", .string "^[a-z]$")] }

def wordsFields : Fields :=
  [("index", { type := .nested [("words", wordsField)], required := true })]

theorem compile_words : compile words = .ok wordsFields := by
  have hnames : Text.isBlank "index" = false ∧ Text.isBlank "words" = false := by decide +kernel
  simp only [compile, words, Compiler.compileShape, Compiler.compileProperties, hnames]
  rfl

theorem meets_words : Meets words wordsFields (.field wordsNode
    (Description.Requires none "words" wordsNode) wordsField) := by
  have hindex : Meets words wordsFields (.field (.object { properties := [("words", wordsNode)] })
      (Description.Requires words.required "index" (.object { properties := [("words", wordsNode)] }))
      { type := .nested [("words", wordsField)], required := true }) :=
    .property .whole rfl rfl
  exact .property (.nested hindex.type) rfl rfl

end Sample

theorem options_of_words :
    Sample.wordsNode.Gives "match" (.string "d") ∧
      Sample.wordsNode.Gives "keyMatch" (.string "^[a-z]$") ∧
      (∀ value, ¬ Sample.wordsNode.Gives "pattern" value) ∧
      "type" ∉ Entries.names Sample.wordsField.options := by
  obtain ⟨hgives, -, hreserved⟩ := options_of_compile Sample.compile_words Sample.meets_words
  refine ⟨(hgives _ _).1 rfl, (hgives _ _).1 rfl, fun value h => ?_, hreserved "type" (by decide)⟩
  cases (hgives _ _).2 h

end TypedCollections
