import TypedCollections.Proofs.Definition.OptionSources
/-!
# What a description says to its readers only

Some parts of a description are documentation: whether an object welcomes undeclared properties, what
the target of a reference looks like, whatever is said under the name of the identifier, the
annotations of the whole document, what is said about the keys of a dictionary besides their pattern,
and the mark that a node is optional where something else decides. A description stripped of them is
compiled to the same definition, or it is refused for the same fault at the same place. So two
descriptions that differ in documentation only cannot be told apart by compiling them.
-/

namespace TypedCollections

namespace Description

/-- The node without the mark that it is optional. -/
def unmarked (node : Description) : Description :=
  node.annotate fun notes => { notes with optional := false }

mutual

/-- The node stripped of its documentation. Whether the node itself is optional is for its place to
say, so its own mark is kept; the items of an array lose theirs. -/
def bare : Description → Description
  | .scalar kind notes => .scalar kind notes
  | .object shape => .object (bareShape shape)
  | .array items notes => .array (bare items).unmarked notes
  | .dictionary values keyOptions notes =>
      .dictionary (bare values) (keyOptions.filter fun option => option.1 = "pattern") notes
  | .reference _ collection many notes => .reference none collection many notes

def bareShape : ObjectShape Description → ObjectShape Description
  | ⟨properties, required, _, notes⟩ => ⟨bareProperties required properties, required, true, notes⟩

/-- The properties stripped of their documentation, without identifiers. Where a set of required
names is declared, the marks of the properties say nothing. -/
def bareProperties (declared : Option NameSet) :
    List (String × Description) → List (String × Description)
  | [] => []
  | (name, node) :: rest =>
      if name = idField then bareProperties declared rest
      else
        (name, if declared.isSome then (bare node).unmarked else bare node)
          :: bareProperties declared rest

end

end Description

/-- The description stripped of its documentation, that of the whole document included. -/
def ObjectShape.bare (description : ObjectDescription) : ObjectDescription :=
  { Description.bareShape description with annotations := {} }

namespace Compiler

open Description (unmarked bare bareShape bareProperties)

/-! ### What a compiler sees of a node -/

/-- Nothing that is compiled tells the nodes apart: they resolve to the same type, and in the same
place to the same field. -/
structure Agree (node other : Description) : Prop where
  resolve_eq : resolve node = resolve other
  field_eq : ∀ required,
    fieldOf node required (resolve node) = fieldOf other required (resolve other)

theorem Agree.trans {node middle other : Description} (hfirst : Agree node middle)
    (hsecond : Agree middle other) : Agree node other :=
  ⟨hfirst.resolve_eq.trans hsecond.resolve_eq,
    fun required => (hfirst.field_eq required).trans (hsecond.field_eq required)⟩

/-- Beyond its type, only the entries of a node and the pattern of its keys are compiled. -/
theorem agree_of_entries {node other : Description} (hnode : ¬ IsReference node)
    (hother : ¬ IsReference other) (hresolve : resolve node = resolve other)
    (hentries : node.entries = other.entries) (hkeys : keyPattern? node = keyPattern? other) :
    Agree node other := by
  refine ⟨hresolve, fun required => ?_⟩
  have hoptions : optionsOf (chain node) = optionsOf (chain other) := by
    rw [optionsOf, optionsOf, flatMap_chain, flatMap_chain, hentries]
  rw [fieldOf_eq_bind hnode, fieldOf_eq_bind hother, hresolve, hoptions, hkeys]

/-- The mark that a node is optional is not compiled. -/
theorem agree_unmarked (node : Description) : Agree node.unmarked node := by
  cases node with
  | scalar kind notes => exact ⟨rfl, fun _ => rfl⟩
  | object shape =>
      obtain ⟨properties, required, additional, notes⟩ := shape
      exact ⟨rfl, fun _ => rfl⟩
  | array items notes => exact ⟨rfl, fun _ => rfl⟩
  | dictionary values keyOptions notes => exact ⟨rfl, fun _ => rfl⟩
  | reference target collection many notes => exact ⟨rfl, fun _ => rfl⟩

/-! ### Stripping a description -/

theorem isOptional_bare (node : Description) : (bare node).isOptional = node.isOptional := by
  cases node with
  | scalar kind notes => rw [bare]
  | object shape =>
      obtain ⟨properties, required, additional, notes⟩ := shape
      rw [bare, bareShape]
      rfl
  | array items notes =>
      rw [bare]
      rfl
  | dictionary values keyOptions notes =>
      rw [bare]
      rfl
  | reference target collection many notes =>
      rw [bare]
      rfl

theorem isReference_bare (node : Description) : IsReference (bare node) ↔ IsReference node := by
  cases node <;> rw [bare] <;> exact Iff.rfl

theorem entries_bare : ∀ node : Description, (bare node).entries = node.entries
  | .scalar _ _ => by rw [bare]
  | .object ⟨_, _, _, _⟩ => by
      rw [bare, bareShape]
      rfl
  | .array items notes => by
      have hunmarked : (bare items).unmarked.entries = (bare items).entries := by
        cases bare items <;> rfl
      rw [bare, Description.entries, hunmarked, entries_bare items, Description.entries]
  | .dictionary _ _ _ => by
      rw [bare]
      rfl
  | .reference .. => by
      rw [bare]
      rfl

theorem keyPattern?_bare : ∀ node : Description, keyPattern? (bare node) = keyPattern? node
  | .array items notes => by
      have hunmarked : keyPattern? (bare items).unmarked = keyPattern? (bare items) := by
        cases bare items <;> rfl
      rw [bare, keyPattern?, hunmarked, keyPattern?_bare items, keyPattern?]
  | .dictionary _ keyOptions _ => by
      rw [bare, keyPattern?, keyPattern?]
      exact Entries.find?_filter_self keyOptions "pattern"
  | .scalar _ _ => by rw [bare]
  | .object _ => by
      rw [bare]
      rfl
  | .reference .. => by
      rw [bare]
      rfl

/-- A stripped node is compiled as the node is, as soon as it resolves to the same type. -/
theorem agree_bare_of_resolve {node : Description} (h : resolve (bare node) = resolve node) :
    Agree (bare node) node := by
  by_cases hnode : IsReference node
  · cases node with
    | reference target collection many notes =>
        rw [bare]
        exact ⟨rfl, fun _ => rfl⟩
    | _ => exact hnode.elim
  · exact agree_of_entries ((isReference_bare node).not.2 hnode) hnode h (entries_bare node)
      (keyPattern?_bare node)

mutual

-- The induction is on the node that is stripped: what stands inside it is stripped before.
theorem resolve_bare : ∀ node : Description, resolve (bare node) = resolve node
  | .scalar _ _ => by rw [bare]
  | .object shape => by rw [bare, resolve, compileShape_bareShape shape, resolve]
  | .array items notes => by
      have hitems : resolve (bare items).unmarked = resolve items :=
        (agree_unmarked (bare items)).resolve_eq.trans (resolve_bare items)
      rw [bare, resolve, hitems, resolve]
  | .dictionary values keyOptions notes => by
      have hvalues := agree_bare_of_resolve (resolve_bare values)
      rw [bare, resolve, hvalues.field_eq, isOptional_bare, resolve]
  | .reference .. => by
      rw [bare]
      rfl

theorem compileShape_bareShape : ∀ shape : ObjectShape Description,
    compileShape (bareShape shape) = compileShape shape
  | ⟨properties, required, additional, notes⟩ => by
      rw [bareShape, compileShape, compileProperties_bareProperties required properties,
        compileShape]

theorem compileProperties_bareProperties (declared : Option NameSet) :
    ∀ properties : List (String × Description),
      compileProperties declared (bareProperties declared properties)
        = compileProperties declared properties
  | [] => by rw [bareProperties]
  | (name, node) :: rest => by
      have hrest := compileProperties_bareProperties declared rest
      have hnode : Agree (bare node) node := agree_bare_of_resolve (resolve_bare node)
      rw [bareProperties]
      by_cases hname : name = idField
      · rw [if_pos hname, hrest, compileProperties.eq_def declared ((name, node) :: rest)]
        exact (if_pos hname).symm
      · rw [if_neg hname, compileProperties, compileProperties, hrest]
        -- With a declared set the mark is not looked at, without one it is kept.
        cases declared with
        | none =>
            have hrequired : isRequired none name (bare node) = isRequired none name node := by
              rw [isRequired, isRequired, isOptional_bare]
            rw [Option.isSome_none, if_neg Bool.false_ne_true, hrequired, hnode.field_eq]
        | some names =>
            have hunmarked := (agree_unmarked (bare node)).trans hnode
            rw [Option.isSome_some, if_pos rfl, hunmarked.field_eq]
            rfl

end

end Compiler

/-- Stripped of its documentation, a description is compiled to the same definition or refused for
the same fault at the same place. -/
theorem compile_bare (description : ObjectDescription) :
    compile description.bare = compile description := by
  obtain ⟨properties, required, additional, notes⟩ := description
  exact Compiler.compileShape_bareShape ⟨properties, required, additional, notes⟩

/-- Descriptions that differ in documentation only are compiled to the same definition, or refused
for the same fault at the same place. -/
theorem compile_eq_of_bare_eq {description other : ObjectDescription}
    (h : description.bare = other.bare) : compile description = compile other := by
  rw [← compile_bare description, h, compile_bare other]

namespace Sample

/-- A shelf with documentation wherever there is room for it: some of it could not be compiled. -/
def documentedShelf (lender : Description) : ObjectDescription :=
  { properties :=
      [("_id", .reference none "" false {}),
        ("owner", .reference (some (.array (.reference none "" true {}) {})) "people" false {}),
        ("labels", .dictionary (.scalar .string {})
          [("minLength", .ofNat 1), ("pattern", .string "^[a-z]$")] {}),
        ("boards", .array (.object
          { properties :=
              [("_id", .scalar .number {}), ("width", .scalar .number { optional := true })]
            required := some (NameSet.ofNames ["width"])
            additionalProperties := false
            annotations := { optional := true } }) {}),
        ("lender", lender)]
    additionalProperties := false
    annotations := { optional := true, attributes := [("type", .string "shelf")] } }

/-- The same shelf in as few words as possible. -/
def terseShelf (lender : Description) : ObjectDescription :=
  { properties :=
      [("owner", .reference none "people" false {}),
        ("labels", .dictionary (.scalar .string {}) [("pattern", .string "^[a-z]$")] {}),
        ("boards", .array (.object
          { properties := [("width", .scalar .number {})]
            required := some (NameSet.ofNames ["width"]) }) {}),
        ("lender", lender)] }

def shelfFields : Fields :=
  [("owner", { type := .objectId, required := true, reference := some "people" }),
    ("labels", { type := .map { type := .scalar .string, required := true }, required := true
                 options := [("keyMatch", .string "^[a-z]$")] }),
    ("boards", { type := .array (.nested [("width", { type := .scalar .number, required := true })])
                 required := true }),
    ("lender", { type := .scalar .string, required := true })]

theorem compile_terseShelf :
    compile (terseShelf (.scalar .string {})) = .ok shelfFields ∧
      compile (terseShelf (.reference none " " false {}))
        = .error ⟨[.property "lender"], .emptyReferenceTarget⟩ := by
  have hnames : Text.isBlank "owner" = false ∧ Text.isBlank "labels" = false ∧
      Text.isBlank "boards" = false ∧ Text.isBlank "width" = false ∧
      Text.isBlank "lender" = false ∧ Text.isBlank "people" = false ∧
      Text.isBlank " " = true := by decide +kernel
  constructor
  · simp only [compile, terseShelf, Compiler.compileShape, Compiler.compileProperties,
      Compiler.resolve, Compiler.fieldOf, Compiler.referenceField, hnames]
    rfl
  · simp only [compile, terseShelf, Compiler.compileShape, Compiler.compileProperties,
      Compiler.resolve, Compiler.fieldOf, Compiler.referenceField, hnames]
    rfl

end Sample

theorem shelves_compiled_alike :
    (∀ lender, (Sample.documentedShelf lender).bare = (Sample.terseShelf lender).bare) ∧
      compile (Sample.documentedShelf (.scalar .string {})) = .ok Sample.shelfFields ∧
      compile (Sample.documentedShelf (.reference none " " false {}))
        = .error ⟨[.property "lender"], .emptyReferenceTarget⟩ := by
  have hbare : ∀ lender, (Sample.documentedShelf lender).bare = (Sample.terseShelf lender).bare :=
    fun lender => rfl
  refine ⟨hbare, ?_, ?_⟩
  · rw [compile_eq_of_bare_eq (hbare _)]
    exact Sample.compile_terseShelf.1
  · rw [compile_eq_of_bare_eq (hbare _)]
    exact Sample.compile_terseShelf.2

end TypedCollections
