import TypedCollections.Proofs.Definition.Faithful
import TypedCollections.Proofs.Entity
/-!
# The time stamps of entities

An entity is a description with an identifier and two time stamps, which default to the reading of the
clock when the entity was built. They are compiled to number fields with that default, in the places
where the description declares them or at the end. So the entities that are built from one description
at different times are compiled to definitions that differ in these two defaults and in nothing else.
-/

namespace TypedCollections

namespace Compiler

variable {declared : Option NameSet}

/-- What comes after the first property matters only by what it is compiled to. -/
theorem compileProperties_cons_congr (head : String × Description)
    {rest others : List (String × Description)}
    (h : compileProperties declared rest = compileProperties declared others) :
    compileProperties declared (head :: rest) = compileProperties declared (head :: others) := by
  obtain ⟨name, node⟩ := head
  rw [compileProperties, compileProperties, h]

/-- What a description says under the name of the identifier is not compiled. -/
theorem compileProperties_write_idField (node : Description)
    (properties : List (String × Description)) :
    compileProperties declared (Entries.write properties idField node)
      = compileProperties declared properties := by
  have hskip : ∀ (node : Description) (rest : List (String × Description)),
      compileProperties declared ((idField, node) :: rest) = compileProperties declared rest := by
    intro node rest
    rw [compileProperties, if_pos rfl]
  induction properties with
  | nil => exact hskip node []
  | cons head rest ih =>
      rw [Entries.write]
      split
      · rename_i hname
        obtain ⟨first, other⟩ := head
        obtain rfl : first = idField := hname
        rw [hskip, hskip]
      · exact compileProperties_cons_congr head ih

/-- A property that is written into an object is compiled to a field that is written into the
definition. -/
theorem compileProperties_write {name : String} {node : Description} {field : Field}
    {properties : List (String × Description)} {fields : Fields}
    (hname : name ≠ idField) (hblank : Text.isBlank name = false)
    (hfield : fieldOf node (isRequired declared name node) (resolve node) = .ok field)
    (h : compileProperties declared properties = .ok fields) :
    compileProperties declared (Entries.write properties name node)
      = .ok (Entries.write fields name field) := by
  induction properties generalizing fields with
  | nil =>
      rw [compileProperties] at h
      cases h
      rw [Entries.write, compileProperties, if_neg hname, hblank, hfield, compileProperties]
      rfl
  | cons head rest ih =>
      obtain ⟨first, other⟩ := head
      rw [Entries.write]
      split
      · rename_i heq
        obtain rfl : first = name := heq
        obtain ⟨hid, -⟩ | ⟨-, before, others, -, hothers, rfl⟩ := compileProperties_cons_eq_ok h
        · exact absurd hid hname
        · rw [compileProperties, if_neg hname, hblank, hfield, hothers, Entries.write, if_pos rfl]
          rfl
      · rename_i hne
        obtain ⟨hid, hrest⟩ | ⟨hid, before, others, hbefore, hothers, rfl⟩ :=
          compileProperties_cons_eq_ok h
        · rw [compileProperties, if_pos hid, ih hrest]
        · rw [compileProperties, if_neg hid] at h
          rw [compileProperties, if_neg hid]
          split
          · rename_i hempty
            rw [if_pos hempty] at h
            cases h
          · rw [hbefore, ih hothers, Entries.write, if_neg hne]
            rfl

end Compiler

/-- The property for a time stamp that is built at a reading of the clock. -/
def stampNode (reading : Nat) : Description :=
  Description.number.annotate (.setAttribute "default" (.ofNat reading))

/-- The field that a time stamp is compiled to. Only the declared set of required names says whether
it needs a value. -/
def stampField (declared : Option NameSet) (name : String) (reading : Nat) : Field :=
  { type := .scalar .number, required := Compiler.isRequired declared name (stampNode reading),
    options := [("default", .ofNat reading)] }

/-- The fields with the time stamps of another reading. -/
def Fields.restamp (declared : Option NameSet) (reading : Nat) (fields : Fields) : Fields :=
  Entries.write (Entries.write fields createdAt (stampField declared createdAt reading)) updatedAt
    (stampField declared updatedAt reading)

theorem stampField_inj {declared : Option NameSet} {name : String} {first second : Nat}
    (h : stampField declared name first = stampField declared name second) : first = second := by
  have hoptions := congrArg FieldOf.options h
  simp only [stampField, List.cons.injEq, Prod.mk.injEq, true_and, and_true, Json.ofNat,
    Json.number.injEq, Numeral.integer.injEq, Int.natCast_inj] at hoptions
  exact hoptions

theorem isBlank_createdAt : Text.isBlank createdAt = false := by decide +kernel

theorem isBlank_updatedAt : Text.isBlank updatedAt = false := by decide +kernel

theorem fieldOf_stampNode (declared : Option NameSet) (name : String) (reading : Nat) :
    Compiler.fieldOf (stampNode reading) (Compiler.isRequired declared name (stampNode reading))
      (Compiler.resolve (stampNode reading)) = .ok (stampField declared name reading) := by
  have hresolve : Compiler.resolve (stampNode reading) = .ok (.scalar .number) := by
    rw [stampNode, Description.number, Description.annotate, Compiler.resolve]
  rw [hresolve]
  rfl

namespace ObjectShape

theorem toEntity_properties (shape : ObjectDescription) (reading : Nat) :
    (shape.toEntity reading).properties = Entries.write (Entries.write
      (Entries.write shape.properties idField .objectId) createdAt (stampNode reading)) updatedAt
      (stampNode reading) := rfl

/-- Wrapping an entity again replaces its time stamps. -/
theorem toEntity_toEntity (shape : ObjectDescription) (first second : Nat) :
    (shape.toEntity first).toEntity second = shape.toEntity second := by
  have hne : createdAt ≠ updatedAt := by decide
  have hid : Entries.write (shape.toEntity first).properties idField .objectId
      = (shape.toEntity first).properties := by
    apply Entries.write_eq_self
    rw [toEntity_properties, Entries.find?_write, if_neg (by decide), Entries.find?_write,
      if_neg (by decide), Entries.find?_write, if_pos rfl]
  have hproperties : ((shape.toEntity first).toEntity second).properties
      = (shape.toEntity second).properties := by
    rw [toEntity_properties (shape.toEntity first), hid, toEntity_properties shape first,
      Entries.write_comm hne (Entries.mem_names_write.2 (.inl rfl)), Entries.write_write,
      Entries.write_write, toEntity_properties shape second]
  exact congrArg (fun properties => { shape with properties }) hproperties

/-- An entity is compiled to the fields of its description with the time stamps of its own. -/
theorem compile_toEntity_of_compile {shape : ObjectDescription} {fields : Fields}
    (h : compile shape = .ok fields) (reading : Nat) :
    compile (shape.toEntity reading) = .ok (fields.restamp shape.required reading) := by
  obtain ⟨properties, required, additional, notes⟩ := shape
  have hfields : Compiler.compileProperties required properties = .ok fields := h
  apply Compiler.compileProperties_write (by decide) isBlank_updatedAt
    (fieldOf_stampNode required updatedAt reading)
  apply Compiler.compileProperties_write (by decide) isBlank_createdAt
    (fieldOf_stampNode required createdAt reading)
  exact (Compiler.compileProperties_write_idField .objectId properties).trans hfields

/-- The entity built at another time is compiled to the same fields with its own time stamps. -/
theorem compile_toEntity {shape : ObjectDescription} {first : Nat} {fields : Fields}
    (h : compile (shape.toEntity first) = .ok fields) (second : Nat) :
    compile (shape.toEntity second) = .ok (fields.restamp shape.required second) := by
  rw [← toEntity_toEntity shape first second]
  exact compile_toEntity_of_compile h second

end ObjectShape

namespace Patterns

theorem addField_scalar (kind : ScalarKind) (required : Bool) (reference : Option String)
    (patterns : Patterns) :
    addField ⟨.scalar kind, required, reference, []⟩ patterns = .ok patterns := by
  rw [addField]
  show addType (.scalar kind) patterns = .ok patterns
  rw [addType]

/-- Time stamps have no patterns. -/
theorem addField_stampField (declared : Option NameSet) (name : String) (reading : Nat)
    (patterns : Patterns) : addField (stampField declared name reading) patterns = .ok patterns := by
  rw [stampField, addField]
  show addType (.scalar .number) patterns = .ok patterns
  rw [addType]

/-- A field without patterns takes the place of another one. -/
theorem addFields_write {fields : Fields} {name : String} {before after : Field}
    {patterns : Patterns} (hfind : Entries.find? fields name = some before)
    (hbefore : ∀ patterns, addField before patterns = .ok patterns)
    (hafter : ∀ patterns, addField after patterns = .ok patterns) :
    addFields (Entries.write fields name after) patterns = addFields fields patterns := by
  induction fields generalizing patterns with
  | nil => cases hfind
  | cons head rest ih =>
      obtain ⟨first, field⟩ := head
      rw [Entries.find?_cons] at hfind
      rw [Entries.write]
      split
      · rename_i hname
        rw [if_pos hname] at hfind
        cases hfind
        rw [addFields, addFields, hafter, hbefore]
      · rename_i hname
        rw [if_neg hname] at hfind
        rw [addFields, addFields]
        cases addField field patterns with
        | error fault => rfl
        | ok patterns => exact ih hfind

end Patterns

/-- Fields with time stamps of a reading. -/
structure Fields.Stamped (declared : Option NameSet) (reading : Nat) (fields : Fields) : Prop where
  created : Entries.find? fields createdAt = some (stampField declared createdAt reading)
  updated : Entries.find? fields updatedAt = some (stampField declared updatedAt reading)

theorem Fields.stamped_restamp (declared : Option NameSet) (reading : Nat) (fields : Fields) :
    (fields.restamp declared reading).Stamped declared reading := by
  constructor
  · rw [restamp, Entries.find?_write, if_neg (by decide), Entries.find?_write, if_pos rfl]
  · rw [restamp, Entries.find?_write, if_pos rfl]

/-- The fields of an entity have the time stamps of the reading it was built at. -/
theorem ObjectShape.stamped_of_compile {shape : ObjectDescription} {reading : Nat} {fields : Fields}
    (h : compile (shape.toEntity reading) = .ok fields) : fields.Stamped shape.required reading := by
  have hsame := (compile_toEntity h reading).symm.trans h
  rw [← Except.ok.inj hsame]
  exact Fields.stamped_restamp shape.required reading fields

namespace Fields

variable {declared : Option NameSet} {first : Nat} {fields : Fields}

namespace Stamped

theorem restamp_inj (h : fields.Stamped declared first) (second : Nat) :
    fields.restamp declared second = fields ↔ second = first := by
  constructor
  · intro heq
    have hcreated := (stamped_restamp declared second fields).created
    rw [heq, h.created] at hcreated
    exact (stampField_inj (Option.some.inj hcreated)).symm
  · rintro rfl
    rw [restamp, Entries.write_eq_self h.created, Entries.write_eq_self h.updated]

theorem length_restamp (h : fields.Stamped declared first) (second : Nat) :
    (fields.restamp declared second).length = fields.length := by
  have hcreated := Entries.mem_names_iff.2 ⟨_, h.created⟩
  have hupdated := Entries.mem_names_iff.2 ⟨_, h.updated⟩
  have hnames : Entries.names (fields.restamp declared second) = Entries.names fields := by
    rw [restamp, Entries.names_write, Entries.names_write, if_pos hcreated, if_pos hupdated]
  simpa [Entries.names] using congrArg List.length hnames

/-- Time stamps refer to no collection. -/
theorem reference_restamp (h : fields.Stamped declared first) (second : Nat) (name : String) :
    (Entries.find? (fields.restamp declared second) name).bind FieldOf.reference
      = (Entries.find? fields name).bind FieldOf.reference := by
  rw [restamp, Entries.find?_write, Entries.find?_write]
  split
  · rename_i hname
    rw [← hname, h.updated]
    rfl
  · split
    · rename_i hname
      rw [← hname, h.created]
      rfl
    · rfl

theorem notReference?_restamp (h : fields.Stamped declared first) (second : Nat)
    (names : List String) :
    Entity.notReference? (fields.restamp declared second) names
      = Entity.notReference? fields names := by
  unfold Entity.notReference?
  congr 1
  funext name
  rw [h.reference_restamp]

theorem define_fields (h : fields.Stamped declared first) :
    (Schema.define fields true).fields = fields := by
  have hcreated : Entries.has fields createdAt = true := by
    rw [Entries.has, h.created]
    rfl
  have hupdated : Entries.has fields updatedAt = true := by
    rw [Entries.has, h.updated]
    rfl
  show Schema.addStamp (Schema.addStamp fields createdAt) updatedAt = fields
  rw [Schema.addStamp.eq_def fields createdAt, if_pos hcreated, Schema.addStamp, if_pos hupdated]

theorem ofFields_restamp (h : fields.Stamped declared first) (second : Nat) :
    Patterns.ofFields (fields.restamp declared second) = Patterns.ofFields fields := by
  have hupdated : Entries.find? (Entries.write fields createdAt
      (stampField declared createdAt second)) updatedAt
        = some (stampField declared updatedAt first) := by
    rw [Entries.find?_write, if_neg (by decide), h.updated]
  have hstamp := fun name reading patterns => Patterns.addField_stampField declared name reading patterns
  rw [Patterns.ofFields, restamp, Patterns.addFields_write hupdated (hstamp _ _) (hstamp _ _),
    Patterns.addFields_write h.created (hstamp _ _) (hstamp _ _), Patterns.ofFields]

end Stamped

end Fields

end TypedCollections
