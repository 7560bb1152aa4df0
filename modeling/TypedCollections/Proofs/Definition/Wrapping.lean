import TypedCollections.Proofs.Definition.Faults
import TypedCollections.Proofs.Definition.Stamps
/-!
# Wrapping a description as an entity

Wrapping writes an identifier and two time stamps into a description, in the places where it declares
these names or at the end. The identifier is not compiled, and the time stamps are compiled whatever
stood in their places. So an entity has the fields of its description, in their order, but for the
time stamps; and it is refused for the fault of its description, unless this was found in a time
stamp. An entity that is wrapped again at the same reading of the clock is the same entity.
-/

namespace TypedCollections

namespace Compiler

variable {declared : Option NameSet}

/-- A property that can be compiled takes the place of any other one, or comes last, and the first
fault is still that of the others. -/
theorem compileProperties_write_eq_error {name : String} {node : Description} {field : Field}
    {properties : List (String × Description)} {error : CompileError} (hname : name ≠ idField)
    (hblank : Text.isBlank name = false)
    (hfield : fieldOf node (isRequired declared name node) (resolve node) = .ok field)
    (h : compileProperties declared properties = .error error)
    (hplace : error.place.head? ≠ some (.property name)) :
    compileProperties declared (Entries.write properties name node) = .error error := by
  induction properties with
  | nil =>
      rw [compileProperties] at h
      cases h
  | cons head rest ih =>
      obtain ⟨first, other⟩ := head
      rw [Entries.write]
      split
      · rename_i heq
        obtain rfl : first = name := heq
        -- The fault is not in the property that is replaced, so it is in a later one.
        obtain ⟨-, -, rfl⟩ | ⟨-, -, inner, -, rfl⟩ | hrest := compileProperties_cons_eq_error h
        · exact absurd rfl hplace
        · exact absurd rfl hplace
        · rw [compileProperties, if_neg hname, hblank, hfield, hrest]
          rfl
      · obtain ⟨hid, hempty, rfl⟩ | ⟨hid, hnamed, inner, hinner, rfl⟩ | hrest :=
          compileProperties_cons_eq_error h
        · rw [compileProperties, if_neg hid, hempty]
          rfl
        · rw [compileProperties, if_neg hid, hnamed, hinner]
          rfl
        · have hsame : compileProperties declared (Entries.write rest name node)
              = compileProperties declared rest := (ih hrest).trans hrest.symm
          exact (compileProperties_cons_congr (first, other) hsame).trans h

end Compiler

/-- What wrapping does to the fields of a description: each time stamp is a number that defaults to
the reading of the clock, and it needs a value unless it is left out of the declared set of required
names. It stands where it stood or comes last, and every other field is as it was. -/
structure Fields.WrappedAs (declared : Option NameSet) (reading : Nat) (fields wrapped : Fields) :
    Prop where
  names_eq : Entries.names wrapped = Entries.names fields
    ++ [createdAt, updatedAt].filter (· ∉ Entries.names fields)
  stamp : ∀ name ∈ [createdAt, updatedAt], Entries.find? wrapped name = some
    { type := .scalar .number
      required := declared.all (·.has name)
      reference := none
      options := [("default", .ofNat reading)] }
  other : wrapped.filter (·.1 ∉ [createdAt, updatedAt])
    = fields.filter (·.1 ∉ [createdAt, updatedAt])

theorem stampField_eq (declared : Option NameSet) (name : String) (reading : Nat) :
    stampField declared name reading =
      { type := .scalar .number
        required := declared.all (·.has name)
        reference := none
        options := [("default", .ofNat reading)] } := by
  cases declared <;> rfl

theorem Fields.wrappedAs_restamp (declared : Option NameSet) (reading : Nat) (fields : Fields) :
    fields.WrappedAs declared reading (fields.restamp declared reading) := by
  have hstamped := stamped_restamp declared reading fields
  refine ⟨Entries.names_write_write (by decide) _ _ _, ?_, ?_⟩
  · simp only [List.forall_mem_cons, List.not_mem_nil, false_implies, implies_true, and_true]
    rw [← stampField_eq, ← stampField_eq]
    exact ⟨hstamped.created, hstamped.updated⟩
  · rw [restamp, Entries.filter_write (by simp), Entries.filter_write (by simp)]

/-- A description that is refused outside the time stamps is refused as an entity too, for the same
fault. -/
theorem ObjectShape.compile_toEntity_eq_error {description : ObjectDescription}
    {error : CompileError} (h : compile description = .error error)
    (hplace : ∀ name ∈ [createdAt, updatedAt], error.place.head? ≠ some (.property name))
    (reading : Nat) : compile (description.toEntity reading) = .error error := by
  obtain ⟨properties, required, additional, notes⟩ := description
  have hproperties : Compiler.compileProperties required properties = .error error := h
  apply Compiler.compileProperties_write_eq_error (by decide) isBlank_updatedAt
    (fieldOf_stampNode required updatedAt reading) _ (hplace updatedAt (by simp))
  apply Compiler.compileProperties_write_eq_error (by decide) isBlank_createdAt
    (fieldOf_stampNode required createdAt reading) _ (hplace createdAt (by simp))
  exact (Compiler.compileProperties_write_idField .objectId properties).trans hproperties

/-- A description that compiles also compiles when it is wrapped as an entity, and only its time
stamps are not what they were; one that is refused outside its time stamps is refused for the same
fault; and wrapping twice at one reading of the clock is wrapping once. -/
theorem only_stamps_change_by_wrapping (description : ObjectDescription) (reading : Nat) :
    (∀ fields, compile description = .ok fields → ∃ wrapped,
      compile (description.toEntity reading) = .ok wrapped ∧
        fields.WrappedAs description.required reading wrapped) ∧
    (∀ error, compile description = .error error →
      (∀ name ∈ [createdAt, updatedAt], error.place.head? ≠ some (.property name)) →
      compile (description.toEntity reading) = .error error) ∧
    (description.toEntity reading).toEntity reading = description.toEntity reading := by
  refine ⟨fun fields h => ?_, fun error h hplace => ?_, ?_⟩
  · exact ⟨_, ObjectShape.compile_toEntity_of_compile h reading,
      Fields.wrappedAs_restamp description.required reading fields⟩
  · exact ObjectShape.compile_toEntity_eq_error h hplace reading
  · exact ObjectShape.toEntity_toEntity description reading reading

namespace Sample

/-- Notes that say themselves when they were changed, in words. Only one of the time stamps is among
the names required. -/
def note : ObjectDescription :=
  { properties := [("updatedAt", .scalar .string {}), ("title", .scalar .string {})]
    required := some (NameSet.ofNames ["createdAt", "title"]) }

def noteFields : Fields :=
  [("updatedAt", { type := .scalar .string, required := false }),
    ("title", { type := .scalar .string, required := true })]

/-- Letters whose sender is refused before their time stamp would be. -/
def letter : ObjectDescription :=
  { properties :=
      [("sender", .array (.reference none "people" false {}) {}),
        ("createdAt", .reference none " " false {})] }

def letterError : CompileError := ⟨[.property "sender", .element], .nestedReference⟩

theorem compile_note : compile note = .ok noteFields := by
  have hnames : Text.isBlank "updatedAt" = false ∧ Text.isBlank "title" = false := by
    decide +kernel
  simp only [compile, note, Compiler.compileShape, Compiler.compileProperties, hnames]
  rfl

theorem compile_letter : compile letter = .error letterError := by
  have hname : Text.isBlank "sender" = false := by decide +kernel
  simp only [compile, letter, Compiler.compileShape, Compiler.compileProperties, hname]
  rfl

end Sample

theorem notes_and_letters_wrapped :
    (∃ wrapped, compile (Sample.note.toEntity 5) = .ok wrapped ∧
      Entries.names wrapped = ["updatedAt", "title", "createdAt"] ∧
      Entries.find? wrapped "updatedAt" = some
        { type := .scalar .number, required := false, options := [("default", .ofNat 5)] } ∧
      Entries.find? wrapped "createdAt" = some
        { type := .scalar .number, required := true, options := [("default", .ofNat 5)] }) ∧
    compile (Sample.letter.toEntity 5) = .error Sample.letterError := by
  obtain ⟨hfields, -, -⟩ := only_stamps_change_by_wrapping Sample.note 5
  obtain ⟨-, herror, -⟩ := only_stamps_change_by_wrapping Sample.letter 5
  obtain ⟨wrapped, hwrapped, hnames, hstamp, -⟩ := hfields _ Sample.compile_note
  refine ⟨⟨wrapped, hwrapped, ?_, ?_, ?_⟩, herror _ Sample.compile_letter (by decide)⟩
  · rw [hnames]
    decide +kernel
  · exact hstamp updatedAt (by simp)
  · exact hstamp createdAt (by simp)

end TypedCollections
