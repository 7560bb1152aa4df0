import TypedCollections.Command.Run
import TypedCollections.Proofs.Definition.Printed
import TypedCollections.Proofs.Definition.Wrapping
import TypedCollections.Proofs.Description.ReadBack
import TypedCollections.Proofs.Store.SchemaChanges
/-!
# What registering prints

Compiling a file prints the definition its description compiles to. Registering the file comes to a
definition by way of a schema and of the catalog, and prints the catalog's entry. The definition in
the entry is the one that is compiled, and then those of the time stamps that are missing in it. None
is missing in an entity.
-/

namespace TypedCollections

namespace Store

variable {store : Store}

/-- The catalog has the entry of a registered entity, and its schema is defined by the fields that
the description is compiled to. -/
theorem catalogEntry?_registerEntity {now : Nat} {name : String} {description : ObjectDescription}
    {expandable : List String} {collection : Collection} {after : Store}
    (h : store.registerEntity now ⟨name, description, expandable⟩ = (.ok collection, after)) :
    ∃ fields schema, TypedCollections.compile description = .ok fields ∧
      schema.fields = (Schema.define fields true).fields ∧
      after.catalogEntry? name = some (.ofSchema name schema now) := by
  obtain ⟨fields, schema, patterns, hcompile, hschema, hname, hpatterns, hfree⟩ :=
    registerEntity_eq_ok h
  rw [registerEntity_eq now hcompile hschema hname hpatterns hfree] at h
  obtain ⟨-, rfl⟩ := Prod.mk.inj h
  have hfields : schema.fields = (Schema.define fields true).fields := by
    rw [(Entity.schemaOf_eq_ok_iff.1 hschema).2]
  exact ⟨fields, schema, hcompile, hfields, (Catalog.find?_record _ _ _).trans (if_pos rfl)⟩

end Store

namespace Schema

/-- The member of a definition for a time stamp that its description does not declare. -/
theorem fieldsToMembers_addedStamps (names : List String) :
    fieldsToMembers (names.map addedStamp) = names.map fun name =>
      (name, .object [("type", .string "Number"), ("required", .bool false)]) := by
  induction names with
  | nil => rfl
  | cons name rest ih =>
      rw [List.map_cons, addedStamp, fieldsToMembers, ih]
      rfl

/-- The JSON form of a definition with time stamps. -/
theorem define_toJson (fields : Fields) :
    (define fields true).fields.toJson = .object (fieldsToMembers fields
      ++ ([createdAt, updatedAt].filter (· ∉ Entries.names fields)).map fun name =>
        (name, .object [("type", .string "Number"), ("required", .bool false)])) := by
  rw [define_fields_eq_append, Fields.toJson, fieldsToMembers_append, fieldsToMembers_addedStamps]

end Schema

theorem CatalogEntry.toJson_eq_object (entry : CatalogEntry) :
    ∃ members, entry.toJson = .object members ∧
      Entries.find? members "schema" = some entry.definition :=
  ⟨_, rfl, rfl⟩

namespace Command

variable {read : FileReader} {file name text : String} {entity : Bool} {now : Nat}
  {description : ObjectDescription}

theorem loadDescription_eq {shape : ObjectDescription} (hfile : read file = .ok text)
    (hread : Description.read text = .ok (.object shape)) :
    loadDescription read file entity now
      = .ok (if entity then shape.toEntity now else shape) := by
  rw [loadDescription, hfile]
  simp only [hread]

theorem compileFile_eq {fields : Fields}
    (hload : loadDescription read file entity now = .ok description)
    (hcompile : TypedCollections.compile description = .ok fields) :
    compileFile read file entity now = .ok fields.toJson.indentedText := by
  rw [compileFile, hload]
  simp only [hcompile]

/-- A description that is loaded as an entity was wrapped at the reading of the clock. -/
theorem exists_toEntity_of_load (h : loadDescription read file true now = .ok description) :
    ∃ shape : ObjectDescription, description = shape.toEntity now := by
  unfold loadDescription at h
  split at h
  · cases h
  · split at h
    · cases h
    · rename_i shape _
      cases h
      exact ⟨shape, rfl⟩
    · cases h

/-- An entity has both time stamps, so registering adds none. -/
theorem define_fields_of_load {fields : Fields}
    (hload : loadDescription read file true now = .ok description)
    (hcompile : TypedCollections.compile description = .ok fields) :
    (Schema.define fields true).fields = fields := by
  obtain ⟨shape, rfl⟩ := exists_toEntity_of_load hload
  exact (ObjectShape.stamped_of_compile hcompile).define_fields

/-- Registering a file prints the entry of the schema that its description defines. -/
theorem registerFile_eq_ok {store : Store} {expandable : List String}
    (h : (registerFile read store name file entity expandable now).1 = .ok text) :
    ∃ description fields schema, loadDescription read file entity now = .ok description ∧
      TypedCollections.compile description = .ok fields ∧
      schema.fields = (Schema.define fields true).fields ∧
      text = (CatalogEntry.ofSchema name schema now).toJson.indentedText := by
  unfold registerFile at h
  split at h
  · cases h
  · rename_i description hload
    split at h
    · cases h
    · rename_i collection after hregister
      obtain ⟨fields, schema, hcompile, hfields, hentry⟩ :=
        Store.catalogEntry?_registerEntity hregister
      rw [hentry] at h
      exact ⟨description, fields, schema, hload, hcompile, hfields, (Except.ok.inj h).symm⟩

/-- A file can be registered under a free name if its description can be compiled, the names to be
expanded are those of references, and the patterns can be read. -/
theorem exists_registerFile_eq_ok {store : Store} {expandable : List String} {fields : Fields}
    {patterns : Patterns} (hload : loadDescription read file entity now = .ok description)
    (hcompile : TypedCollections.compile description = .ok fields)
    (hreferences : Entity.notReference? fields expandable = none) (hname : name ≠ "")
    (hpatterns : Patterns.ofFields (Schema.define fields true).fields = .ok patterns)
    (hfree : store.hasCollection name = false) :
    ∃ text, (registerFile read store name file entity expandable now).1 = .ok text := by
  have hschema : Entity.schemaOf ⟨name, description, expandable⟩ fields = .ok _ :=
    Entity.schemaOf_eq_ok_iff.2 ⟨hreferences, rfl⟩
  have hregister := Store.registerEntity_eq now hcompile hschema hname hpatterns hfree
  obtain ⟨_, _, -, -, hentry⟩ := Store.catalogEntry?_registerEntity hregister
  rw [registerFile, hload]
  simp only [hregister, hentry]
  exact ⟨_, rfl⟩

/-- Where working in a store succeeds, it does so in the store that was opened. -/
theorem withStore_eq_ok {configuration : Configuration} {generator : ObjectId.Generator}
    {archive : Option Archive} {work : Store → Except CommandError String × Store}
    (h : (withStore configuration generator archive work).1 = .ok text) :
    ∃ store, openStore configuration generator archive = .ok store ∧
      (work store).1 = .ok text := by
  unfold withStore at h
  split at h
  · cases h
  · rename_i store hopen
    exact ⟨store, hopen, h⟩

/-- Without an archive, registering starts from a fresh store. -/
theorem answer_register_none (configuration : Configuration) (generator : ObjectId.Generator)
    (expandable : List String) :
    (answer read now generator none (.register name file entity expandable configuration)).1
      = (registerFile read (.fresh configuration.database generator) name file entity expandable
        now).1 := rfl

/-- A file that can be registered can be compiled, and the definition in the entry that is printed is
the one that compiling prints, followed by the time stamps that are missing in it. An entity is
registered with the very definition it is compiled to. -/
theorem registered_definition_is_compiled {configuration : Configuration}
    {generator : ObjectId.Generator} {archive : Option Archive} {expandable : List String}
    (h : (answer read now generator archive
      (.register name file entity expandable configuration)).1 = .ok text) :
    ∃ description fields entry, loadDescription read file entity now = .ok description ∧
      TypedCollections.compile description = .ok fields ∧
      (∀ generator archive, (answer read now generator archive (.compile file entity)).1
        = .ok (Json.object (fieldsToMembers fields)).indentedText) ∧
      text = (Json.object entry).indentedText ∧
      Entries.find? entry "schema" = some (.object (fieldsToMembers fields
        ++ ([createdAt, updatedAt].filter (· ∉ Entries.names fields)).map fun stamp =>
          (stamp, .object [("type", .string "Number"), ("required", .bool false)]))) ∧
      (entity = true → Entries.find? entry "schema" = some (.object (fieldsToMembers fields))) := by
  obtain ⟨store, -, hwork⟩ := withStore_eq_ok h
  obtain ⟨description, fields, schema, hload, hcompile, hfields, rfl⟩ := registerFile_eq_ok hwork
  obtain ⟨entry, hentry, hdefinition⟩ :=
    (CatalogEntry.ofSchema name schema now).toJson_eq_object
  have hschema : Entries.find? entry "schema"
      = some (Schema.define fields true).fields.toJson := by
    rw [hdefinition, ← hfields]
    rfl
  refine ⟨description, fields, entry, hload, hcompile,
    fun _ _ => compileFile_eq hload hcompile, by rw [hentry], ?_, ?_⟩
  · rw [hschema, Schema.define_toJson]
  · rintro rfl
    rw [hschema, define_fields_of_load hload hcompile]
    rfl

end Command

namespace Sample

/-- The only file there is describes notes. -/
def noteFile : FileReader := fun file =>
  if file = "note.json" then .ok (Description.object note).toJson.text else .error .missing

theorem regular_note : (Description.object note).Regular := by
  refine ⟨?_, ⟨⟨⟨.nil, trivial⟩, ⟨.nil, trivial⟩⟩, ⟨⟨.nil, trivial⟩, ⟨.nil, trivial⟩⟩, trivial⟩,
    ⟨.nil, trivial⟩, ⟨.nil, trivial⟩⟩
  simp [Entries.Distinct, Entries.names]

theorem legible_note : (Description.object note).toJson.Legible := by
  simp [note, Description.toJson, Description.shapeToJson, Description.propertiesToMembers,
    NameSet.toMembers, Annotations.toMembers, memberIf, Json.legibleList_iff, Json.Legible,
    Json.LegibleMembers]

theorem load_note (entity : Bool) :
    Command.loadDescription noteFile "note.json" entity 5
      = .ok (if entity then note.toEntity 5 else note) := by
  apply Command.loadDescription_eq (if_pos rfl)
  exact Description.read_text regular_note legible_note (by decide +kernel)

/-- The fields of notes that were made entities. -/
def noteEntityFields : Fields :=
  [("updatedAt", stampField note.required updatedAt 5),
    ("title", { type := .scalar .string, required := true }),
    ("createdAt", stampField note.required createdAt 5)]

theorem compile_noteEntity : compile (note.toEntity 5) = .ok noteEntityFields :=
  ObjectShape.compile_toEntity_of_compile compile_note 5

theorem define_noteFields :
    (Schema.define noteFields true).fields = noteFields ++ [Schema.addedStamp createdAt] := by
  rw [Schema.define_fields_eq_append]
  rfl

/-- Notes are registered, be it as they are described or as entities. -/
theorem register_note (entity : Bool) : ∃ text,
    (Command.answer noteFile 5 generator none
      (.register "notes" "note.json" entity [] .inMemory)).1 = .ok text := by
  rw [Command.answer_register_none]
  have hload := load_note entity
  cases entity with
  | false =>
      have hpatterns : Patterns.ofFields (Schema.define noteFields true).fields = .ok [] := by
        rw [define_noteFields]
        simp only [Patterns.ofFields, noteFields, Schema.addedStamp, List.cons_append,
          List.nil_append, Patterns.addFields, Patterns.addField_scalar]
      exact Command.exists_registerFile_eq_ok hload compile_note rfl (by decide) hpatterns rfl
  | true =>
      have hpatterns : Patterns.ofFields (Schema.define noteEntityFields true).fields = .ok [] := by
        rw [Command.define_fields_of_load hload compile_noteEntity]
        simp only [Patterns.ofFields, noteEntityFields, Patterns.addFields,
          Patterns.addField_scalar, Patterns.addField_stampField]
      exact Command.exists_registerFile_eq_ok hload compile_noteEntity rfl (by decide) hpatterns rfl

end Sample

namespace Command

/-- As they are described, notes lack the time of their creation; as entities they lack nothing. -/
theorem notes_registered :
    (∃ text entry, (answer Sample.noteFile 5 Sample.generator none
        (.register "notes" "note.json" false [] .inMemory)).1 = .ok text ∧
      text = (Json.object entry).indentedText ∧
      Entries.find? entry "schema" = some (.object
        [("updatedAt", .object [("type", .string "String"), ("required", .bool false)]),
          ("title", .object [("type", .string "String"), ("required", .bool true)]),
          ("createdAt", .object [("type", .string "Number"), ("required", .bool false)])])) ∧
    ∃ text entry, (answer Sample.noteFile 5 Sample.generator none
        (.register "notes" "note.json" true [] .inMemory)).1 = .ok text ∧
      text = (Json.object entry).indentedText ∧
      Entries.find? entry "schema" = some (.object
        [("updatedAt", .object
            [("type", .string "Number"), ("required", .bool false), ("default", .ofNat 5)]),
          ("title", .object [("type", .string "String"), ("required", .bool true)]),
          ("createdAt", .object
            [("type", .string "Number"), ("required", .bool true), ("default", .ofNat 5)])]) := by
  constructor
  · obtain ⟨text, htext⟩ := Sample.register_note false
    obtain ⟨description, fields, entry, hload, hcompile, -, hentry, hschema, -⟩ :=
      registered_definition_is_compiled htext
    obtain rfl : description = Sample.note :=
      Except.ok.inj (hload.symm.trans (Sample.load_note false))
    obtain rfl : fields = Sample.noteFields :=
      Except.ok.inj (hcompile.symm.trans Sample.compile_note)
    have hmissing : [createdAt, updatedAt].filter (· ∉ Entries.names Sample.noteFields)
        = [createdAt] := by decide
    rw [hmissing] at hschema
    exact ⟨text, entry, htext, hentry, hschema⟩
  · obtain ⟨text, htext⟩ := Sample.register_note true
    obtain ⟨description, fields, entry, hload, hcompile, -, hentry, -, hschema⟩ :=
      registered_definition_is_compiled htext
    obtain rfl : description = Sample.note.toEntity 5 :=
      Except.ok.inj (hload.symm.trans (Sample.load_note true))
    obtain rfl : fields = Sample.noteEntityFields :=
      Except.ok.inj (hcompile.symm.trans Sample.compile_noteEntity)
    exact ⟨text, entry, htext, hentry, hschema rfl⟩

end Command

end TypedCollections
