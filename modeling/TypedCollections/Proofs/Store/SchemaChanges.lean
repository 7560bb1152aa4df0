import TypedCollections.Proofs.Definition.Stamps
import TypedCollections.Proofs.Store.Registry
/-!
# When a schema is reported as changed

A collection that was recorded in an earlier session is registered again: the fingerprint of its
schema is compared with the one recorded, and a change is reported if they differ. An entity carries
the reading of the clock at which it was built, as the default of its time stamps. So one description
that is made an entity twice is registered with a changed schema, unless the clock stands still.
-/

namespace TypedCollections

/-- The schema with the time stamps of another reading. -/
def Schema.restamp (schema : Schema) (declared : Option NameSet) (reading : Nat) : Schema :=
  { schema with fields := schema.fields.restamp declared reading }

namespace Entity

/-- The schema of an entity that was built again has the time stamps of the other reading. -/
theorem schemaOf_restamp {entity other : Entity} {declared : Option NameSet} {first : Nat}
    {fields : Fields} {schema : Schema} (hfields : fields.Stamped declared first)
    (hexpandable : other.expandable = entity.expandable) (h : entity.schemaOf fields = .ok schema)
    (second : Nat) :
    schema.fields = fields ∧
      other.schemaOf (fields.restamp declared second) = .ok (schema.restamp declared second) := by
  obtain ⟨hreferences, rfl⟩ := schemaOf_eq_ok_iff.1 h
  refine ⟨hfields.define_fields, schemaOf_eq_ok_iff.2 ⟨?_, ?_⟩⟩
  · rw [hexpandable, hfields.notReference?_restamp]
    exact hreferences
  · rw [(Fields.stamped_restamp declared second fields).define_fields, hexpandable, Schema.restamp,
      hfields.define_fields]

end Entity

namespace Store

variable {store : Store}

/-- How an entity is registered. -/
theorem registerEntity_eq {name : String} {description : ObjectDescription}
    {expandable : List String} {fields : Fields} {schema : Schema} {patterns : Patterns} (now : Nat)
    (hcompile : TypedCollections.compile description = .ok fields)
    (hschema : Entity.schemaOf ⟨name, description, expandable⟩ fields = .ok schema)
    (hname : name ≠ "") (hpatterns : Patterns.ofFields schema.fields = .ok patterns)
    (hfree : store.hasCollection name = false) :
    store.registerEntity now ⟨name, description, expandable⟩
      = (.ok ⟨name, store.database, schema, patterns⟩,
        ((store.report (.compiled fields.length)).addCollection now
          ⟨name, store.database, schema, patterns⟩).report
            (.entityRegistered name schema.fields.length (some expandable))) := by
  have hregister := @register_eq (store.report (.compiled fields.length)) name schema patterns now
    hname hpatterns hfree
  unfold registerEntity Store.prepare Store.compile
  rw [hcompile]
  simp only [hschema, hregister]
  rfl

/-- An entity that was registered was prepared, and could be registered. -/
theorem registerEntity_eq_ok {now : Nat} {name : String} {description : ObjectDescription}
    {expandable : List String} {collection : Collection} {after : Store}
    (h : store.registerEntity now ⟨name, description, expandable⟩ = (.ok collection, after)) :
    ∃ fields schema patterns, TypedCollections.compile description = .ok fields ∧
      Entity.schemaOf ⟨name, description, expandable⟩ fields = .ok schema ∧ name ≠ "" ∧
      Patterns.ofFields schema.fields = .ok patterns ∧ store.hasCollection name = false := by
  obtain ⟨error, herror, -⟩ | ⟨schema, before, _, _, hprepare, hbefore, hregister, -, -⟩ :=
    registerEntity_cases store now ⟨name, description, expandable⟩
  · rw [h] at herror
    cases herror
  · obtain ⟨fields, hcompile, hschema⟩ := Entity.prepare_eq_ok hprepare
    obtain ⟨error, herror⟩ | ⟨patterns, hname, hpatterns, hfree, -⟩ :=
      register_cases before now name schema
    · rw [herror] at hregister
      cases hregister
    · rw [hasCollection, hbefore.registry] at hfree
      exact ⟨fields, schema, patterns, hcompile, hschema, hname, hpatterns, hfree⟩

/-- What an earlier session recorded of a registered collection is what the next one compares with. -/
theorem Coherent.exists_previous (h : store.Coherent) {opened : Store} {name : String}
    {collection : Collection} (hcollection : store.collection? name = some collection)
    (hreopen : store.reopen = .ok opened) :
    opened.hasCollection name = false ∧ ∃ previous, opened.catalogEntry? name = some previous ∧
      previous.fingerprint = collection.schema.fingerprint := by
  obtain ⟨-, now, -, htree⟩ := h.registered name collection hcollection
  obtain ⟨-, hnone, hentry, hread⟩ := h.catalogEntry?_reopen hreopen
  obtain ⟨previous, hprevious⟩ := hread _ _ htree
  refine ⟨hasCollection_eq_false_iff.2 (hnone name), previous, ?_,
    (CatalogEntry.recalls_of_ofOctets? hprevious).fingerprint⟩
  rw [hentry, htree, Option.bind_some, hprevious]

/-- The events of registering an entity whose name has an entry with the previous fingerprint. -/
def entityEvents (name : String) (expandable : List String) (schema : Schema) (previous : String) :
    List Event :=
  .compiled schema.fields.length ::
    ((if previous = schema.fingerprint then []
      else [.schemaChanged name previous schema.fingerprint]) ++
      [.registered name schema.fields.length,
        .entityRegistered name schema.fields.length (some expandable)])

private theorem log_registerEntity {collection : Collection} {previous : CatalogEntry}
    (h : store.catalogEntry? collection.name = some previous) (now : Nat) (expandable : List String) :
    (((store.report (.compiled collection.schema.fields.length)).addCollection now collection).report
        (.entityRegistered collection.name collection.schema.fields.length (some expandable))).log
      = store.log ++ entityEvents collection.name expandable collection.schema
        previous.fingerprint := by
  have hfind : (store.report (.compiled collection.schema.fields.length)).catalog.find?
      (CatalogEntry.ofSchema collection.name collection.schema now).name = some previous := h
  simp only [Store.report, addCollection, entityEvents, schemaChange] at hfind ⊢
  rw [hfind]
  simp only [List.append_assoc, List.cons_append, List.nil_append]
  rfl

/-- A description is made an entity and registered in one session, and again in the next one. -/
theorem Coherent.registers_again (h : store.Coherent) {shape : ObjectDescription} {name : String}
    {expandable : List String} {now first : Nat} {collection : Collection} {registered opened : Store}
    (hregister : store.registerEntity now ⟨name, shape.toEntity first, expandable⟩
      = (.ok collection, registered))
    (hreopen : registered.reopen = .ok opened) (now' second : Nat) :
    collection.schema.fields.Stamped shape.required first ∧
    (∀ field ∈ collection.schema.fields.all, field.options.Unreserved) ∧
    (∀ field ∈ (collection.schema.restamp shape.required second).fields.all,
      field.options.Unreserved) ∧
    ∃ again after, opened.registerEntity now' ⟨name, shape.toEntity second, expandable⟩
        = (.ok again, after) ∧
      again.schema = collection.schema.restamp shape.required second ∧
      after.log = opened.log ++ entityEvents name expandable again.schema
        collection.schema.fingerprint := by
  obtain ⟨fields, schema, patterns, hcompile, hschema, hname, hpatterns, hfree⟩ :=
    registerEntity_eq_ok hregister
  have hregistered : registered.Coherent := by
    have hgrows := grows_registerEntity store now ⟨name, shape.toEntity first, expandable⟩
    rw [hregister] at hgrows
    exact h.grows hgrows
  rw [registerEntity_eq now hcompile hschema hname hpatterns hfree] at hregister
  obtain ⟨hcollection, hstore⟩ := Prod.mk.inj hregister
  cases hcollection
  have hsome : registered.collection? name = some ⟨name, store.database, schema, patterns⟩ := by
    rw [← hstore]
    exact collection?_addCollection _ now ⟨name, store.database, schema, patterns⟩
  obtain ⟨hfree', previous, hprevious, hfingerprint⟩ := hregistered.exists_previous hsome hreopen
  -- The entity built again is prepared just as it was before.
  have hstamped := ObjectShape.stamped_of_compile hcompile
  obtain ⟨rfl, hagain⟩ := @Entity.schemaOf_restamp ⟨name, shape.toEntity first, expandable⟩
    ⟨name, shape.toEntity second, expandable⟩ _ _ _ _ hstamped rfl hschema second
  have hpatterns' : Patterns.ofFields (schema.restamp shape.required second).fields
      = .ok patterns := hstamped.ofFields_restamp second ▸ hpatterns
  have hcompile' := ObjectShape.compile_toEntity hcompile second
  refine ⟨hstamped, unreserved_compile hcompile, unreserved_compile hcompile', _, _,
    registerEntity_eq now' hcompile' hagain hname hpatterns' hfree', rfl, ?_⟩
  rw [← hfingerprint]
  exact @log_registerEntity opened
    ⟨name, opened.database, schema.restamp shape.required second, patterns⟩ previous hprevious now'
    expandable

/-- A description is made an entity and registered, whatever happened before, and again after the
store was opened again. The second time it has the schema of the first with its own time stamps, and
the same fingerprint is taken of both exactly if the clock stood still; a change is reported exactly
if the fingerprints differ. -/
theorem registering_again (database : String) (generator : ObjectId.Generator) (steps : List Step)
    {shape : ObjectDescription} {name : String} {expandable : List String} {now first : Nat}
    {collection : Collection} {registered opened : Store}
    (hregister : ((fresh database generator).performAll steps).registerEntity now
      ⟨name, shape.toEntity first, expandable⟩ = (.ok collection, registered))
    (hreopen : registered.reopen = .ok opened) (now' second : Nat) :
    ∃ again after, opened.registerEntity now' ⟨name, shape.toEntity second, expandable⟩
        = (.ok again, after) ∧
      collection.schema.fields.Stamped shape.required first ∧
      again.schema = collection.schema.restamp shape.required second ∧
      (again.schema.fingerprintInput = collection.schema.fingerprintInput ↔ second = first) ∧
      after.log = opened.log ++ entityEvents name expandable again.schema
        collection.schema.fingerprint := by
  have hcoherent := (coherent_fresh database generator).performAll steps
  obtain ⟨hstamped, hfields, hrestamped, again, after, hagain, hschema, hlog⟩ :=
    hcoherent.registers_again hregister hreopen now' second
  refine ⟨again, after, hagain, hstamped, hschema, ?_, hlog⟩
  rw [hschema, ← hstamped.restamp_inj]
  constructor
  · intro hinput
    exact (Schema.fingerprintInput_inj hrestamped hfields hinput).1
  · intro hsame
    rw [Schema.restamp, hsame]

end Store

/-! ### A clock that moves -/

namespace Sample

def userShape : ObjectDescription := .ofProperties [("name", .text)]

def userFields (reading : Nat) : Fields :=
  [("name", ⟨.scalar .string, true, none, []⟩), (createdAt, stampField none createdAt reading),
    (updatedAt, stampField none updatedAt reading)]

/-- The schema of users that are made an entity at a reading of the clock. -/
def userSchema (reading : Nat) : Schema :=
  ⟨userFields reading, true, [], some (identifierTransform .empty), some (identifierTransform .empty)⟩

private theorem compile_userShape (reading : Nat) :
    compile (userShape.toEntity reading) = .ok (userFields reading) := by
  have hname : Text.isBlank "name" = false := by decide +kernel
  have hshape : compile userShape = .ok [("name", ⟨.scalar .string, true, none, []⟩)] := by
    show Compiler.compileProperties none [("name", .text)] = _
    rw [Compiler.compileProperties, if_neg (by decide), hname, Description.text, Compiler.resolve]
    rfl
  exact ObjectShape.compile_toEntity_of_compile hshape reading

private theorem stamped_userFields (reading : Nat) : (userFields reading).Stamped none reading :=
  ⟨rfl, rfl⟩

private theorem schemaOf_userFields (reading : Nat) :
    Entity.schemaOf ⟨"users", userShape.toEntity reading, []⟩ (userFields reading)
      = .ok (userSchema reading) := by
  refine Entity.schemaOf_eq_ok_iff.2 ⟨rfl, ?_⟩
  rw [(stamped_userFields reading).define_fields]
  rfl

private theorem ofFields_userFields (reading : Nat) :
    Patterns.ofFields (userFields reading) = .ok [] := by
  simp only [Patterns.ofFields, userFields, Patterns.addFields, Patterns.addField_scalar,
    Patterns.addField_stampField]

/-- Users are registered in a fresh store. -/
theorem register_users (reading : Nat) :
    ∃ registered, (Store.fresh "db" generator).registerEntity 0
        ⟨"users", userShape.toEntity reading, []⟩
        = (.ok ⟨"users", "db", userSchema reading, []⟩, registered) ∧
      registered.catalog = Catalog.empty.record (.ofSchema "users" (userSchema reading) 0) :=
  ⟨_, Store.registerEntity_eq 0 (compile_userShape reading) (schemaOf_userFields reading)
    (by decide) (ofFields_userFields reading) rfl, rfl⟩

private theorem toJson_userFields (reading : Nat) : (userFields reading).toJson
    = .object [("name", .object [("type", .string "String"), ("required", .bool true)]),
        (createdAt, .object [("type", .string "Number"), ("required", .bool true),
          ("default", .ofNat reading)]),
        (updatedAt, .object [("type", .string "Number"), ("required", .bool true),
          ("default", .ofNat reading)])] := rfl

/-- What is recorded of users is read back. -/
theorem exists_reopen_users {registered : Store}
    (hcatalog : registered.catalog = Catalog.empty.record (.ofSchema "users" (userSchema 0) 0)) :
    ∃ opened, registered.reopen = .ok opened := by
  have hdefinition : (userFields 0).toJson.WellFormed := by
    rw [toJson_userFields]
    simp [Json.WellFormed, Json.WellFormedMembers, Entries.Distinct, Entries.names, createdAt,
      updatedAt, Json.ofNat, Numeral.Fits]
  have hentry : (CatalogEntry.ofSchema "users" (userSchema 0) 0).Readable := by
    apply (CatalogEntry.readable_iff (by show 0 < 1 <<< 64; decide)).2
    show (userFields 0).toJson.Legible ∧ (userFields 0).toJson.depth < Json.nestingLimit
    rw [toJson_userFields]
    simp [Json.Legible, Json.LegibleMembers, Json.depth, Json.depthMembers, Json.ofNat,
      Json.nestingLimit]
  have hreadable : registered.catalog.Readable := by
    rw [hcatalog]
    exact Catalog.readable_empty.record hdefinition hentry
  obtain ⟨entries, hreopen⟩ := Store.exists_reopen_eq hreadable
  exact ⟨_, hreopen⟩

private theorem fingerprint_userSchema : (userSchema 0).fingerprint ≠ (userSchema 1).fingerprint := by
  decide +kernel

end Sample

namespace Store

/-- While the clock stands still, nothing is reported. -/
theorem registering_users_again : ∃ registered opened again after,
    (fresh "db" Sample.generator).registerEntity 0 ⟨"users", Sample.userShape.toEntity 0, []⟩
      = (.ok ⟨"users", "db", Sample.userSchema 0, []⟩, registered) ∧
    registered.reopen = .ok opened ∧
    opened.registerEntity 1 ⟨"users", Sample.userShape.toEntity 0, []⟩ = (.ok again, after) ∧
    again.schema.fingerprint = (Sample.userSchema 0).fingerprint ∧
    after.log = opened.log ++
      [.compiled 3, .registered "users" 3, .entityRegistered "users" 3 (some [])] := by
  obtain ⟨registered, hregister, hcatalog⟩ := Sample.register_users 0
  obtain ⟨opened, hreopen⟩ := Sample.exists_reopen_users hcatalog
  obtain ⟨again, after, hagain, hstamped, hschema, hinput, hlog⟩ :=
    registering_again "db" Sample.generator [] hregister hreopen 1 0
  have hfingerprint : again.schema.fingerprint = (Sample.userSchema 0).fingerprint :=
    congrArg Digest.hex (hinput.2 rfl)
  have hlength : again.schema.fields.length = 3 := by
    rw [hschema]
    exact hstamped.length_restamp 0
  refine ⟨registered, opened, again, after, hregister, hreopen, hagain, hfingerprint, ?_⟩
  rw [hlog, entityEvents, hfingerprint, if_pos rfl, hlength]
  rfl

/-- A millisecond later the same description has another fingerprint, and a change is reported. -/
theorem change_reported_of_same_shape : ∃ collection registered opened again after,
    (fresh "db" Sample.generator).registerEntity 0 ⟨"users", Sample.userShape.toEntity 0, []⟩
      = (.ok collection, registered) ∧
    registered.reopen = .ok opened ∧
    opened.registerEntity 1 ⟨"users", Sample.userShape.toEntity 1, []⟩ = (.ok again, after) ∧
    again.schema.fingerprint ≠ collection.schema.fingerprint ∧
    Event.schemaChanged "users" collection.schema.fingerprint again.schema.fingerprint ∈ after.log := by
  obtain ⟨registered, hregister, hcatalog⟩ := Sample.register_users 0
  obtain ⟨opened, hreopen⟩ := Sample.exists_reopen_users hcatalog
  obtain ⟨-, -, -, again, after, hagain, hschema, hlog⟩ :=
    (coherent_fresh "db" Sample.generator).registers_again hregister hreopen 1 1
  have hne : (Sample.userSchema 0).fingerprint ≠ again.schema.fingerprint := by
    rw [hschema]
    exact Sample.fingerprint_userSchema
  refine ⟨_, registered, opened, again, after, hregister, hreopen, hagain, hne.symm, ?_⟩
  rw [hlog, entityEvents, if_neg hne]
  simp

end Store

end TypedCollections
