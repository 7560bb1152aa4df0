import TypedCollections.Proofs.Store.Histories
import TypedCollections.Proofs.Store.Recall
/-!
# Registry and catalog

A session registers collections in memory and records them in the catalog, in memory and in a tree.
Within a session collections are only added, each under a free name; opening the store again starts
with nothing registered and with the catalog that is read off the tree. So whatever is done to a
store, its registry, its catalog in memory and the tree agree: a registered name has the entry of its
schema in both, and every other name that was ever recorded has the entry that the octets in the tree
are read as.
-/

namespace TypedCollections

namespace Store

variable {store other : Store}

/-! ### What happens within a session -/

/-- Collections were added one after the other, each under a free name, and nothing else happened to
the registry and the catalog. -/
inductive Grows : Store → Store → Prop
  | keeps {store other : Store} (hregistry : other.registry = store.registry)
      (hcatalog : other.catalog = store.catalog) : Grows store other
  | adds {store other : Store} (now : Nat) (collection : Collection)
      (hfree : store.collection? collection.name = none)
      (hgrows : Grows (store.addCollection now collection) other) : Grows store other

theorem Grows.refl (store : Store) : store.Grows store := .keeps rfl rfl

theorem SameContent.grows (h : store.SameContent other) : store.Grows other :=
  .keeps h.registry h.catalog

private theorem Grows.of_same {first second third : Store} (hregistry : second.registry = first.registry)
    (hcatalog : second.catalog = first.catalog) (h : second.Grows third) : first.Grows third := by
  induction h generalizing first with
  | keeps hregistry' hcatalog' =>
      exact .keeps (hregistry'.trans hregistry) (hcatalog'.trans hcatalog)
  | @adds second third now collection hfree hgrows ih =>
      rw [collection?, hregistry] at hfree
      refine .adds now collection hfree (ih ?_ ?_)
      · show second.registry.insert _ _ = first.registry.insert _ _
        rw [hregistry]
      · show second.catalog.record _ = first.catalog.record _
        rw [hcatalog]

theorem Grows.trans {first second third : Store} (h : first.Grows second) (h' : second.Grows third) :
    first.Grows third := by
  induction h with
  | keeps hregistry hcatalog => exact h'.of_same hregistry hcatalog
  | adds now collection hfree _ ih => exact .adds now collection hfree (ih h')

theorem hasCollection_eq_false_iff {name : String} :
    store.hasCollection name = false ↔ store.collection? name = none := by
  rw [hasCollection, SortedMap.has, collection?, Option.isSome_eq_false_iff, Option.isNone_iff_eq_none]

theorem hasCollection_eq_true_iff {name : String} :
    store.hasCollection name = true ↔ ∃ collection, store.collection? name = some collection := by
  rw [hasCollection, SortedMap.has, collection?, Option.isSome_iff_exists]

theorem SameContent.hasCollection (h : store.SameContent other) (name : String) :
    other.hasCollection name = store.hasCollection name := by
  rw [Store.hasCollection, h.registry, Store.hasCollection]

theorem grows_register (store : Store) (now : Nat) (name : String) (schema : Schema) :
    store.Grows (store.register now name schema).2 := by
  obtain ⟨error, heq⟩ | ⟨patterns, -, -, hfree, heq⟩ := register_cases store now name schema
  · rw [heq]
    exact .refl store
  · rw [heq]
    exact .adds now _ (hasCollection_eq_false_iff.1 hfree) (.refl _)

theorem grows_registerEntity (store : Store) (now : Nat) (entity : Entity) :
    store.Grows (store.registerEntity now entity).2 := by
  obtain ⟨error, -, hsame⟩ | ⟨schema, before, collection, registered, -, hbefore, hregister, -,
    hafter⟩ := registerEntity_cases store now entity
  · exact hsame.grows
  · have hgrows := grows_register before now entity.name schema
    rw [hregister] at hgrows
    exact (hbefore.grows.trans hgrows).trans hafter.grows

theorem grows_registerPrepared (store : Store) (now : Nat) (prepared : List (String × Schema)) :
    store.Grows (store.registerPrepared now prepared).2 := by
  induction prepared generalizing store with
  | nil => exact .refl store
  | cons item rest ih =>
      have hregister := grows_register store now item.1 item.2
      rw [registerPrepared]
      cases hresult : store.register now item.1 item.2 with
      | mk result after =>
          rw [hresult] at hregister
          cases result with
          | error error => exact hregister
          | ok collection => exact (hregister.trans (sameContent_report after _).grows).trans (ih _)

theorem grows_registerAll (store : Store) (now : Nat) (entities : List Entity) :
    store.Grows (store.registerAll now entities).2 := by
  unfold registerAll
  obtain ⟨⟨error, events, heq⟩, -⟩ | ⟨-, prepared, events, heq, -⟩ :=
    prepareEach_cases store [] entities
  · rw [heq]
    exact (sameContent_reportEach store events).grows
  · rw [heq]
    exact (sameContent_reportEach store events).grows.trans (grows_registerPrepared _ now prepared)

private theorem grows_write (store : Store) (collection : Collection) (now : Nat)
    (previous : Option Document) (document : Document) :
    store.Grows (store.write collection now previous document).2 := by
  obtain ⟨error, events, heq, -⟩ | ⟨checked, unique, events, heq, -⟩ :=
    write_cases store collection now previous document
  · rw [heq]
    exact (sameContent_reportEach store events).grows
  · rw [heq]
    exact .keeps rfl rfl

private theorem grows_insert (store : Store) (collection : Collection) (now : Nat)
    (document : Document) : store.Grows (store.insert collection now document).2 := by
  unfold Store.insert
  split
  · exact .refl store
  · have hwrite := grows_write store collection now none document
    cases hresult : store.write collection now none document with
    | mk result after =>
        rw [hresult] at hwrite
        cases result with
        | error error => exact hwrite
        | ok stored => exact hwrite.trans (sameContent_report after _).grows

private theorem grows_insertJson (store : Store) (collection : Collection) (now : Nat) (json : Json) :
    store.Grows (store.insertJson collection now json).2 := by
  unfold insertJson
  split
  · rename_i members
    obtain ⟨generator, hgenerator⟩ := exists_chooseId_eq store now members
    cases hchosen : store.chooseId now members with
    | mk result after =>
        rw [hchosen] at hgenerator
        obtain rfl : after = { store with generator } := hgenerator
        cases result with
        | error error => exact .keeps rfl rfl
        | ok id =>
            have hinsert := grows_insert { store with generator } collection now
              (Document.ofFields id (Value.membersOfJson members))
            simp only
            exact @Grows.of_same store { store with generator } _ rfl rfl hinsert
  · exact .refl store

private theorem grows_update (store : Store) (collection : Collection) (now : Nat)
    (document : Document) : store.Grows (store.update collection now document).2 := by
  unfold Store.update
  split
  · exact .refl store
  · exact .refl store
  · rename_i previous _
    have hwrite := grows_write store collection now (some previous) document
    cases hresult : store.write collection now (some previous) document with
    | mk result after =>
        rw [hresult] at hwrite
        cases result with
        | error error => exact hwrite
        | ok stored => exact hwrite.trans (sameContent_report after _).grows

private theorem grows_delete (store : Store) (collection : Collection) (id : ObjectId) :
    store.Grows (store.delete collection id).2 := by
  unfold Store.delete
  simp only
  split
  · exact .refl store
  · split
    · exact .keeps rfl rfl
    · exact .keeps rfl rfl

private theorem grows_on {name : String} {ask : Collection → Answer × Store}
    (h : ∀ collection, store.Grows (ask collection).2) : store.Grows (store.on name ask).2 := by
  unfold Store.on
  split
  · exact h _
  · exact .refl store

/-- Within a session, collections are added under free names. -/
theorem grows_perform (store : Store) {step : Step} (hstep : step.InSession) :
    store.Grows (store.perform step) := by
  cases step with
  | registerEntity now entity => exact grows_registerEntity store now entity
  | registerAll now entities => exact grows_registerAll store now entities
  | request request =>
      cases request with
      | register now name schema => exact grows_register store now name schema
      | insert name now document => exact grows_on fun _ => grows_insert store _ now document
      | insertJson name now json => exact grows_on fun _ => grows_insertJson store _ now json
      | update name now document => exact grows_on fun _ => grows_update store _ now document
      | delete name id => exact grows_on fun _ => grows_delete store _ id
      | find name id => exact grows_on fun _ => .refl store
      | findAll name => exact grows_on fun _ => .refl store
      | count name => exact grows_on fun _ => .refl store
      | reopen => exact hstep.elim

/-- A step stays within the session, or it opens the store again, or it fails to. -/
theorem perform_cases (store : Store) (step : Step) :
    store.Grows (store.perform step) ∨ store.reopen = .ok (store.perform step) := by
  by_cases hstep : step.InSession
  · exact .inl (grows_perform store hstep)
  · cases step with
    | registerEntity now entity => exact absurd trivial hstep
    | registerAll now entities => exact absurd trivial hstep
    | request request =>
        cases request with
        | reopen =>
            show store.Grows (store.serve .reopen).2 ∨ store.reopen = .ok (store.serve .reopen).2
            unfold Store.serve
            cases hreopen : store.reopen with
            | error error => exact .inl (.refl store)
            | ok opened => exact .inr rfl
        | _ => exact absurd trivial hstep

/-! ### The invariant -/

/-- The registry, the catalog in memory and the tree of the catalog agree. -/
structure Coherent (store : Store) : Prop where
  /-- A registered name has the entry of its schema, in memory and in the tree. -/
  registered : ∀ name collection, store.collection? name = some collection →
    collection.name = name ∧ ∃ now,
      store.catalogEntry? name = some (.ofSchema name collection.schema now) ∧
      store.catalog.tree.find? (Utf8.encode name)
        = some (Utf8.encode (CatalogEntry.ofSchema name collection.schema now).text)
  /-- Another name has the entry that the octets in the tree are read as. -/
  carried : ∀ name, store.collection? name = none → store.catalogEntry? name
    = (store.catalog.tree.find? (Utf8.encode name)).bind CatalogEntry.ofOctets?
  readable : ∀ name octets, store.collection? name = none →
    store.catalog.tree.find? (Utf8.encode name) = some octets →
      ∃ entry, CatalogEntry.ofOctets? octets = some entry
  written : Catalog.Written store.catalog.tree

theorem coherent_fresh (database : String) (generator : ObjectId.Generator) :
    (fresh database generator).Coherent := by
  refine ⟨fun name collection h => ?_, fun _ _ => rfl, fun name octets _ h => ?_,
    Catalog.written_empty⟩
  · cases h
  · cases h

namespace Coherent

theorem addCollection (h : store.Coherent) (now : Nat) (collection : Collection) :
    (store.addCollection now collection).Coherent := by
  have htree : ∀ name, (store.addCollection now collection).catalog.tree.find? (Utf8.encode name)
      = if collection.name = name then
          some (Utf8.encode (CatalogEntry.ofSchema collection.name collection.schema now).text)
        else store.catalog.tree.find? (Utf8.encode name) := by
    intro name
    show (store.catalog.tree.insert (Utf8.encode collection.name) _).find? _ = _
    rw [SortedMap.find?_insert]
    by_cases hname : collection.name = name
    · rw [if_pos hname, if_pos (congrArg Utf8.encode hname)]
    · rw [if_neg hname, if_neg fun heq => hname (Utf8.encode_injective heq)]
  have hentry : ∀ name, Store.catalogEntry? (store.addCollection now collection) name
      = if collection.name = name then
          some (CatalogEntry.ofSchema collection.name collection.schema now)
        else store.catalogEntry? name := fun name => Catalog.find?_record _ _ name
  have hcollection : ∀ name, (store.addCollection now collection).collection? name
      = if collection.name = name then some collection else store.collection? name :=
    fun name => SortedMap.find?_insert ..
  refine ⟨fun name found hfound => ?_, fun name hnone => ?_, fun name octets hnone hoctets => ?_,
    h.written.record _⟩
  · rw [hcollection] at hfound
    rw [hentry, htree]
    split at hfound
    · rename_i hname
      cases hfound
      rw [if_pos hname, if_pos hname]
      exact ⟨hname, now, by rw [hname], by rw [hname]⟩
    · rename_i hname
      rw [if_neg hname, if_neg hname]
      exact h.registered name found hfound
  · rw [hcollection] at hnone
    split at hnone
    · cases hnone
    · rename_i hname
      rw [hentry, htree, if_neg hname, if_neg hname]
      exact h.carried name hnone
  · rw [hcollection] at hnone
    split at hnone
    · cases hnone
    · rename_i hname
      rw [htree, if_neg hname] at hoctets
      exact h.readable name octets hnone hoctets

theorem grows (h : store.Coherent) (hgrows : store.Grows other) : other.Coherent := by
  induction hgrows with
  | keeps hregistry hcatalog =>
      obtain ⟨hregistered, hcarried, hreadable, hwritten⟩ := h
      simp only [Store.collection?, catalogEntry?] at hregistered hcarried hreadable
      rw [← hregistry, ← hcatalog] at *
      exact ⟨hregistered, hcarried, hreadable, hwritten⟩
  | adds now collection _ _ ih => exact ih (h.addCollection now collection)

/-- A store opened again has the same tree, nothing registered, and under each name what the octets
in the tree are read as. All of them were read. -/
theorem catalogEntry?_reopen (h : store.Coherent) (hreopen : store.reopen = .ok other) :
    other.catalog.tree = store.catalog.tree ∧ (∀ name, other.collection? name = none) ∧
      (∀ name, other.catalogEntry? name
        = (store.catalog.tree.find? (Utf8.encode name)).bind CatalogEntry.ofOctets?) ∧
      ∀ key octets, store.catalog.tree.find? key = some octets →
        ∃ entry, CatalogEntry.ofOctets? octets = some entry := by
  obtain ⟨catalog, hcatalog, rfl⟩ := reopen_eq_ok_iff.1 hreopen
  obtain ⟨htree, hfind, hread⟩ := Catalog.find?_ofTree h.written hcatalog
  exact ⟨htree, fun _ => rfl, hfind, hread⟩

theorem reopen (h : store.Coherent) (hreopen : store.reopen = .ok other) : other.Coherent := by
  obtain ⟨htree, hcollection, hentry, hread⟩ := h.catalogEntry?_reopen hreopen
  refine ⟨fun name collection hfound => ?_, fun name _ => ?_, fun name octets _ hoctets => ?_, ?_⟩
  · rw [hcollection] at hfound
    cases hfound
  · rw [hentry, htree]
  · rw [htree] at hoctets
    exact hread _ octets hoctets
  · rw [htree]
    exact h.written

theorem perform (h : store.Coherent) (step : Step) : (store.perform step).Coherent := by
  obtain hgrows | hreopen := perform_cases store step
  · exact h.grows hgrows
  · exact h.reopen hreopen

theorem performAll (h : store.Coherent) (steps : List Step) : (store.performAll steps).Coherent := by
  induction steps generalizing store with
  | nil => exact h
  | cons step rest ih => exact ih (h.perform step)

end Coherent

/-! ### Attempts that fail -/

theorem register_of_hasCollection {name : String} (h : store.hasCollection name = true) (now : Nat)
    (schema : Schema) : ∃ error, store.register now name schema = (.error error, store) := by
  obtain hfails | ⟨patterns, -, -, hfree, -⟩ := register_cases store now name schema
  · exact hfails
  · rw [h] at hfree
    cases hfree

/-- Registering that fails leaves the store as it is. -/
theorem register_eq_of_error {now : Nat} {name : String} {schema : Schema} {error : Error}
    (h : (store.register now name schema).1 = .error error) :
    (store.register now name schema).2 = store := by
  obtain ⟨fault, heq⟩ | ⟨patterns, -, -, -, heq⟩ := register_cases store now name schema
  · rw [heq]
  · rw [heq] at h
    cases h

/-- Registering an entity that fails only reports events. -/
theorem sameContent_of_registerEntity_eq_error {now : Nat} {entity : Entity} {error : Error}
    (h : (store.registerEntity now entity).1 = .error error) :
    store.SameContent (store.registerEntity now entity).2 := by
  obtain ⟨fault, -, hsame⟩ | ⟨schema, before, collection, registered, -, -, -, hok, -⟩ :=
    registerEntity_cases store now entity
  · exact hsame
  · rw [h] at hok
    cases hok

/-- Every attempt to register the name fails: by itself, as an entity, or in a batch. -/
structure Refuses (store : Store) (name : String) : Prop where
  register : ∀ now schema, ∃ error, (store.register now name schema).1 = .error error
  registerEntity : ∀ now entity, entity.name = name →
    ∃ error, (store.registerEntity now entity).1 = .error error
  registerAll : ∀ now entities, name ∈ entities.map Entity.name →
    ∃ error, (store.registerAll now entities).1 = .error error

theorem refuses_of_hasCollection {name : String} (h : store.hasCollection name = true) :
    store.Refuses name := by
  refine ⟨fun now schema => ?_, fun now entity hname => ?_, fun now entities hmem => ?_⟩
  · obtain ⟨error, heq⟩ := register_of_hasCollection h now schema
    exact ⟨error, by rw [heq]⟩
  · obtain ⟨error, heq, -⟩ | ⟨schema, before, collection, registered, -, hbefore, hregister, -, -⟩ :=
      registerEntity_cases store now entity
    · exact ⟨error, heq⟩
    · have hhas : before.hasCollection entity.name = true := by
        rw [hasCollection, hbefore.registry, hname]
        exact h
      obtain ⟨error, herror⟩ := register_of_hasCollection hhas now schema
      rw [herror] at hregister
      cases hregister
  · unfold Store.registerAll
    obtain ⟨⟨error, events, heq⟩, -⟩ | ⟨⟨hpasses, -⟩, -⟩ := prepareEach_cases store [] entities
    · rw [heq]
      exact ⟨error, rfl⟩
    · obtain ⟨entity, hentity, rfl⟩ := List.mem_map.1 hmem
      have hfree := hpasses.fresh entity hentity
      rw [h] at hfree
      cases hfree

/-! ### What programs see -/

/-- The catalog has an entry for the name. -/
def Knows (store : Store) (name : String) : Prop :=
  ∃ entry, store.catalogEntry? name = some entry

theorem Grows.knows (h : store.Grows other) {name : String} (hknows : store.Knows name) :
    other.Knows name := by
  induction h with
  | keeps _ hcatalog =>
      unfold Knows catalogEntry?
      rw [hcatalog]
      exact hknows
  | adds now collection _ _ ih =>
      apply ih
      unfold Knows catalogEntry?
      rw [Store.addCollection, Catalog.find?_record]
      split
      · exact ⟨_, rfl⟩
      · exact hknows

/-- Whatever is in memory has octets in the tree, and all of those are read. -/
theorem Coherent.knows_of_reopen (h : store.Coherent) (hreopen : store.reopen = .ok other)
    {name : String} (hknows : store.Knows name) : other.Knows name := by
  obtain ⟨octets, hoctets⟩ : ∃ octets,
      store.catalog.tree.find? (Utf8.encode name) = some octets := by
    cases hcollection : store.collection? name with
    | some collection =>
        obtain ⟨-, now, -, htree⟩ := h.registered name collection hcollection
        exact ⟨_, htree⟩
    | none =>
        obtain ⟨entry, hentry⟩ := hknows
        rw [h.carried name hcollection] at hentry
        obtain ⟨octets, hoctets, -⟩ := Option.bind_eq_some_iff.1 hentry
        exact ⟨octets, hoctets⟩
  obtain ⟨-, -, hfind, hread⟩ := h.catalogEntry?_reopen hreopen
  obtain ⟨entry, hentry⟩ := hread _ octets hoctets
  exact ⟨entry, by rw [hfind, hoctets, Option.bind_some, hentry]⟩

/-- Recorded names stay recorded. -/
theorem Coherent.knows_performAll (h : store.Coherent) (steps : List Step) {name : String}
    (hknows : store.Knows name) : (store.performAll steps).Knows name := by
  induction steps generalizing store with
  | nil => exact hknows
  | cons step rest ih =>
      apply ih (h.perform step)
      obtain hgrows | hreopen := perform_cases store step
      · exact hgrows.knows hknows
      · exact h.knows_of_reopen hreopen hknows

/-- What a program can rely on about the collections of a session and the entries of the catalog. -/
structure WellKept (store : Store) : Prop where
  ascending : store.collectionNames.Pairwise fun a b => compare a b = .lt
  listed : ∀ name, name ∈ store.collectionNames ↔
    ∃ collection, store.collection? name = some collection
  /-- A registered name is that of its handle and has the entry of the schema the handle holds. -/
  entry : ∀ name collection, store.collection? name = some collection → collection.name = name ∧
    ∃ entry, store.catalogEntry? name = some entry ∧ entry.name = name ∧
      entry.definition = collection.schema.fields.toJson ∧
      entry.expandable = collection.schema.expandable ∧
      entry.timestamps = collection.schema.timestamps ∧
      entry.fingerprint = collection.schema.fingerprint
  /-- It keeps the handle as long as the session lasts, and cannot be registered again. -/
  kept : ∀ name collection, store.collection? name = some collection → ∀ more : List Step,
    (∀ step ∈ more, step.InSession) → (store.performAll more).collection? name = some collection ∧
      (store.performAll more).Refuses name
  /-- The catalog in memory holds the entry whose octets are in the tree, for a registered name, and
  the entry that they are read as, for a name of an earlier session. -/
  written : ∀ name entry, store.catalogEntry? name = some entry ↔
    ∃ octets, store.catalog.tree.find? (Utf8.encode name) = some octets ∧
      if store.hasCollection name then octets = Utf8.encode entry.text
      else CatalogEntry.ofOctets? octets = some entry
  /-- All octets in the tree are those of entries under their names, and an entry that is read back
  at all is the one in memory. -/
  recorded : ∀ key octets, store.catalog.tree.find? key = some octets → ∃ entry : CatalogEntry,
    key = Utf8.encode entry.name ∧ octets = Utf8.encode entry.text ∧
      (entry.definition.WellFormed → entry.Readable →
        store.catalogEntry? entry.name = some entry)
  remembered : ∀ name (more : List Step), store.Knows name → (store.performAll more).Knows name
  unchanged : ∀ now name schema error, (store.register now name schema).1 = .error error →
    (store.register now name schema).2.registry = store.registry ∧
      (store.register now name schema).2.catalog = store.catalog
  unchanged_entity : ∀ now entity error, (store.registerEntity now entity).1 = .error error →
    (store.registerEntity now entity).2.registry = store.registry ∧
      (store.registerEntity now entity).2.catalog = store.catalog

private theorem Coherent.catalogEntry?_eq_some_iff (h : store.Coherent) (name : String)
    (entry : CatalogEntry) : store.catalogEntry? name = some entry ↔
      ∃ octets, store.catalog.tree.find? (Utf8.encode name) = some octets ∧
        if store.hasCollection name then octets = Utf8.encode entry.text
        else CatalogEntry.ofOctets? octets = some entry := by
  cases hhas : store.hasCollection name with
  | false =>
      rw [h.carried name (hasCollection_eq_false_iff.1 hhas), Option.bind_eq_some_iff]
      simp
  | true =>
      obtain ⟨collection, hcollection⟩ := hasCollection_eq_true_iff.1 hhas
      obtain ⟨-, now, hentry, htree⟩ := h.registered name collection hcollection
      rw [hentry, htree]
      simp only [if_true, Option.some.injEq, exists_eq_left']
      exact ⟨fun heq => by rw [heq],
        fun heq => CatalogEntry.text_inj (Utf8.encode_injective heq)⟩

theorem Coherent.wellKept (h : store.Coherent) : store.WellKept where
  ascending := List.pairwise_map.2 store.registry.sorted
  listed name := by
    rw [collectionNames, SortedMap.mem_keys_iff]
    exact hasCollection_eq_true_iff
  entry name collection hcollection := by
    obtain ⟨hname, now, hentry, -⟩ := h.registered name collection hcollection
    exact ⟨hname, _, hentry, rfl, rfl, rfl, rfl, rfl⟩
  kept name collection hcollection more hmore := by
    have hkept := collection?_performAll hmore hcollection
    exact ⟨hkept, refuses_of_hasCollection (hasCollection_eq_true_iff.2 ⟨collection, hkept⟩)⟩
  written := h.catalogEntry?_eq_some_iff
  recorded key octets hoctets := by
    obtain ⟨entry, rfl, rfl⟩ := h.written key octets hoctets
    refine ⟨entry, rfl, rfl, fun hdefinition hreadable => ?_⟩
    rw [h.catalogEntry?_eq_some_iff]
    refine ⟨_, hoctets, ?_⟩
    split
    · rfl
    · exact CatalogEntry.ofOctets?_text hdefinition hreadable
  remembered _ more hknows := h.knows_performAll more hknows
  unchanged now name schema error herror := by
    rw [register_eq_of_error herror]
    exact ⟨rfl, rfl⟩
  unchanged_entity now entity error herror := by
    have hsame := sameContent_of_registerEntity_eq_error herror
    exact ⟨hsame.registry, hsame.catalog⟩

/-- After any steps from a fresh start, registry and catalog are well kept. -/
theorem wellKept_of_history (database : String) (generator : ObjectId.Generator)
    (steps : List Step) : ((fresh database generator).performAll steps).WellKept :=
  ((coherent_fresh database generator).performAll steps).wellKept

end Store

/-! ### Numbers that are read back differently -/

namespace Sample

/-- The number that the JSON text `1e-24` is read as. -/
def gaugeLevel : Number.Finite := (Number.scaled? false 1 (-24)).getD .zero

/-- The number that the text of `gaugeLevel` is read as. -/
def recalledLevel : Number.Finite := (Number.scaled? false 10000000000000001 (-40)).getD .zero

def gaugeFields (level : Number.Finite) : Fields :=
  [("level", ⟨.scalar .number, false, none, [("default", .number (.binary level))]⟩)]

def gaugeSchema : Schema := Schema.define (gaugeFields gaugeLevel) false

/-- The entry that is read from the octets of the entry recorded for `gaugeSchema`. -/
def recalledGauge : CatalogEntry :=
  { CatalogEntry.ofSchema "readings" gaugeSchema 0 with
    definition := (gaugeFields recalledLevel).toJson }

private theorem toJson_gaugeFields (level : Number.Finite) :
    (gaugeFields level).toJson = .object [("level", .object [("type", .string "Number"),
      ("required", .bool false), ("default", .number (.binary level))])] := rfl

private theorem reread?_gaugeLevel :
    (Numeral.binary gaugeLevel).reread? = some (.binary recalledLevel) := by
  decide +kernel

private theorem gaugeLevel_ne : gaugeLevel ≠ recalledLevel := by
  decide +kernel

private theorem ofOctets?_gauge :
    CatalogEntry.ofOctets? (Utf8.encode (CatalogEntry.ofSchema "readings" gaugeSchema 0).text)
      = some recalledGauge := by
  have hdefinition : (gaugeFields gaugeLevel).toJson.reread?
      = some (gaugeFields recalledLevel).toJson := by
    rw [toJson_gaugeFields, toJson_gaugeFields]
    simp [Json.reread?, Json.rereadMembers?, reread?_gaugeLevel]
  have htime : (Json.ofNat 0).reread? = some (Json.ofNat 0) :=
    Json.reread?_eq_self ⟨by decide, by decide⟩ trivial
  refine CatalogEntry.ofOctets?_text_eq_some_iff.2
    ⟨?_, _, Json.ofNat 0, 0, hdefinition, htime, rfl, rfl⟩
  simp [CatalogEntry.toJson, CatalogEntry.ofSchema, gaugeSchema, Schema.define,
    toJson_gaugeFields, Json.depth, Json.depthMembers, Json.depthList, Json.ofNat,
    Json.nestingLimit]

private theorem gauge_ne_recalled :
    CatalogEntry.ofSchema "readings" gaugeSchema 0 ≠ recalledGauge := by
  intro heq
  have hdefinition : (gaugeFields gaugeLevel).toJson = (gaugeFields recalledLevel).toJson :=
    congrArg CatalogEntry.definition heq
  rw [toJson_gaugeFields, toJson_gaugeFields] at hdefinition
  apply gaugeLevel_ne
  simpa using hdefinition

end Sample

namespace Store

/-- One collection is registered in a fresh store, which is opened again: the tree holds the octets of
the entry recorded, and the entry in memory is then what they are read as. -/
theorem catalogEntry?_register_reopen {name : String} {schema : Schema} {patterns : Patterns}
    {found : CatalogEntry} (database : String) (generator : ObjectId.Generator) (now : Nat)
    (hname : name ≠ "") (hpatterns : Patterns.ofFields schema.fields = .ok patterns)
    (hfound : CatalogEntry.ofOctets? (Utf8.encode (CatalogEntry.ofSchema name schema now).text)
      = some found) :
    let registered := (fresh database generator).performAll [.request (.register now name schema)]
    let reopened := registered.performAll [.request .reopen]
    registered.catalogEntry? name = some (.ofSchema name schema now) ∧
      registered.catalog.tree.find? (Utf8.encode name)
        = some (Utf8.encode (CatalogEntry.ofSchema name schema now).text) ∧
      reopened.catalogEntry? name = some found ∧
      reopened.catalog.tree.find? (Utf8.encode name)
        = some (Utf8.encode (CatalogEntry.ofSchema name schema now).text) := by
  intro registered reopened
  have hcoherent : registered.Coherent := (coherent_fresh database generator).performAll _
  have hcatalog : registered.catalog = Catalog.empty.record (.ofSchema name schema now) := by
    show ((fresh database generator).register now name schema).2.catalog = _
    rw [register_eq now hname hpatterns rfl]
    rfl
  have htree : registered.catalog.tree.find? (Utf8.encode name)
      = some (Utf8.encode (CatalogEntry.ofSchema name schema now).text) := by
    rw [hcatalog]
    exact (SortedMap.find?_insert ..).trans (if_pos rfl)
  have hreadable : registered.catalog.Readable := by
    rw [hcatalog]
    exact Catalog.readable_empty.record_of_read hfound
  have hreopen : registered.reopen = .ok reopened := by
    obtain ⟨entries, hreopen⟩ := exists_reopen_eq hreadable
    have hopened : reopened = (registered.serve .reopen).2 := rfl
    rw [hopened, Store.serve, hreopen]
  obtain ⟨htree', -, hentry, -⟩ := hcoherent.catalogEntry?_reopen hreopen
  refine ⟨?_, htree, ?_, htree'.symm ▸ htree⟩
  · show registered.catalog.find? name = _
    rw [hcatalog]
    exact (Catalog.find?_record ..).trans (if_pos rfl)
  · rw [hentry, htree, Option.bind_some, hfound]

/-- The octets recorded for a collection need not be read as its entry, and those in the tree of a
store opened again need not be the ones of the entry in memory. -/
theorem entry_unlike_octets :
    let registered := (fresh "db" Sample.generator).performAll
      [.request (.register 0 "readings" Sample.gaugeSchema)]
    let reopened := registered.performAll [.request .reopen]
    ∃ octets recorded recalled,
      registered.catalogEntry? "readings" = some recorded ∧
      registered.catalog.tree.find? (Utf8.encode "readings") = some octets ∧
      CatalogEntry.ofOctets? octets ≠ some recorded ∧
      reopened.catalogEntry? "readings" = some recalled ∧
      reopened.catalog.tree.find? (Utf8.encode "readings") = some octets ∧
      octets ≠ Utf8.encode recalled.text := by
  have hpatterns : Patterns.ofFields Sample.gaugeSchema.fields = .ok [] := rfl
  have hname : "readings" ≠ "" := by decide
  obtain ⟨hrecorded, hoctets, hrecalled, hkept⟩ := catalogEntry?_register_reopen "db"
    Sample.generator 0 hname hpatterns Sample.ofOctets?_gauge
  refine ⟨_, _, _, hrecorded, hoctets, ?_, hrecalled, hkept, ?_⟩
  · rw [Sample.ofOctets?_gauge]
    exact fun heq => Sample.gauge_ne_recalled (Option.some.inj heq).symm
  · exact fun heq =>
      Sample.gauge_ne_recalled (CatalogEntry.text_inj (Utf8.encode_injective heq))

end Store

end TypedCollections
