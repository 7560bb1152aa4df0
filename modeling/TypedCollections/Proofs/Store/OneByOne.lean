import TypedCollections.Proofs.Store.Registry
/-!
# Batches and single registrations

A batch looks up all names and compiles all descriptions before it registers the first entity.
Whoever registers the entities one after the other looks up each name only when its turn comes, when
the entities before it stand in the registry. The two agree about which lists of entities can be
registered, and then they leave the same registry and the same catalog, with the same collections.
-/

namespace TypedCollections

namespace Store

variable {store other : Store} {now : Nat}

/-- Registers entities one after the other, whatever becomes of those before. -/
def registerEach (store : Store) (now : Nat) :
    List Entity → List (Except Error Collection) × Store
  | [] => ([], store)
  | entity :: rest =>
      let (result, store) := store.registerEntity now entity
      let (results, store) := store.registerEach now rest
      (result :: results, store)

/-! ### Stores with the same content -/

theorem SameContent.symm (h : store.SameContent other) : other.SameContent store :=
  ⟨h.database.symm, h.recovered.symm, h.documents.symm, h.unique.symm, h.catalog.symm,
    h.registry.symm⟩

theorem SameContent.addCollection (h : store.SameContent other) (now : Nat)
    (collection : Collection) :
    (store.addCollection now collection).SameContent (other.addCollection now collection) where
  database := h.database
  recovered := h.recovered
  documents := h.documents
  unique := h.unique
  catalog := by
    show other.catalog.record _ = store.catalog.record _
    rw [h.catalog]
  registry := by
    show other.registry.insert _ _ = store.registry.insert _ _
    rw [h.registry]

/-- Registering looks at the content alone. -/
theorem SameContent.register (h : store.SameContent other) (now : Nat) (name : String)
    (schema : Schema) :
    (other.register now name schema).1 = (store.register now name schema).1 ∧
      (store.register now name schema).2.SameContent (other.register now name schema).2 := by
  unfold Store.register
  rw [h.hasCollection, h.database]
  split
  · exact ⟨rfl, h⟩
  · split
    · exact ⟨rfl, h⟩
    · split
      · exact ⟨rfl, h⟩
      · exact ⟨rfl, h.addCollection now _⟩

/-- Registering an entity is registering its schema, apart from the events. -/
theorem registerEntity_of_prepare {entity : Entity} {schema : Schema} (store : Store) (now : Nat)
    (h : entity.prepare = .ok schema) :
    (store.registerEntity now entity).1 = (store.register now entity.name schema).1 ∧
      (store.register now entity.name schema).2.SameContent (store.registerEntity now entity).2 := by
  obtain ⟨events, hprepare⟩ := exists_prepare_eq store entity
  obtain ⟨hresult, hsame⟩ :=
    (sameContent_reportEach store events).register now entity.name schema
  unfold registerEntity
  rw [hprepare, h]
  simp only
  cases hregister : (store.reportEach events).register now entity.name schema with
  | mk result after =>
      rw [hregister] at hresult hsame
      cases result with
      | error error => exact ⟨hresult, hsame⟩
      | ok collection => exact ⟨hresult, hsame.trans (sameContent_report _ _)⟩

/-- An entity that is registered compiles, its name was free, and it is the one name that is taken
afterwards. -/
theorem takes_of_registerEntity {entity : Entity} {collection : Collection}
    (h : (store.registerEntity now entity).1 = .ok collection) :
    (∃ schema, entity.prepare = .ok schema) ∧ store.hasCollection entity.name = false ∧
      collection.name = entity.name ∧
      ∀ name, (store.registerEntity now entity).2.hasCollection name
        = (decide (entity.name = name) || store.hasCollection name) := by
  cases hprepare : entity.prepare with
  | error error =>
      obtain ⟨events, heq⟩ := exists_prepare_eq store entity
      rw [registerEntity, heq, hprepare] at h
      cases h
  | ok schema =>
      obtain ⟨hresult, hcontent⟩ := registerEntity_of_prepare store now hprepare
      rw [h] at hresult
      obtain ⟨error, heq⟩ | ⟨patterns, -, -, hfree, heq⟩ :=
        register_cases store now entity.name schema
      · rw [heq] at hresult
        cases hresult
      · rw [heq] at hresult hcontent
        cases hresult
        refine ⟨⟨schema, rfl⟩, hfree, rfl, fun name => ?_⟩
        rw [hcontent.hasCollection, hasCollection_addCollection]

/-! ### What single registrations look up -/

/-- Entities that are registered one after the other pass what a batch looks up first. -/
theorem passes_of_registerEach {entities : List Entity}
    (h : ∀ result ∈ (store.registerEach now entities).1, ∃ collection, result = .ok collection) :
    store.Passes entities := by
  induction entities generalizing store with
  | nil => exact ⟨.nil, by simp, by simp⟩
  | cons entity rest ih =>
      rw [registerEach, List.forall_mem_cons] at h
      obtain ⟨⟨collection, hok⟩, hrest⟩ := h
      obtain ⟨hprepared, hfree, -, hnames⟩ := takes_of_registerEntity hok
      have hpasses := ih hrest
      -- The names of the rest are free although the first entity is registered.
      have hothers : ∀ other ∈ rest, entity.name ≠ other.name ∧
          store.hasCollection other.name = false := by
        intro other hmem
        have hother := hpasses.fresh other hmem
        rw [hnames, Bool.or_eq_false_iff, decide_eq_false_iff_not] at hother
        exact hother
      refine passes_cons_iff.2 ⟨⟨?_, hfree, hprepared⟩, hpasses.distinct,
        fun other hmem => (hothers other hmem).2, hpasses.prepared⟩
      intro hmem
      obtain ⟨other, hother, hname⟩ := List.mem_map.1 hmem
      exact (hothers other hother).1 hname.symm

/-! ### The two ways together -/

/-- A batch and single registrations come to the same: both register everything, with the same
collections in the order of the entities, or neither does. -/
inductive Agree (entities : List Entity) :
    Except Error (List Collection) × Store → List (Except Error Collection) × Store → Prop
  | registered {collections : List Collection} {batch each : Store}
      (names : collections.map Collection.name = entities.map Entity.name)
      (same : batch.SameContent each) :
      Agree entities (.ok collections, batch) (collections.map .ok, each)
  | refused {error fault : Error} {results : List (Except Error Collection)} {batch each : Store}
      (mem : .error fault ∈ results) :
      Agree entities (.error error, batch) (results, each)

theorem Agree.cons {entities : List Entity} {entity : Entity} {collection : Collection}
    {batch : Except Error (List Collection) × Store}
    {each : List (Except Error Collection) × Store} (hname : collection.name = entity.name)
    (h : Agree entities batch each) :
    Agree (entity :: entities) (batch.1.map (collection :: ·), batch.2)
      (.ok collection :: each.1, each.2) := by
  cases h with
  | registered names same =>
      refine .registered ?_ same
      rw [List.map_cons, List.map_cons, hname, names]
  | refused mem => exact .refused (List.mem_cons_of_mem _ mem)

/-- Prepared entities are registered as if each was prepared when its turn comes. -/
theorem agree_of_prepared {entities : List Entity} {prepared : List (String × Schema)}
    (hitems : List.Forall₂ PreparedAs entities prepared) (hsame : store.SameContent other) :
    Agree entities (store.registerPrepared now prepared) (other.registerEach now entities) := by
  induction hitems generalizing store other with
  | nil => exact .registered rfl hsame
  | @cons entity item entities prepared hitem hitems ih =>
      obtain ⟨hname, hprepare⟩ := hitem
      obtain ⟨hresult, hcontent⟩ := hsame.register now entity.name item.2
      obtain ⟨hresult', hcontent'⟩ := registerEntity_of_prepare other now hprepare
      have hboth := hcontent.trans hcontent'
      rw [registerPrepared, registerEach, hname]
      rw [hresult] at hresult'
      cases hregister : store.register now entity.name item.2 with
      | mk result after =>
          rw [hregister] at hresult' hboth
          simp only [hresult']
          cases result with
          | error error => exact .refused (List.mem_cons_self ..)
          | ok collection =>
              have hnamed : collection.name = entity.name := (takes_of_registerEntity hresult').2.2.1
              have hreport := sameContent_report after
                (.entityRegistered entity.name item.2.fields.length none)
              exact (ih (hreport.symm.trans hboth)).cons hnamed

/-- A batch agrees with registering its entities one after the other. -/
theorem agree_registerAll (store : Store) (now : Nat) (entities : List Entity) :
    Agree entities (store.registerAll now entities) (store.registerEach now entities) := by
  unfold registerAll
  obtain ⟨⟨error, events, heq⟩, hnot⟩ | ⟨-, prepared, events, heq, hitems⟩ :=
    prepareEach_cases store [] entities
  · rw [heq]
    have hfails : ∃ fault, .error fault ∈ (store.registerEach now entities).1 := by
      by_contra hall
      have hok : ∀ result ∈ (store.registerEach now entities).1,
          ∃ collection, result = .ok collection := by
        intro result hmem
        cases result with
        | ok collection => exact ⟨collection, rfl⟩
        | error fault => exact absurd ⟨fault, hmem⟩ hall
      exact hnot ⟨passes_of_registerEach hok, by simp⟩
    obtain ⟨fault, hmem⟩ := hfails
    exact .refused hmem
  · rw [heq]
    exact agree_of_prepared hitems (sameContent_reportEach store events).symm

/-- A batch succeeds exactly if registering its entities one after the other succeeds for all of
them. Then both give the same collections, in the order of the entities, and the stores that they
leave have the same registry and catalog, in memory and when the store is closed. -/
theorem registerAll_iff_registerEach (store : Store) (now : Nat) (entities : List Entity) :
    ((∃ collections, (store.registerAll now entities).1 = .ok collections) ↔
      ∀ result ∈ (store.registerEach now entities).1, ∃ collection, result = .ok collection) ∧
    ∀ collections, (store.registerAll now entities).1 = .ok collections →
      (store.registerEach now entities).1 = collections.map .ok ∧
      collections.map Collection.name = entities.map Entity.name ∧
      (store.registerEach now entities).2.registry = (store.registerAll now entities).2.registry ∧
      (store.registerEach now entities).2.catalog = (store.registerAll now entities).2.catalog ∧
      (store.registerEach now entities).2.archive = (store.registerAll now entities).2.archive := by
  have hagree := agree_registerAll store now entities
  generalize store.registerAll now entities = batch at hagree ⊢
  generalize store.registerEach now entities = each at hagree ⊢
  cases hagree with
  | registered names same =>
      refine ⟨⟨fun _ => by simp, fun _ => ⟨_, rfl⟩⟩, ?_⟩
      rintro _ ⟨⟩
      refine ⟨rfl, names, same.registry, same.catalog, ?_⟩
      rw [archive, archive, same.documents, same.unique, same.catalog]
  | refused mem =>
      refine ⟨⟨?_, fun h => ?_⟩, ?_⟩
      · rintro ⟨collections, ⟨⟩⟩
      · obtain ⟨collection, hok⟩ := h _ mem
        cases hok
      · rintro _ ⟨⟩

end Store

namespace Sample

/-- Companies, and users who refer to them. -/
def staff : List Entity :=
  [entityOf "companies" "name" [],
   ⟨"users", { properties := [("company", .reference none "companies" false {})] }, ["company"]⟩]

end Sample

namespace Store

theorem registerEach_staff :
    ∃ collections, ((fresh "db" Sample.generator).registerAll 5 Sample.staff).1 = .ok collections ∧
      ((fresh "db" Sample.generator).registerEach 5 Sample.staff).1 = collections.map .ok ∧
      collections.map Collection.name = ["companies", "users"] := by
  have hok : ((fresh "db" Sample.generator).registerAll 5 Sample.staff).1.isOk = true := by
    decide +kernel
  cases h : ((fresh "db" Sample.generator).registerAll 5 Sample.staff).1 with
  | error error =>
      rw [h] at hok
      cases hok
  | ok collections =>
      obtain ⟨-, hsame⟩ := registerAll_iff_registerEach (fresh "db" Sample.generator) 5 Sample.staff
      obtain ⟨heach, hnames, -⟩ := hsame collections h
      exact ⟨collections, rfl, heach, hnames⟩

end Store

end TypedCollections
