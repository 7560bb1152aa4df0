import TypedCollections.Entity
import TypedCollections.Proofs.Store.Failures
import TypedCollections.Proofs.Store.Registering
/-!
# Batches of entities

Several entities are prepared before the first one is registered. What is looked up then are the
names and what the descriptions compile to. Registering asks for more: a name that is not empty, and
patterns that can be read. A batch that passes and holds an entity which lacks these is registered
up to that entity.
-/

namespace TypedCollections

/-- What registering asks of an entity beyond its preparation: a name, and patterns that can be
read. -/
def Entity.Registrable (entity : Entity) : Prop :=
  entity.name ≠ "" ∧ ∀ schema, entity.prepare = .ok schema →
    ∃ patterns, Patterns.ofFields schema.fields = .ok patterns

namespace Store

/-- What is looked up before the first entity of a batch is registered: the names are new and
different from each other, and the descriptions compile. -/
structure Passes (store : Store) (entities : List Entity) : Prop where
  distinct : (entities.map Entity.name).Nodup
  fresh : ∀ entity ∈ entities, store.hasCollection entity.name = false
  prepared : ∀ entity ∈ entities, ∃ schema, entity.prepare = .ok schema

variable {store : Store}

/-! ### Preparing -/

theorem passes_cons_iff {entity : Entity} {rest : List Entity} :
    store.Passes (entity :: rest) ↔
      (entity.name ∉ rest.map Entity.name ∧ store.hasCollection entity.name = false ∧
        ∃ schema, entity.prepare = .ok schema) ∧ store.Passes rest := by
  constructor
  · intro h
    obtain ⟨hdistinct, hfresh, hprepared⟩ := h
    rw [List.map_cons, List.nodup_cons] at hdistinct
    rw [List.forall_mem_cons] at hfresh hprepared
    exact ⟨⟨hdistinct.1, hfresh.1, hprepared.1⟩, hdistinct.2, hfresh.2, hprepared.2⟩
  · intro h
    obtain ⟨⟨hnew, hfresh, hprepared⟩, hrest⟩ := h
    exact ⟨List.nodup_cons.2 ⟨hnew, hrest.distinct⟩, List.forall_mem_cons.2 ⟨hfresh, hrest.fresh⟩,
      List.forall_mem_cons.2 ⟨hprepared, hrest.prepared⟩⟩

theorem reportEach_reportEach (store : Store) (events more : List Event) :
    (store.reportEach events).reportEach more = store.reportEach (events ++ more) := by
  simp [reportEach]

theorem exists_prepare_eq (store : Store) (entity : Entity) :
    ∃ events, store.prepare entity = (entity.prepare, store.reportEach events) := by
  unfold Store.prepare Store.compile Entity.prepare
  cases TypedCollections.compile entity.description with
  | error error => exact ⟨[], by simp⟩
  | ok fields => exact ⟨[.compiled fields.length], rfl⟩

/-- Preparing only reports events. It succeeds exactly for a batch that passes and has no name seen
before, and gives the schema of every entity. -/
theorem prepareEach_cases (store : Store) (seen : List String) (entities : List Entity) :
    ((∃ error events,
        store.prepareEach seen entities = (.error error, store.reportEach events)) ∧
      ¬ (store.Passes entities ∧ ∀ entity ∈ entities, entity.name ∉ seen)) ∨
    ((store.Passes entities ∧ ∀ entity ∈ entities, entity.name ∉ seen) ∧
      ∃ prepared events,
        store.prepareEach seen entities = (.ok prepared, store.reportEach events) ∧
        List.Forall₂ (fun entity item => item.1 = entity.name ∧ entity.prepare = .ok item.2)
          entities prepared) := by
  induction entities generalizing store seen with
  | nil => exact .inr ⟨⟨⟨.nil, by simp, by simp⟩, by simp⟩, [], [], by simp [prepareEach], .nil⟩
  | cons entity rest ih =>
      rw [prepareEach, passes_cons_iff, List.forall_mem_cons]
      by_cases htaken : entity.name ∈ seen ∨ store.hasCollection entity.name = true
      · rw [if_pos htaken]
        refine .inl ⟨⟨_, [], by rw [reportEach_nil]⟩, ?_⟩
        intro h
        obtain ⟨⟨⟨-, hfresh, -⟩, -⟩, hnew, -⟩ := h
        rw [hfresh] at htaken
        exact htaken.elim hnew Bool.false_ne_true
      · rw [if_neg htaken]
        obtain ⟨hnew, htaken⟩ := not_or.1 htaken
        have hfresh : store.hasCollection entity.name = false := Bool.eq_false_iff.2 htaken
        obtain ⟨events, hprepare⟩ := exists_prepare_eq store entity
        rw [hprepare]
        cases hschema : entity.prepare with
        | error error =>
            refine .inl ⟨⟨error, events, rfl⟩, ?_⟩
            intro h
            obtain ⟨⟨⟨-, -, schema, hok⟩, -⟩, -⟩ := h
            cases hok
        | ok schema =>
            -- The names seen are told apart from those of the rest either way round.
            have hseen : (∀ other ∈ rest, other.name ∉ entity.name :: seen) ↔
                entity.name ∉ rest.map Entity.name ∧ ∀ other ∈ rest, other.name ∉ seen := by
              simp only [List.mem_cons, not_or, List.mem_map, not_exists, not_and, ← forall_and]
            have hpasses : store.Passes rest → (store.reportEach events).Passes rest :=
              fun h => ⟨h.distinct, h.fresh, h.prepared⟩
            obtain ⟨⟨error, more, hrest⟩, hnot⟩ |
                ⟨⟨hpasses', hall⟩, prepared, more, hrest, hitems⟩ :=
              ih (store.reportEach events) (entity.name :: seen)
            · simp only [hrest, reportEach_reportEach]
              refine .inl ⟨⟨error, events ++ more, rfl⟩, ?_⟩
              intro h
              obtain ⟨⟨⟨hother, -, -⟩, hpass⟩, -, hold⟩ := h
              exact hnot ⟨hpasses hpass, hseen.2 ⟨hother, hold⟩⟩
            · simp only [hrest, reportEach_reportEach]
              obtain ⟨hother, hold⟩ := hseen.1 hall
              refine .inr ⟨⟨⟨⟨hother, hfresh, schema, rfl⟩, ?_⟩, hnew, hold⟩,
                (entity.name, schema) :: prepared, events ++ more, rfl, .cons ⟨rfl, hschema⟩ hitems⟩
              exact ⟨hpasses'.distinct, hpasses'.fresh, hpasses'.prepared⟩

/-! ### Registering -/

/-- A name and a schema that can be registered while the name is free. -/
def Accepts (item : String × Schema) : Prop :=
  item.1 ≠ "" ∧ ∃ patterns, Patterns.ofFields item.2.fields = .ok patterns

/-- Registering prepared entities under free names begins with the first one: it is refused and the
store stays as it is, or it is added and the rest follows. -/
theorem registerPrepared_cons (now : Nat) {item : String × Schema} {rest : List (String × Schema)}
    (hdistinct : Entries.Distinct (item :: rest))
    (hfresh : ∀ other ∈ item :: rest, store.hasCollection other.1 = false) :
    (¬ Accepts item ∧ ∃ error, store.registerPrepared now (item :: rest) = (.error error, store)) ∨
    (Accepts item ∧ ∃ (collection : Collection) (after : Store),
      (∀ name, store.hasCollection name = true ∨ name = item.1 → after.hasCollection name = true) ∧
      (∀ other ∈ rest, after.hasCollection other.1 = false) ∧
      store.registerPrepared now (item :: rest)
        = ((after.registerPrepared now rest).1.map (collection :: ·),
            (after.registerPrepared now rest).2)) := by
  unfold Accepts
  rw [registerPrepared, Store.register]
  by_cases hname : item.1 = ""
  · rw [if_pos hname]
    exact .inl ⟨fun h => h.1 hname, _, rfl⟩
  · rw [if_neg hname]
    cases hpatterns : Patterns.ofFields item.2.fields with
    | error fault =>
        refine .inl ⟨?_, _, rfl⟩
        intro h
        obtain ⟨-, patterns, hok⟩ := h
        cases hok
    | ok patterns =>
        rw [List.forall_mem_cons] at hfresh
        have hadd := hasCollection_addCollection store now
          ⟨item.1, store.database, item.2, patterns⟩
        rw [hfresh.1]
        refine .inr ⟨⟨hname, patterns, rfl⟩, _, _, ?_, ?_, rfl⟩
        · intro name h
          rw [hasCollection_report, hadd]
          rcases h with h | rfl
          · rw [h, Bool.or_true]
          · simp
        · intro other hmem
          rw [hasCollection_report, hadd, hfresh.2 other hmem, Bool.or_false,
            decide_eq_false_iff_not]
          intro hsame
          have hmem : other.1 ∈ Entries.names rest := List.mem_map_of_mem hmem
          rw [← hsame] at hmem
          exact (List.nodup_cons.1 hdistinct).1 hmem

/-- Registering in order succeeds exactly if every name and every schema is accepted, and whatever
becomes of the rest, a collection stays registered. -/
theorem registerPrepared_spec (now : Nat) {prepared : List (String × Schema)}
    (hdistinct : Entries.Distinct prepared)
    (hfresh : ∀ item ∈ prepared, store.hasCollection item.1 = false) :
    ((∃ collections, (store.registerPrepared now prepared).1 = .ok collections) ↔
      ∀ item ∈ prepared, Accepts item) ∧
    ∀ name, store.hasCollection name = true →
      (store.registerPrepared now prepared).2.hasCollection name = true := by
  induction prepared generalizing store with
  | nil => exact ⟨by simp [registerPrepared], fun name h => h⟩
  | cons item rest ih =>
      rw [List.forall_mem_cons]
      obtain ⟨hnot, error, heq⟩ | ⟨haccepts, collection, after, hkept, hstill, heq⟩ :=
        registerPrepared_cons now hdistinct hfresh
      · rw [heq]
        refine ⟨⟨?_, fun h => absurd h.1 hnot⟩, fun name h => h⟩
        intro h
        obtain ⟨collections, hok⟩ := h
        cases hok
      · obtain ⟨hok, hrest⟩ := ih (List.nodup_cons.1 hdistinct).2 hstill
        rw [heq, and_iff_right haccepts, ← hok]
        refine ⟨?_, fun name h => hrest name (hkept name (.inl h))⟩
        cases (after.registerPrepared now rest).1 with
        | error error => simp [Except.map]
        | ok collections => simp [Except.map]

/-! ### Batches that fail -/

/-- What preparing a batch gives: the name and the schema of every entity. -/
def PreparedAs (entity : Entity) (item : String × Schema) : Prop :=
  item.1 = entity.name ∧ entity.prepare = .ok item.2

theorem names_eq_of_prepared {entities : List Entity} {prepared : List (String × Schema)}
    (h : List.Forall₂ PreparedAs entities prepared) :
    Entries.names prepared = entities.map Entity.name := by
  induction h with
  | nil => rfl
  | cons hitem _ ih => exact congrArg₂ List.cons hitem.1 ih

private theorem accepts_iff_registrable {entity : Entity} {item : String × Schema}
    (h : PreparedAs entity item) : Accepts item ↔ entity.Registrable := by
  obtain ⟨hname, hschema⟩ := h
  rw [Accepts, Entity.Registrable, hname, hschema]
  simp

private theorem accepts_iff_of_prepared {entities : List Entity}
    {prepared : List (String × Schema)} (h : List.Forall₂ PreparedAs entities prepared) :
    (∀ item ∈ prepared, Accepts item) ↔ ∀ entity ∈ entities, entity.Registrable := by
  induction h with
  | nil => simp
  | cons hitem _ ih =>
      rw [List.forall_mem_cons, List.forall_mem_cons, ih, accepts_iff_registrable hitem]

/-- A batch that fails leaves the store as it was, unless it passes what is looked up before the
first entity is registered, its first entity can be registered and a later one cannot. -/
theorem content_of_failed_batch_iff (store : Store) (now : Nat) (entities : List Entity) :
    (∀ error, (store.registerAll now entities).1 = .error error →
        store.SameContent (store.registerAll now entities).2) ↔
      (store.Passes entities → ∀ first rest, entities = first :: rest → first.Registrable →
        ∀ entity ∈ rest, entity.Registrable) := by
  rw [registerAll]
  obtain ⟨⟨error, events, heq⟩, hnot⟩ | ⟨⟨hpasses, -⟩, prepared, events, heq, hitems⟩ :=
    prepareEach_cases store [] entities
  · rw [heq]
    constructor
    · intro _ hpasses
      exact absurd ⟨hpasses, by simp⟩ hnot
    · intro _ _ _
      exact sameContent_reportEach store events
  · rw [heq]
    have hnames := names_eq_of_prepared hitems
    have hdistinct : Entries.Distinct prepared := by
      rw [Entries.Distinct, hnames]
      exact hpasses.distinct
    have hfresh : ∀ item ∈ prepared, (store.reportEach events).hasCollection item.1 = false := by
      intro item hmem
      have hmem : item.1 ∈ entities.map Entity.name := hnames ▸ List.mem_map_of_mem hmem
      obtain ⟨entity, hentity, hname⟩ := List.mem_map.1 hmem
      exact hname ▸ hpasses.fresh entity hentity
    obtain ⟨hok, -⟩ := registerPrepared_spec now hdistinct hfresh
    rw [accepts_iff_of_prepared hitems] at hok
    cases hitems with
    | nil =>
        constructor
        · intro _ _ first rest hempty
          cases hempty
        · intro _ error hfails
          cases hfails
    | @cons first item rest items hitem hitems =>
        obtain ⟨hnot, error, hrefused⟩ | ⟨haccepts, collection, after, hkept, hstill, hadded⟩ :=
          registerPrepared_cons now hdistinct hfresh
        · -- The first entity is refused, and nothing has been registered.
          rw [accepts_iff_registrable hitem] at hnot
          simp only [hrefused]
          refine ⟨?_, fun _ _ _ => sameContent_reportEach store events⟩
          intro _ _ other others heq hregistrable
          cases heq
          exact absurd hregistrable hnot
        · have hhas : ((store.reportEach events).registerPrepared now
              (item :: items)).2.hasCollection item.1 = true := by
            rw [hadded]
            exact (registerPrepared_spec now (List.nodup_cons.1 hdistinct).2 hstill).2 _
              (hkept _ (.inr rfl))
          have hmissing : store.hasCollection item.1 = false := hfresh item (List.mem_cons_self ..)
          rw [accepts_iff_registrable hitem] at haccepts
          constructor
          · intro hcontent _ other others heq _
            cases heq
            cases hresult : ((store.reportEach events).registerPrepared now (item :: items)).1 with
            | ok collections => exact (List.forall_mem_cons.1 (hok.1 ⟨collections, hresult⟩)).2
            | error error =>
                have hregistry := (hcontent error hresult).registry
                unfold hasCollection at hhas hmissing
                rw [hregistry, hmissing] at hhas
                cases hhas
          · intro hregistrable error hfails
            obtain ⟨collections, hresult⟩ := hok.2
              (List.forall_mem_cons.2 ⟨haccepts, hregistrable hpasses first rest rfl haccepts⟩)
            rw [hresult] at hfails
            cases hfails

end Store

/-! ### A batch that is registered up to its second entity -/

namespace Sample

theorem length_process : (List.replicate 5 (0 : UInt8)).length = 5 := rfl

/-- A source of identifiers. -/
def generator : ObjectId.Generator := ⟨List.replicate 5 0, 0, length_process⟩

/-- An entity that describes texts under one name. -/
def entityOf (name field : String) (constraints : Options) : Entity :=
  ⟨name, { properties := [(field, .scalar .string { constraints })] }, []⟩

/-- The pattern of the second entity cannot be read. -/
def unreadableBatch : List Entity :=
  [entityOf "companies" "name" [], entityOf "users" "code" [("pattern", .string "(")]]

/-- The second entity has no name. -/
def namelessBatch : List Entity := [entityOf "companies" "name" [], entityOf "" "name" []]

end Sample

namespace Store

/-- A batch that fails and leaves other collections registered has changed the store. -/
theorem exists_error_of_collectionNames {store : Store} {now : Nat} {entities : List Entity}
    (hfails : (store.registerAll now entities).1.isOk = false)
    (hnames : (store.registerAll now entities).2.collectionNames ≠ store.collectionNames) :
    ∃ error, (store.registerAll now entities).1 = .error error ∧
      ¬ store.SameContent (store.registerAll now entities).2 := by
  cases hresult : (store.registerAll now entities).1 with
  | ok collections =>
      rw [hresult] at hfails
      cases hfails
  | error error =>
      refine ⟨error, rfl, fun hcontent => hnames ?_⟩
      rw [collectionNames, hcontent.registry, collectionNames]

/-- Either batch fails, and its first entity is registered and stands in the catalog. -/
theorem content_changed_by_failed_batch :
    ((∃ error, ((fresh "db" Sample.generator).registerAll 0 Sample.unreadableBatch).1 = .error error ∧
        ¬ (fresh "db" Sample.generator).SameContent
          ((fresh "db" Sample.generator).registerAll 0 Sample.unreadableBatch).2) ∧
      ((fresh "db" Sample.generator).registerAll 0 Sample.unreadableBatch).2.collectionNames
        = ["companies"] ∧
      ((fresh "db" Sample.generator).registerAll 0 Sample.unreadableBatch).2.catalog.names
        = ["companies"]) ∧
    (∃ error, ((fresh "db" Sample.generator).registerAll 0 Sample.namelessBatch).1 = .error error ∧
        ¬ (fresh "db" Sample.generator).SameContent
          ((fresh "db" Sample.generator).registerAll 0 Sample.namelessBatch).2) ∧
      ((fresh "db" Sample.generator).registerAll 0 Sample.namelessBatch).2.collectionNames
        = ["companies"] ∧
      ((fresh "db" Sample.generator).registerAll 0 Sample.namelessBatch).2.catalog.names
        = ["companies"] := by
  refine ⟨⟨?_, by decide +kernel, by decide +kernel⟩, ?_, by decide +kernel, by decide +kernel⟩
  · exact exists_error_of_collectionNames (by decide +kernel) (by decide +kernel)
  · exact exists_error_of_collectionNames (by decide +kernel) (by decide +kernel)

end Store

end TypedCollections
