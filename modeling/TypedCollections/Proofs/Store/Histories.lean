import TypedCollections.Proofs.Definition.Compiler
import TypedCollections.Proofs.Store.Batches
import TypedCollections.Proofs.Store.Ledger
/-!
# Histories

What programs do to a store, step by step: they send it requests, and they register entities, one by
one or several at once. A step registers collections and leaves the documents and the index alone, or
it opens the store again, or it writes one document, or it deletes one. Every invariant of histories
is proved from these four cases.
-/

namespace TypedCollections

/-- What a program does to a store. -/
inductive Step
  | request (request : Request)
  | registerEntity (now : Nat) (entity : Entity)
  | registerAll (now : Nat) (entities : List Entity)

namespace Step

/-- What a step may carry: well-formed trees, and fields that have different names. -/
def Proper : Step → Prop
  | .request asked => asked.Proper
  | .registerEntity _ entity => Description.WellFormedShape entity.description
  | .registerAll _ entities =>
      ∀ entity ∈ entities, Description.WellFormedShape entity.description

/-- The names that a step registers have no null character. -/
def Plain : Step → Prop
  | .request asked => asked.Plain
  | .registerEntity _ entity => '\x00' ∉ entity.name.toList
  | .registerAll _ entities => ∀ entity ∈ entities, '\x00' ∉ entity.name.toList

/-- Whether a step stays within the session. -/
def InSession : Step → Prop
  | .request .reopen => False
  | _ => True

/-- The name and the schema of a collection that a step may register. -/
def Accepts : Step → String → Schema → Prop
  | .request (.register _ given schema), name, accepted => given = name ∧ schema = accepted
  | .request _, _, _ => False
  | .registerEntity _ entity, name, accepted => entity.name = name ∧ entity.prepare = .ok accepted
  | .registerAll _ entities, name, accepted =>
      ∃ entity ∈ entities, entity.name = name ∧ entity.prepare = .ok accepted

theorem Plain.of_accepts {step : Step} (hplain : step.Plain) {name : String} {schema : Schema}
    (haccepts : step.Accepts name schema) : '\x00' ∉ name.toList := by
  cases step with
  | request asked =>
      cases asked with
      | register now given accepted =>
          obtain ⟨rfl, -⟩ := haccepts
          exact hplain
      | _ => exact haccepts.elim
  | registerEntity now entity =>
      obtain ⟨rfl, -⟩ := haccepts
      exact hplain
  | registerAll now entities =>
      obtain ⟨entity, hmem, rfl, -⟩ := haccepts
      exact hplain entity hmem

/-- The document that a step writes, if it does, with its collection. -/
def written (store : Store) : Step → List (String × Document)
  | .request asked => asked.written (store.serve asked).1
  | _ => []

end Step

namespace Store

/-- The store after a step. -/
def perform (store : Store) : Step → Store
  | .request asked => (store.serve asked).2
  | .registerEntity now entity => (store.registerEntity now entity).2
  | .registerAll now entities => (store.registerAll now entities).2

/-- The store after steps, one after the other. -/
def performAll (store : Store) : List Step → Store
  | [] => store
  | step :: rest => (store.perform step).performAll rest

theorem performAll_append (store : Store) (steps more : List Step) :
    store.performAll (steps ++ more) = (store.performAll steps).performAll more := by
  induction steps generalizing store with
  | nil => rfl
  | cons step rest ih => exact ih (store.perform step)

/-- The documents written by steps, with their collections, as the store returned them. -/
def writtenIn (store : Store) : List Step → List (String × Document)
  | [] => []
  | step :: rest => step.written store ++ (store.perform step).writtenIn rest

/-- The other store has the same documents and owners, the same collections registered, and besides
only collections of accepted names and schemas. -/
structure Registers (accepts : String → Schema → Prop) (store other : Store) : Prop where
  documents : other.documents = store.documents
  unique : other.unique = store.unique
  kept : ∀ name collection, store.collection? name = some collection →
    other.collection? name = some collection
  added : ∀ name collection, other.collection? name = some collection →
    store.collection? name = some collection ∨
      collection.name = name ∧ accepts name collection.schema ∧
        Patterns.ofFields collection.schema.fields = .ok collection.patterns

variable {accepts : String → Schema → Prop} {store : Store}

/-! ### Registering -/

theorem SameContent.registers {other : Store} (h : store.SameContent other) :
    store.Registers accepts other := by
  have hcollection : ∀ name, other.collection? name = store.collection? name := by
    intro name
    rw [collection?, h.registry, collection?]
  refine ⟨h.documents, h.unique, fun name collection hfind => ?_, fun name collection hfind => ?_⟩
  · rw [hcollection, hfind]
  · rw [hcollection] at hfind
    exact .inl hfind

theorem Registers.trans {first second third : Store} (h : first.Registers accepts second)
    (h' : second.Registers accepts third) : first.Registers accepts third where
  documents := h'.documents.trans h.documents
  unique := h'.unique.trans h.unique
  kept name collection hfind := h'.kept name collection (h.kept name collection hfind)
  added name collection hfind := by
    rcases h'.added name collection hfind with hfind | hadded
    · exact h.added name collection hfind
    · exact .inr hadded

theorem Registers.mono {more : String → Schema → Prop} {other : Store}
    (h : store.Registers accepts other) (hmore : ∀ name schema, accepts name schema → more name schema) :
    store.Registers more other where
  documents := h.documents
  unique := h.unique
  kept := h.kept
  added name collection hfind := by
    rcases h.added name collection hfind with hfind | ⟨hname, hschema, hpatterns⟩
    · exact .inl hfind
    · exact .inr ⟨hname, hmore name collection.schema hschema, hpatterns⟩

theorem registers_register (store : Store) (now : Nat) (name : String) (schema : Schema) :
    store.Registers (fun given accepted => name = given ∧ schema = accepted)
      (store.register now name schema).2 := by
  obtain ⟨hdocuments, hunique, hadded⟩ := register_spec store now name schema
  refine ⟨hdocuments, hunique, fun other collection hfind => ?_, fun other collection hfind => ?_⟩
  · obtain ⟨error, heq⟩ | ⟨patterns, -, -, hfree, heq⟩ := register_cases store now name schema
    · rw [heq]
      exact hfind
    · rw [heq]
      have hne : name ≠ other := by
        rintro rfl
        have hsome : store.hasCollection name = true := by
          rw [hasCollection, SortedMap.has, ← collection?, hfind]
          rfl
        rw [hfree] at hsome
        cases hsome
      exact (SortedMap.find?_insert ..).trans ((if_neg hne).trans hfind)
  · rcases hadded other collection hfind with hfind | ⟨rfl, hname, rfl, hpatterns⟩
    · exact .inl hfind
    · exact .inr ⟨hname, ⟨rfl, rfl⟩, hpatterns⟩

theorem sameContent_report (store : Store) (event : Event) : store.SameContent (store.report event) :=
  sameContent_reportEach store [event]

/-- Registering an entity fails and only reports events, or it prepares the entity and registers it. -/
theorem registerEntity_cases (store : Store) (now : Nat) (entity : Entity) :
    (∃ error, (store.registerEntity now entity).1 = .error error ∧
      store.SameContent (store.registerEntity now entity).2) ∨
    ∃ schema before collection registered, entity.prepare = .ok schema ∧ store.SameContent before ∧
      before.register now entity.name schema = (.ok collection, registered) ∧
      (store.registerEntity now entity).1 = .ok collection ∧
      registered.SameContent (store.registerEntity now entity).2 := by
  obtain ⟨events, hprepare⟩ := exists_prepare_eq store entity
  have hreport := sameContent_reportEach store events
  unfold registerEntity
  rw [hprepare]
  cases hschema : entity.prepare with
  | error error => exact .inl ⟨error, rfl, hreport⟩
  | ok schema =>
      simp only
      obtain ⟨error, heq⟩ | ⟨patterns, -, -, -, heq⟩ :=
        register_cases (store.reportEach events) now entity.name schema
      · rw [heq]
        exact .inl ⟨error, rfl, hreport⟩
      · refine .inr ⟨schema, store.reportEach events, _, _, rfl, hreport, heq, ?_, ?_⟩
        · rw [heq]
        · rw [heq]
          exact sameContent_report _ _

theorem registers_registerEntity (store : Store) (now : Nat) (entity : Entity) :
    store.Registers (fun name schema => entity.name = name ∧ entity.prepare = .ok schema)
      (store.registerEntity now entity).2 := by
  obtain ⟨error, -, hsame⟩ | ⟨schema, before, collection, registered, hprepare, hbefore, hregister,
    -, hafter⟩ := registerEntity_cases store now entity
  · exact hsame.registers
  · have hadds := registers_register before now entity.name schema
    rw [hregister] at hadds
    have haccepts : before.Registers
        (fun name schema => entity.name = name ∧ entity.prepare = .ok schema) registered :=
      hadds.mono fun name accepted h => ⟨h.1, by rw [hprepare, h.2]⟩
    exact (hbefore.registers.trans haccepts).trans hafter.registers

theorem registers_registerPrepared (store : Store) (now : Nat) {prepared : List (String × Schema)}
    (h : ∀ item ∈ prepared, accepts item.1 item.2) :
    store.Registers accepts (store.registerPrepared now prepared).2 := by
  induction prepared generalizing store with
  | nil => exact (SameContent.refl store).registers
  | cons item rest ih =>
      have hitem := h item (List.mem_cons_self ..)
      have hregister := (registers_register store now item.1 item.2).mono fun name schema h' => by
        rw [← h'.1, ← h'.2]
        exact hitem
      rw [registerPrepared]
      cases hresult : store.register now item.1 item.2 with
      | mk result after =>
          rw [hresult] at hregister
          cases result with
          | error error => exact hregister
          | ok collection =>
              have hreport : after.Registers accepts
                  (after.report (.entityRegistered item.1 item.2.fields.length none)) :=
                (sameContent_report after _).registers
              refine hregister.trans (hreport.trans ?_)
              exact ih _ fun other hmem => h other (List.mem_cons_of_mem _ hmem)

theorem registers_registerAll (store : Store) (now : Nat) (entities : List Entity) :
    store.Registers (fun name schema => ∃ entity ∈ entities, entity.name = name ∧
      entity.prepare = .ok schema) (store.registerAll now entities).2 := by
  unfold registerAll
  obtain ⟨⟨error, events, heq⟩, -⟩ | ⟨-, prepared, events, heq, hitems⟩ :=
    prepareEach_cases store [] entities
  · rw [heq]
    exact (sameContent_reportEach store events).registers
  · rw [heq]
    refine (sameContent_reportEach store events).registers.trans
      (registers_registerPrepared _ now fun item hmem => ?_)
    obtain ⟨entity, hentity, hname, hprepare⟩ := Validation.exists_of_mem_right hitems hmem
    exact ⟨entity, hentity, hname.symm, hprepare⟩

/-! ### What a step can do -/

/-- The store opened again has the same documents and owners, and nothing is registered. -/
structure Reopens (store other : Store) : Prop where
  documents : other.documents = store.documents
  unique : other.unique = store.unique
  none : ∀ name, other.collection? name = none

/-- The other store is the store after one write of a document into a registered collection, in the
place of what was found under its identifier. -/
def WritesTo (store : Store) (name : String) (given stored : Document) (other : Store) : Prop :=
  ∃ collection drawn now previous events, store.collection? name = some collection ∧
    store.SameContent drawn ∧ store.find collection given.id = .ok previous ∧
    (drawn.write collection now previous given).1 = .ok stored ∧
    other = (drawn.write collection now previous given).2.reportEach events

/-- The other store is the store after a deletion from a registered collection. -/
def Deletes (store other : Store) : Prop :=
  ∃ name collection id, store.collection? name = some collection ∧
    other = (store.delete collection id).2

/-- What a step can do to a store. -/
inductive Outcome (store : Store) (step : Step) : Store → Prop
  | registers {other : Store} (h : store.Registers step.Accepts other) : Outcome store step other
  | reopens {other : Store} (hstep : step = .request .reopen) (h : store.Reopens other) :
      Outcome store step other
  | writes {name : String} {given stored : Document} {other : Store}
      (hwritten : (name, stored) ∈ step.written store) (hproper : step.Proper → given.WellFormed)
      (h : store.WritesTo name given stored other) : Outcome store step other
  | deletes {other : Store} (h : store.Deletes other) : Outcome store step other

private theorem outcome_on {name : String} {request : Request} {ask : Collection → Answer × Store}
    (hserve : store.serve request = store.on name ask)
    (hask : ∀ collection, store.collection? name = some collection →
      Outcome store (.request request) (ask collection).2) :
    Outcome store (.request request) (store.serve request).2 := by
  rw [hserve, Store.on]
  cases hfind : store.collection? name with
  | none => exact .registers (SameContent.refl store).registers
  | some collection => exact hask collection hfind

theorem mem_written_of_ok {name : String} {collection : Collection} {request : Request}
    {stored : Document} {ask : Collection → Answer × Store} (hname : request.writes? = some name)
    (hserve : store.serve request = store.on name ask)
    (hfind : store.collection? name = some collection) (hask : (ask collection).1 = .written stored) :
    (name, stored) ∈ Step.written store (.request request) := by
  rw [Step.written, hserve, Store.on, hfind]
  simp only [hask, Request.written, hname]
  exact List.mem_singleton_self _

/-- A request registers, opens the store again, writes one document, or deletes one. -/
theorem outcome_of_serve (store : Store) (request : Request) :
    Outcome store (.request request) (store.serve request).2 := by
  cases request with
  | register now name schema => exact .registers (registers_register store now name schema)
  | insert name now document =>
      refine outcome_on rfl fun collection hfind => ?_
      cases hinsert : (store.insert collection now document).1 with
      | error error => exact .registers (sameContent_of_insert_eq_error hinsert).registers
      | ok stored =>
          obtain ⟨hwrite, events, hafter⟩ := exists_write_of_insert hinsert
          have hanswer : Answer.of .written (store.insert collection now document).1
              = .written stored := by rw [hinsert]; rfl
          refine .writes (mem_written_of_ok rfl rfl hfind hanswer) id
            ⟨collection, store, now, none, events, hfind, .refl store, find_of_insert hinsert, hwrite,
              hafter⟩
  | insertJson name now json =>
      refine outcome_on rfl fun collection hfind => ?_
      cases hinsertJson : (store.insertJson collection now json).1 with
      | error error => exact .registers (sameContent_of_insertJson_eq_error hinsertJson).registers
      | ok stored =>
          obtain ⟨members, id, generator, rfl, hinsert, heq⟩ :=
            exists_insert_of_insertJson hinsertJson
          have hnone := find_of_insert hinsert
          obtain ⟨hwrite, events, hafter⟩ := exists_write_of_insert hinsert
          have hanswer : Answer.of .written (store.insertJson collection now (.object members)).1
              = .written stored := by rw [hinsertJson]; rfl
          refine .writes (mem_written_of_ok rfl rfl hfind hanswer)
            (fun hproper => Document.wellFormed_ofMembers id hproper.2)
            ⟨collection, { store with generator }, now, none, events, hfind,
              ⟨rfl, rfl, rfl, rfl, rfl, rfl⟩, hnone, hwrite, heq.trans hafter⟩
  | update name now document =>
      refine outcome_on rfl fun collection hfind => ?_
      by_cases hstored : ∃ stored, (store.update collection now document).1 = .ok (some stored)
      · obtain ⟨stored, hupdate⟩ := hstored
        obtain ⟨previous, hprevious, hwrite, events, hafter⟩ := exists_write_of_update hupdate
        have hanswer : Answer.of .updated (store.update collection now document).1
            = .written stored := by rw [hupdate]; rfl
        exact .writes (mem_written_of_ok rfl rfl hfind hanswer) id
          ⟨collection, store, now, some previous, events, hfind, .refl store, hprevious, hwrite,
            hafter⟩
      · refine .registers (sameContent_of_update fun stored h => hstored ⟨stored, h⟩).registers
  | delete name id =>
      exact outcome_on rfl fun collection hfind => .deletes ⟨name, collection, id, hfind, rfl⟩
  | find name id =>
      exact outcome_on rfl fun _ _ => .registers (SameContent.refl store).registers
  | findAll name =>
      exact outcome_on rfl fun _ _ => .registers (SameContent.refl store).registers
  | count name =>
      exact outcome_on rfl fun _ _ => .registers (SameContent.refl store).registers
  | reopen =>
      unfold Store.serve
      cases hreopen : store.reopen with
      | error error => exact .registers (SameContent.refl store).registers
      | ok opened =>
          obtain ⟨hdocuments, hunique, hnone⟩ := reopen_spec hreopen
          exact .reopens rfl ⟨hdocuments, hunique, hnone⟩

theorem outcome_of_perform (store : Store) (step : Step) :
    Outcome store step (store.perform step) := by
  cases step with
  | request request => exact outcome_of_serve store request
  | registerEntity now entity => exact .registers (registers_registerEntity store now entity)
  | registerAll now entities => exact .registers (registers_registerAll store now entities)

/-! ### Writes and deletions -/

/-- A document is made for a collection: the fields of the document given, with their time stamps,
passed the check. The document before, if there was one, was found under the identifier. -/
def Makes (store : Store) (collection : Collection) (given stored : Document) : Prop :=
  ∃ now previous checked, store.find collection given.id = .ok previous ∧
    collection.check (collection.stamp now previous given.storedFields) = .ok checked ∧
    stored = Document.ofFields given.id checked

/-- What a write leaves: the collections as they were, and the octets of the document made under its
identifier. -/
theorem WritesTo.exists_makes {name : String} {given stored : Document} {other : Store}
    (h : store.WritesTo name given stored other) :
    ∃ collection, store.collection? name = some collection ∧ store.Makes collection given stored ∧
      (∀ wanted, other.collection? wanted = store.collection? wanted) ∧
      ∀ wanted key, (other.tree wanted).find? key =
        if wanted = collection.name ∧ key = stored.id.octets then some stored.toOctets
        else (store.tree wanted).find? key := by
  obtain ⟨collection, drawn, now, previous, events, hfind, hdrawn, hprevious, hwrite, rfl⟩ := h
  obtain ⟨checked, unique, others, hcheck, rfl, hafter, -⟩ := exists_put_of_write hwrite
  rw [hafter]
  refine ⟨collection, hfind, ⟨now, previous, checked, hprevious, hcheck, rfl⟩, ?_, ?_⟩
  · intro wanted
    show drawn.registry.find? wanted = store.registry.find? wanted
    rw [hdrawn.registry]
  · intro wanted key
    have htree : drawn.tree wanted = store.tree wanted := by
      rw [tree, hdrawn.documents, tree]
    rw [← htree]
    exact find?_put _ collection _ wanted key

/-- A deletion leaves the store alone, or it takes one entry out of a tree. -/
theorem Deletes.cases {other : Store} (h : store.Deletes other) :
    other = store ∨ ∃ name id unique events, other =
      ({ store.setTree name ((store.tree name).erase id) with unique } : Store).reportEach
        events := by
  obtain ⟨_, collection, id, -, rfl⟩ := h
  unfold Store.delete
  cases htree : (store.tree collection.name).find? id.octets with
  | none => exact .inl (by simp only [htree])
  | some octets =>
      refine .inr ⟨collection.name, id.octets, ?_⟩
      cases hread : readDocument octets with
      | error error => exact ⟨store.unique, [], by simp only [htree, hread, reportEach_nil]; rfl⟩
      | ok removed => exact ⟨_, [_], by simp only [htree, hread]; rfl⟩

theorem Deletes.collection? {other : Store} (h : store.Deletes other) (wanted : String) :
    other.collection? wanted = store.collection? wanted := by
  obtain rfl | ⟨name, id, unique, events, rfl⟩ := h.cases
  · rfl
  · rfl

/-- What stands in a tree after a deletion stood there before. -/
theorem Deletes.find? {other : Store} (h : store.Deletes other) {wanted : String}
    {key octets : List UInt8} (hfind : (other.tree wanted).find? key = some octets) :
    (store.tree wanted).find? key = some octets := by
  obtain rfl | ⟨name, id, unique, events, rfl⟩ := h.cases
  · exact hfind
  · have hfind : ((store.setTree name ((store.tree name).erase id)).tree wanted).find? key
        = some octets := hfind
    rw [find?_erased] at hfind
    split at hfind
    · cases hfind
    · exact hfind

/-! ### Registered collections -/

/-- Every registered collection is good for its name. -/
def Enrolls (good : String → Collection → Prop) (store : Store) : Prop :=
  ∀ name collection, store.collection? name = some collection → good name collection

variable {good : String → Collection → Prop}

theorem Enrolls.perform {step : Step} (hstore : store.Enrolls good)
    (hstep : ∀ name collection, collection.name = name → step.Accepts name collection.schema →
      Patterns.ofFields collection.schema.fields = .ok collection.patterns →
        good name collection) :
    (store.perform step).Enrolls good := by
  intro name collection hfind
  generalize hother : store.perform step = other at hfind
  have houtcome : Outcome store step other := hother ▸ outcome_of_perform store step
  cases houtcome with
  | registers h =>
      rcases h.added name collection hfind with hold | ⟨hname, haccepts, hpatterns⟩
      · exact hstore name collection hold
      · exact hstep name collection hname haccepts hpatterns
  | reopens _ h =>
      rw [h.none] at hfind
      cases hfind
  | writes _ _ h =>
      obtain ⟨-, -, -, hcollection, -⟩ := h.exists_makes
      rw [hcollection] at hfind
      exact hstore name collection hfind
  | deletes h =>
      rw [h.collection?] at hfind
      exact hstore name collection hfind

theorem Enrolls.performAll {steps : List Step} (hstore : store.Enrolls good)
    (hsteps : ∀ step ∈ steps, ∀ name collection, collection.name = name →
      step.Accepts name collection.schema →
        Patterns.ofFields collection.schema.fields = .ok collection.patterns →
          good name collection) :
    (store.performAll steps).Enrolls good := by
  induction steps generalizing store with
  | nil => exact hstore
  | cons step rest ih =>
      rw [List.forall_mem_cons] at hsteps
      exact ih (hstore.perform hsteps.1) hsteps.2

theorem enrolls_fresh (database : String) (generator : ObjectId.Generator) :
    (fresh database generator).Enrolls good :=
  fun name collection h => by cases h

/-- A name that is free is registered with fields whose patterns can be read. -/
theorem collection?_perform_register {name : String} {schema : Schema} {patterns : Patterns}
    (now : Nat) (hname : name ≠ "") (hpatterns : Patterns.ofFields schema.fields = .ok patterns)
    (hfresh : store.hasCollection name = false) :
    (store.perform (.request (.register now name schema))).collection? name
      = some ⟨name, store.database, schema, patterns⟩ := by
  show (store.register now name schema).2.collection? name = _
  rw [register_eq now hname hpatterns hfresh]
  exact collection?_addCollection store now ⟨name, store.database, schema, patterns⟩

/-! ### Sessions -/

/-- A collection stays registered until the session ends. -/
theorem collection?_perform {step : Step} (hstep : step.InSession) {name : String}
    {collection : Collection} (h : store.collection? name = some collection) :
    (store.perform step).collection? name = some collection := by
  generalize hother : store.perform step = other
  have houtcome : Outcome store step other := hother ▸ outcome_of_perform store step
  cases houtcome with
  | registers hregisters => exact hregisters.kept name collection h
  | reopens hreopen => exact absurd hstep (by rw [hreopen]; exact id)
  | writes _ _ hwrites =>
      obtain ⟨-, -, -, hcollection, -⟩ := hwrites.exists_makes
      rw [hcollection, h]
  | deletes hdeletes => rw [hdeletes.collection?, h]

theorem collection?_performAll {steps : List Step} (hsteps : ∀ step ∈ steps, step.InSession)
    {name : String} {collection : Collection} (h : store.collection? name = some collection) :
    (store.performAll steps).collection? name = some collection := by
  induction steps generalizing store with
  | nil => exact h
  | cons step rest ih =>
      rw [List.forall_mem_cons] at hsteps
      exact ih hsteps.2 (collection?_perform hsteps.1 h)

/-- Whenever a collection was registered under the name, it had these fields and kept time stamps or
did not. -/
def AlwaysRegisters (store : Store) (name : String) (fields : Fields) (timestamps : Bool) :
    List Step → Prop
  | [] => ∀ collection, store.collection? name = some collection →
      collection.schema.fields = fields ∧ collection.schema.timestamps = timestamps
  | step :: rest =>
      (∀ collection, store.collection? name = some collection →
        collection.schema.fields = fields ∧ collection.schema.timestamps = timestamps) ∧
      (store.perform step).AlwaysRegisters name fields timestamps rest

/-- In one session a name is registered only once. -/
theorem alwaysRegisters_of_inSession {steps : List Step} (hsteps : ∀ step ∈ steps, step.InSession)
    {name : String} {collection : Collection}
    (h : (store.performAll steps).collection? name = some collection) :
    store.AlwaysRegisters name collection.schema.fields collection.schema.timestamps steps := by
  have hnow : ∀ earlier, store.collection? name = some earlier →
      earlier.schema.fields = collection.schema.fields ∧
        earlier.schema.timestamps = collection.schema.timestamps := by
    intro earlier hearlier
    have hlater := collection?_performAll hsteps hearlier
    rw [h] at hlater
    cases hlater
    exact ⟨rfl, rfl⟩
  induction steps generalizing store with
  | nil => exact hnow
  | cons step rest ih =>
      rw [List.forall_mem_cons] at hsteps
      refine ⟨hnow, ih hsteps.2 h fun earlier hearlier => ?_⟩
      have hlater := collection?_performAll hsteps.2 hearlier
      rw [show (store.perform step).performAll rest = store.performAll (step :: rest) from rfl,
        h] at hlater
      cases hlater
      exact ⟨rfl, rfl⟩

end Store

end TypedCollections
