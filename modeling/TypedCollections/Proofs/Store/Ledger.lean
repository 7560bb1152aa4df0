import TypedCollections.Proofs.Store.Failures
/-!
# What was last written

A ledger remembers the document that was last written under every identifier of every collection,
and the fields that the collection was registered with at that time. Requests that write either
leave the store as it is and nothing is noted, or are one write into a registered collection.
-/

namespace TypedCollections

/-- A document that was written, and the fields that its collection was registered with. -/
structure Writing where
  document : Document
  fields : Fields

/-- What was last written under the identifiers of every collection. -/
abbrev Ledger := String → ObjectId → Option Writing

namespace Ledger

/-- Nothing was written. -/
def empty : Ledger := fun _ _ => none

/-- Notes what was written into a collection, if anything was. -/
def note (ledger : Ledger) : Option (String × Writing) → Ledger
  | none => ledger
  | some (name, writing) => fun other id =>
      if other = name ∧ id = writing.document.id then some writing else ledger other id

theorem note_of_other {ledger : Ledger} {name other : String} {writing : Writing} {id : ObjectId}
    (h : ¬ (other = name ∧ id = writing.document.id)) :
    ledger.note (some (name, writing)) other id = ledger other id :=
  if_neg h

@[simp] theorem note_self (ledger : Ledger) (name : String) (writing : Writing) :
    ledger.note (some (name, writing)) name writing.document.id = some writing :=
  if_pos ⟨rfl, rfl⟩

end Ledger

namespace Store

/-- What a request writes, and into which collection. -/
def writing? (store : Store) (request : Request) : Option (String × Writing) :=
  request.writes?.bind fun name => (store.collection? name).bind fun collection =>
    match (store.serve request).1 with
    | .written document => some (name, ⟨document, collection.schema.fields⟩)
    | _ => none

/-- The ledger after requests, one after the other. -/
def ledger (store : Store) (before : Ledger) : List Request → Ledger
  | [] => before
  | request :: rest => (store.serve request).2.ledger (before.note (store.writing? request)) rest

end Store

/-- What a request may carry in any session: fields that have different names, and well-formed
trees. -/
def Request.Proper : Request → Prop
  | register _ _ schema => schema.fields.WellFormed
  | insert _ _ document => document.WellFormed
  | insertJson _ _ json => json.WellFormed
  | update _ _ document => document.WellFormed
  | _ => True

theorem Request.Agrees.proper {definition : String → Fields} {request : Request}
    (h : request.Agrees definition) (hdefinition : ∀ name, (definition name).WellFormed) :
    request.Proper := by
  cases request with
  | register now name schema =>
      show schema.fields.WellFormed
      rw [show schema.fields = definition name from h]
      exact hdefinition name
  | _ => exact h

namespace Store

variable {store : Store} {request : Request}

/-! ### Requests that write -/

/-- The store after one write of a well-formed document into a registered collection. -/
def WritesOnce (store : Store) (name : String) (writing : Writing) (after : Store) : Prop :=
  ∃ collection drawn now previous document events,
    store.collection? name = some collection ∧ collection.schema.fields = writing.fields ∧
      store.SameContent drawn ∧ document.WellFormed ∧
      (drawn.write collection now previous document).1 = .ok writing.document ∧
      after = (drawn.write collection now previous document).2.reportEach events

/-- A request writes nothing and leaves the store as it is, or it writes once. -/
def WritesAtMostOnce (store : Store) (request : Request) : Prop :=
  store.writing? request = none ∧ store.SameContent (store.serve request).2 ∨
    ∃ name writing, store.writing? request = some (name, writing) ∧
      store.WritesOnce name writing (store.serve request).2

private theorem writesAtMostOnce_of_on {name : String} {ask : Collection → Answer × Store}
    (hname : request.writes? = some name) (hserve : store.serve request = store.on name ask)
    (hask : ∀ collection, store.collection? name = some collection →
      ((∀ stored, (ask collection).1 ≠ .written stored) → store.SameContent (ask collection).2) ∧
      ∀ stored, (ask collection).1 = .written stored →
        store.WritesOnce name ⟨stored, collection.schema.fields⟩ (ask collection).2) :
    store.WritesAtMostOnce request := by
  unfold WritesAtMostOnce writing?
  rw [hserve, Store.on, hname, Option.bind_some]
  cases hfind : store.collection? name with
  | none => exact .inl ⟨rfl, .refl store⟩
  | some collection =>
      obtain ⟨hsame, hwritten⟩ := hask collection hfind
      simp only [Option.bind_some]
      cases hanswer : (ask collection).1 with
      | written stored => exact .inr ⟨_, _, rfl, hwritten stored hanswer⟩
      | _ => exact .inl ⟨rfl, hsame fun stored h => by rw [hanswer] at h; cases h⟩

private theorem eq_ok_of_written {result : Except Error Document} {stored : Document}
    (h : Answer.of .written result = .written stored) : result = .ok stored := by
  cases result with
  | error error => cases h
  | ok document => rw [Answer.written.inj h]

private theorem exists_eq_error {result : Except Error Document}
    (h : ∀ stored, Answer.of .written result ≠ .written stored) :
    ∃ error, result = .error error := by
  cases result with
  | error error => exact ⟨error, rfl⟩
  | ok document => exact absurd rfl (h document)

private theorem updated_iff {result : Except Error (Option Document)} {stored : Document} :
    Answer.of .updated result = .written stored ↔ result = .ok (some stored) := by
  cases result with
  | error error => simp [Answer.of]
  | ok found => cases found <;> simp [Answer.of, Answer.updated]

/-- A request that inserts, inserts JSON or updates writes at most once. -/
theorem writesAtMostOnce (store : Store) (hwrites : request.writes?.isSome = true)
    (hproper : request.Proper) : store.WritesAtMostOnce request := by
  cases request with
  | insert name now document =>
      refine writesAtMostOnce_of_on rfl rfl fun collection hfind => ⟨fun hnot => ?_, ?_⟩
      · obtain ⟨error, herror⟩ := exists_eq_error hnot
        exact sameContent_of_insert_eq_error herror
      · intro stored hstored
        obtain ⟨hwrite, events, hafter⟩ := exists_write_of_insert (eq_ok_of_written hstored)
        exact ⟨collection, store, now, none, document, events, hfind, rfl, .refl store, hproper,
          hwrite, hafter⟩
  | insertJson name now json =>
      refine writesAtMostOnce_of_on rfl rfl fun collection hfind => ⟨fun hnot => ?_, ?_⟩
      · obtain ⟨error, herror⟩ := exists_eq_error hnot
        exact sameContent_of_insertJson_eq_error herror
      · intro stored hstored
        obtain ⟨members, id, generator, rfl, hinsert, heq⟩ :=
          exists_insert_of_insertJson (eq_ok_of_written hstored)
        obtain ⟨hwrite, events, hafter⟩ := exists_write_of_insert hinsert
        exact ⟨collection, { store with generator }, now, none, _, events, hfind, rfl,
          ⟨rfl, rfl, rfl, rfl, rfl, rfl⟩, Document.wellFormed_ofMembers id hproper.2, hwrite,
          heq.trans hafter⟩
  | update name now document =>
      refine writesAtMostOnce_of_on rfl rfl fun collection hfind => ⟨fun hnot => ?_, ?_⟩
      · exact sameContent_of_update fun stored hstored => hnot stored (updated_iff.2 hstored)
      · intro stored hstored
        obtain ⟨previous, -, hwrite, events, hafter⟩ :=
          exists_write_of_update (updated_iff.1 hstored)
        exact ⟨collection, store, now, some previous, document, events, hfind, rfl, .refl store,
          hproper, hwrite, hafter⟩
  | _ => cases hwrites

end Store

end TypedCollections
