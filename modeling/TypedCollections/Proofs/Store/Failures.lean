import TypedCollections.Proofs.Store.Writes
/-!
# Requests that fail

A write that is refused leaves no trace in what the store keeps, however far it got: the keys a
document needs are all checked before the first one is released or claimed, and once the checks have
passed nothing after them can fail, whatever the index holds.
-/

namespace TypedCollections

namespace Store

/-- The other store keeps the same: the trees of documents, the unique index, the catalog and the
collections registered. Only the events and the source of fresh identifiers may differ. -/
structure SameContent (store other : Store) : Prop where
  database : other.database = store.database
  recovered : other.recovered = store.recovered
  documents : other.documents = store.documents
  unique : other.unique = store.unique
  catalog : other.catalog = store.catalog
  registry : other.registry = store.registry

variable {store : Store} {collection : Collection} {now : Nat}

theorem SameContent.refl (store : Store) : store.SameContent store := ⟨rfl, rfl, rfl, rfl, rfl, rfl⟩

theorem SameContent.trans {first second third : Store} (h : first.SameContent second)
    (h' : second.SameContent third) : first.SameContent third where
  database := h'.database.trans h.database
  recovered := h'.recovered.trans h.recovered
  documents := h'.documents.trans h.documents
  unique := h'.unique.trans h.unique
  catalog := h'.catalog.trans h.catalog
  registry := h'.registry.trans h.registry

theorem sameContent_reportEach (store : Store) (events : List Event) :
    store.SameContent (store.reportEach events) :=
  ⟨rfl, rfl, rfl, rfl, rfl, rfl⟩

theorem sameContent_of_write_eq_error {previous : Option Document} {document : Document}
    {error : Error} (h : (store.write collection now previous document).1 = .error error) :
    store.SameContent (store.write collection now previous document).2 := by
  obtain ⟨_, events, hwrite, -⟩ | ⟨checked, unique, events, hwrite, -⟩ :=
    write_cases store collection now previous document
  · rw [hwrite]
    exact sameContent_reportEach store events
  · rw [hwrite] at h
    cases h

theorem sameContent_of_insert_eq_error {document : Document} {error : Error}
    (h : (store.insert collection now document).1 = .error error) :
    store.SameContent (store.insert collection now document).2 := by
  cases htaken : (store.tree collection.name).has document.id.octets with
  | true =>
      unfold Store.insert
      rw [htaken]
      exact .refl store
  | false =>
      obtain ⟨events, hinsert⟩ := insert_of_not_has now htaken
      rw [hinsert] at h ⊢
      exact (sameContent_of_write_eq_error h).trans (sameContent_reportEach _ events)

theorem sameContent_of_insertJson_eq_error {json : Json} {error : Error}
    (h : (store.insertJson collection now json).1 = .error error) :
    store.SameContent (store.insertJson collection now json).2 := by
  unfold Store.insertJson at h ⊢
  cases json with
  | object members =>
      obtain ⟨generator, hgenerator⟩ := exists_chooseId_eq store now members
      simp only at h ⊢
      cases hchosen : store.chooseId now members with
      | mk result after =>
          rw [hchosen] at h hgenerator
          have hafter : store.SameContent after := by
            rw [show after = { store with generator } from hgenerator]
            exact ⟨rfl, rfl, rfl, rfl, rfl, rfl⟩
          cases result with
          | error error => exact hafter
          | ok id => exact hafter.trans (sameContent_of_insert_eq_error h)
  | _ => exact .refl store

/-- An update that writes nothing has failed, or there was no document to be replaced. -/
theorem sameContent_of_update {document : Document}
    (h : ∀ stored, (store.update collection now document).1 ≠ .ok (some stored)) :
    store.SameContent (store.update collection now document).2 := by
  cases hfind : store.find collection document.id with
  | error fault =>
      unfold Store.update
      rw [hfind]
      exact .refl store
  | ok found =>
      cases found with
      | none =>
          unfold Store.update
          rw [hfind]
          exact .refl store
      | some previous =>
          obtain ⟨events, hupdate⟩ := update_of_find now hfind
          rw [hupdate] at h ⊢
          cases hwrite : (store.write collection now (some previous) document).1 with
          | error error =>
              exact (sameContent_of_write_eq_error hwrite).trans (sameContent_reportEach _ events)
          | ok stored =>
              rw [hwrite] at h
              exact absurd rfl (h stored)

private theorem eq_error_of_answer {α : Type} {answer : α → Answer} {result : Except Error α}
    {error : Error} (hanswer : ∀ value, answer value ≠ .failed error)
    (h : Answer.of answer result = .failed error) : result = .error error := by
  cases result with
  | error fault => exact congrArg Except.error (Answer.failed.inj h)
  | ok value => exact absurd h (hanswer value)

private theorem sameContent_on {name : String} {ask : Collection → Answer × Store} {error : Error}
    (hask : ∀ collection, (ask collection).1 = .failed error → store.SameContent (ask collection).2)
    (h : (store.on name ask).1 = .failed error) : store.SameContent (store.on name ask).2 := by
  unfold Store.on at h ⊢
  cases hfind : store.collection? name with
  | none => exact .refl store
  | some collection =>
      rw [hfind] at h
      exact hask collection h

/-- A document that is refused, whether it is new or to be replaced and whatever the store holds,
leaves every tree, the unique index, the catalog and the registered collections as they are. -/
theorem content_of_failed_write (store : Store) (request : Request)
    (hwrites : request.writes?.isSome = true) (error : Error)
    (hfailed : (store.serve request).1 = .failed error) :
    store.SameContent (store.serve request).2 := by
  cases request with
  | insert name now document =>
      refine sameContent_on (fun collection h => ?_) hfailed
      exact sameContent_of_insert_eq_error (eq_error_of_answer (by simp) h)
  | insertJson name now json =>
      refine sameContent_on (fun collection h => ?_) hfailed
      exact sameContent_of_insertJson_eq_error (eq_error_of_answer (by simp) h)
  | update name now document =>
      refine sameContent_on (fun collection h => ?_) hfailed
      refine sameContent_of_update fun stored hstored => ?_
      rw [eq_error_of_answer (fun value => ?_) h] at hstored
      · cases hstored
      · cases value <;> simp [Answer.updated]
  | _ => cases hwrites

end Store

/-! ### An update that is refused at its second unique field -/

namespace Sample

/-- Guests are told apart by their rooms and by their badges. -/
def guests : Fields :=
  [("room", { type := .scalar .string, required := true, options := [("unique", .bool true)] }),
    ("badge", { type := .scalar .string, required := true, options := [("unique", .bool true)] })]

/-- A guest of twelve equal octets. -/
def guest (octet : UInt8) (room badge : String) : Document :=
  ⟨⟨List.replicate 12 octet, rfl⟩, [("room", .string room), ("badge", .string badge)], []⟩

/-- A guest was written, and the index holds a badge of a guest who is not there. -/
def reception : Store :=
  let store := (Store.fresh "db" ⟨List.replicate 5 0, 0, rfl⟩).run
    [.register 0 "guests" { fields := guests, timestamps := false },
      .insert "guests" 0 (guest 1 "attic" "red")]
  let badge : UniqueKey := ⟨"guests", "badge", "\"blue\""⟩
  { store with unique := ⟨store.unique.tree.insert badge.octets (guest 9 "" "").id.octets⟩ }

/-- The guest moves to a free room and asks for the badge. -/
def move : Request := .update "guests" 0 (guest 1 "cellar" "blue")

/-- Why a request failed, if it did. -/
def failure? : Answer → Option Error
  | .failed error => some error
  | _ => none

theorem eq_failed_of_failure? {answer : Answer} {error : Error} (h : failure? answer = some error) :
    answer = .failed error := by
  cases answer with
  | failed other => exact congrArg Answer.failed (Option.some.inj h)
  | _ => cases h

end Sample

namespace Store

theorem content_of_refused_move :
    (Sample.reception.serve Sample.move).1
        = .failed (.uniqueViolation "guests" "badge" "\"blue\"") ∧
      Sample.reception.SameContent (Sample.reception.serve Sample.move).2 := by
  have hfailed : (Sample.reception.serve Sample.move).1
      = .failed (.uniqueViolation "guests" "badge" "\"blue\"") :=
    Sample.eq_failed_of_failure? (by decide +kernel)
  exact ⟨hfailed, content_of_failed_write Sample.reception Sample.move rfl _ hfailed⟩

end Store

end TypedCollections
