import Mathlib.Logic.Function.Basic
import TypedCollections.Proofs.Store.Requests
import TypedCollections.Proofs.Store.UniqueValues
/-!
# Shelves

What a store is to those who ask it, without octets and without an index: the collections registered
in the session and, for every name, a shelf, which is a finite map from identifiers to documents.
The rules say of every request how shelves answer it and which shelves are left. A request that
fails leaves everything as it was, and any other changes at most the documents of one identifier of
one collection.
-/

namespace TypedCollections

/-- The documents of a collection, each under its own identifier. -/
structure Shelf where
  documents : SortedMap ObjectId Document
  id_eq : ∀ id document, documents.find? id = some document → document.id = id

namespace Shelf

/-- A shelf without documents. -/
def empty : Shelf := ⟨.empty, fun _ _ h => by cases h⟩

/-- The document of an identifier. -/
def find? (shelf : Shelf) (id : ObjectId) : Option Document := shelf.documents.find? id

/-- Puts a document under its identifier. -/
def put (shelf : Shelf) (document : Document) : Shelf where
  documents := shelf.documents.insert document.id document
  id_eq id other h := by
    rw [SortedMap.find?_insert] at h
    split at h
    · rename_i hid
      rw [← Option.some.inj h, hid]
    · exact shelf.id_eq id other h

/-- Takes away the document of an identifier. -/
def remove (shelf : Shelf) (id : ObjectId) : Shelf where
  documents := shelf.documents.erase id
  id_eq other document h := by
    rw [SortedMap.find?_erase] at h
    split at h
    · cases h
    · exact shelf.id_eq other document h

theorem find?_put (shelf : Shelf) (document : Document) (id : ObjectId) :
    (shelf.put document).find? id = if document.id = id then some document else shelf.find? id :=
  SortedMap.find?_insert shelf.documents document.id id document

theorem find?_remove (shelf : Shelf) (id other : ObjectId) :
    (shelf.remove id).find? other = if id = other then none else shelf.find? other :=
  SortedMap.find?_erase shelf.documents id other

/-- Another document of the shelf holds an equal value, other than null, in a unique field. -/
def Refuses (shelf : Shelf) (fields : Fields) (document : Document) : Prop :=
  ∃ other field value held, shelf.find? other.id = some other ∧ other.id ≠ document.id ∧
    IsUnique fields field ∧ document.get? field = some value ∧ value ≠ .null ∧
    other.get? field = some held ∧ (value == held) = true

end Shelf

/-- The collections registered in a session, and the documents of every collection. -/
structure Shelves where
  collections : SortedMap String Collection
  shelf : String → Shelf

/-- The identifier that JSON members give a document: the one under `_id`, or the one whose text is
there. Without such a member any identifier will do. -/
def ObjectId.GivenBy (members : List (String × Json)) (id : ObjectId) : Prop :=
  match (Entries.find? members idField).map Value.ofJson with
  | some (.objectId given) => given = id
  | some (.string text) => ObjectId.ofHex? text = some id
  | _ => True

/-- The collection that a request is for. -/
def Request.asks? : Request → Option String
  | register .. => none
  | insert name _ _ => some name
  | insertJson name _ _ => some name
  | update name _ _ => some name
  | delete name _ => some name
  | find name _ => some name
  | findAll name => some name
  | count name => some name
  | reopen => none

namespace Shelves

/-- Nothing is registered and every shelf is empty. -/
def empty : Shelves := ⟨.empty, fun _ => .empty⟩

/-- Puts a document on the shelf of a collection. -/
def put (shelves : Shelves) (name : String) (document : Document) : Shelves :=
  { shelves with
    shelf := Function.update shelves.shelf name ((shelves.shelf name).put document) }

/-- Takes the document of an identifier from the shelf of a collection. -/
def remove (shelves : Shelves) (name : String) (id : ObjectId) : Shelves :=
  { shelves with shelf := Function.update shelves.shelf name ((shelves.shelf name).remove id) }

/-- A document that was put stands under its identifier, and everything else is as before. -/
theorem find?_put (shelves : Shelves) (name : String) (document : Document) (other : String)
    (id : ObjectId) :
    ((shelves.put name document).shelf other).find? id =
      if other = name ∧ id = document.id then some document
      else (shelves.shelf other).find? id := by
  by_cases hname : other = name
  · subst hname
    have hshelf : (shelves.put other document).shelf other
        = (shelves.shelf other).put document := Function.update_self ..
    rw [hshelf, Shelf.find?_put]
    simp [eq_comm]
  · have hshelf : (shelves.put name document).shelf other = shelves.shelf other :=
      Function.update_of_ne hname ..
    rw [hshelf, if_neg fun h => hname h.1]

/-- What was taken away is gone, and everything else is as before. -/
theorem find?_remove (shelves : Shelves) (name : String) (id : ObjectId) (other : String)
    (id' : ObjectId) :
    ((shelves.remove name id).shelf other).find? id' =
      if other = name ∧ id' = id then none else (shelves.shelf other).find? id' := by
  by_cases hname : other = name
  · subst hname
    have hshelf : (shelves.remove other id).shelf other = (shelves.shelf other).remove id :=
      Function.update_self ..
    rw [hshelf, Shelf.find?_remove]
    simp [eq_comm]
  · have hshelf : (shelves.remove name id).shelf other = shelves.shelf other :=
      Function.update_of_ne hname ..
    rw [hshelf, if_neg fun h => hname h.1]

/-- The collection can be registered: its name is neither empty nor taken, and the patterns of its
schema are understood. -/
structure Registers (shelves : Shelves) (collection : Collection) : Prop where
  name_ne : collection.name ≠ ""
  free : shelves.collections.find? collection.name = none
  patterns : Patterns.ofFields collection.schema.fields = .ok collection.patterns

/-- What a collection stores when it is given fields under an identifier: the fields pass the check,
and no other document of the collection holds an equal value in a unique field. -/
structure Accepts (shelves : Shelves) (name : String) (collection : Collection) (id : ObjectId)
    (fields : List (String × Value)) (stored : Document) : Prop where
  checked : ∃ checked, Validation.validate collection.patterns collection.schema.fields fields
    = .ok checked ∧ stored = Document.ofFields id checked
  free : ¬ (shelves.shelf name).Refuses collection.schema.fields stored

/-- How shelves answer a request, and which shelves are left. A document that is stored is kept as it
is read back. -/
inductive Serves : Shelves → Request → Answer → Shelves → Prop
  | registered {before : Shelves} {now : Nat} {collection : Collection}
      (hregisters : before.Registers collection) :
      Serves before (.register now collection.name collection.schema) .done
        { before with collections := before.collections.insert collection.name collection }
  | registerRefused {before : Shelves} {now : Nat} {name : String} {schema : Schema} {error : Error}
      (hrefused : ∀ collection, collection.name = name → collection.schema = schema →
        ¬ before.Registers collection) :
      Serves before (.register now name schema) (.failed error) before
  | unregistered {before : Shelves} {request : Request} {name : String}
      (hasks : request.asks? = some name) (hname : before.collections.find? name = none) :
      Serves before request .unregistered before
  | inserted {before : Shelves} {name : String} {now : Nat} {document stored : Document}
      {collection : Collection} (hname : before.collections.find? name = some collection)
      (habsent : (before.shelf name).find? document.id = none)
      (haccepts : before.Accepts name collection document.id
        (collection.stamp now none document.storedFields) stored) :
      Serves before (.insert name now document) (.written stored) (before.put name stored.reread)
  | insertRefused {before : Shelves} {name : String} {now : Nat} {document : Document}
      {collection : Collection} {error : Error}
      (hname : before.collections.find? name = some collection)
      (hrefused : (before.shelf name).find? document.id = none →
        ∀ stored, ¬ before.Accepts name collection document.id
          (collection.stamp now none document.storedFields) stored) :
      Serves before (.insert name now document) (.failed error) before
  | insertedJson {before after : Shelves} {name : String} {now : Nat} {id : ObjectId}
      {members : List (String × Json)} {answer : Answer} (hid : id.GivenBy members)
      (hserves : Serves before
        (.insert name now (Document.ofFields id (Value.membersOfJson members))) answer after) :
      Serves before (.insertJson name now (.object members)) answer after
  | jsonRefused {before : Shelves} {name : String} {now : Nat} {json : Json} {error : Error}
      {collection : Collection} (hname : before.collections.find? name = some collection)
      (hrefused : ∀ members, json = .object members → ∀ id, ¬ ObjectId.GivenBy members id) :
      Serves before (.insertJson name now json) (.failed error) before
  | updated {before : Shelves} {name : String} {now : Nat} {document previous stored : Document}
      {collection : Collection} (hname : before.collections.find? name = some collection)
      (hfound : (before.shelf name).find? document.id = some previous)
      (haccepts : before.Accepts name collection document.id
        (collection.stamp now (some previous) document.storedFields) stored) :
      Serves before (.update name now document) (.written stored) (before.put name stored.reread)
  | updateAbsent {before : Shelves} {name : String} {now : Nat} {document : Document}
      {collection : Collection} (hname : before.collections.find? name = some collection)
      (habsent : (before.shelf name).find? document.id = none) :
      Serves before (.update name now document) .absent before
  | updateRefused {before : Shelves} {name : String} {now : Nat} {document previous : Document}
      {collection : Collection} {error : Error}
      (hname : before.collections.find? name = some collection)
      (hfound : (before.shelf name).find? document.id = some previous)
      (hrefused : ∀ stored, ¬ before.Accepts name collection document.id
        (collection.stamp now (some previous) document.storedFields) stored) :
      Serves before (.update name now document) (.failed error) before
  | deleted {before : Shelves} {name : String} {id : ObjectId} {collection : Collection}
      (hname : before.collections.find? name = some collection) :
      Serves before (.delete name id) (.deleted ((before.shelf name).find? id).isSome)
        (before.remove name id)
  | found {before : Shelves} {name : String} {id : ObjectId} {collection : Collection}
      (hname : before.collections.find? name = some collection) :
      Serves before (.find name id) (.found ((before.shelf name).find? id)) before
  | listed {before : Shelves} {name : String} {collection : Collection}
      (hname : before.collections.find? name = some collection) :
      Serves before (.findAll name) (.listed (before.shelf name).documents.values) before
  | counted {before : Shelves} {name : String} {collection : Collection}
      (hname : before.collections.find? name = some collection) :
      Serves before (.count name) (.counted (before.shelf name).documents.size) before
  | reopened {before : Shelves} :
      Serves before .reopen .done { before with collections := .empty }

/-- A request that fails leaves everything as it was. -/
theorem Serves.eq_of_failed {before after : Shelves} {request : Request} {error : Error}
    (h : Serves before request (.failed error) after) : after = before := by
  generalize hanswer : Answer.failed error = answer at h
  induction h with
  | insertedJson _ _ ih => exact ih hanswer
  | registerRefused => rfl
  | insertRefused => rfl
  | jsonRefused => rfl
  | updateRefused => rfl
  | _ => cases hanswer

/-- A request changes at most the document of one identifier, in the collection that it asks. -/
theorem Serves.exists_frame {before after : Shelves} {request : Request} {answer : Answer}
    (h : Serves before request answer after) :
    after.shelf = before.shelf ∨
      ∃ name id, request.asks? = some name ∧ ∀ other id', ¬ (other = name ∧ id' = id) →
        (after.shelf other).find? id' = (before.shelf other).find? id' := by
  induction h with
  | @inserted name _ _ stored =>
      refine .inr ⟨name, stored.reread.id, rfl, fun other id' hplace => ?_⟩
      rw [find?_put, if_neg hplace]
  | @updated name _ _ _ stored =>
      refine .inr ⟨name, stored.reread.id, rfl, fun other id' hplace => ?_⟩
      rw [find?_put, if_neg hplace]
  | @deleted name id =>
      refine .inr ⟨name, id, rfl, fun other id' hplace => ?_⟩
      rw [find?_remove, if_neg hplace]
  | insertedJson _ _ ih => exact ih
  | _ => exact .inl rfl

/-- How shelves answer requests, one after the other. -/
inductive Run : Shelves → List Request → List Answer → Shelves → Prop
  | nil {shelves : Shelves} : Run shelves [] [] shelves
  | cons {before between after : Shelves} {request : Request} {answer : Answer}
      {requests : List Request} {answers : List Answer} (hserves : Serves before request answer between)
      (hrest : Run between requests answers after) :
      Run before (request :: requests) (answer :: answers) after

end Shelves

end TypedCollections
