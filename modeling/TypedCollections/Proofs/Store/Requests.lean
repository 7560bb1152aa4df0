import TypedCollections.Proofs.Document
import TypedCollections.Store.Writing
/-!
# Runs of a store

What programs do to an open store, request by request: collections are registered, documents are
written, deleted and read, and the store is closed and opened again. A collection is asked by its
name and answers only while it is registered in the session. Opening can fail, and then the store is
left as it is.
-/

namespace TypedCollections

/-- What a program asks of a store. Requests that set time stamps carry the time. -/
inductive Request where
  | register (now : Nat) (name : String) (schema : Schema)
  | insert (name : String) (now : Nat) (document : Document)
  | insertJson (name : String) (now : Nat) (json : Json)
  | update (name : String) (now : Nat) (document : Document)
  | delete (name : String) (id : ObjectId)
  | find (name : String) (id : ObjectId)
  | findAll (name : String)
  | count (name : String)
  | reopen

/-- What a store answers. -/
inductive Answer where
  | done
  | unregistered
  | written (document : Document)
  | absent
  | deleted (present : Bool)
  | found (document : Option Document)
  | listed (documents : List Document)
  | counted (size : Nat)
  | failed (error : Error)

/-- The answer to an operation that may fail. -/
def Answer.of {α : Type} (answer : α → Answer) : Except Error α → Answer
  | .ok result => answer result
  | .error error => .failed error

/-- The answer to an update. -/
def Answer.updated : Option Document → Answer
  | some document => .written document
  | none => .absent

namespace Store

/-- Asks a collection, if it is registered. -/
def on (store : Store) (name : String) (ask : Collection → Answer × Store) : Answer × Store :=
  match store.collection? name with
  | some collection => ask collection
  | none => (.unregistered, store)

/-- What the store answers to a request, and the store afterwards. -/
def serve (store : Store) : Request → Answer × Store
  | .register now name schema =>
      let (result, store) := store.register now name schema
      (.of (fun _ => .done) result, store)
  | .insert name now document =>
      store.on name fun collection =>
        let (result, store) := store.insert collection now document
        (.of .written result, store)
  | .insertJson name now json =>
      store.on name fun collection =>
        let (result, store) := store.insertJson collection now json
        (.of .written result, store)
  | .update name now document =>
      store.on name fun collection =>
        let (result, store) := store.update collection now document
        (.of .updated result, store)
  | .delete name id =>
      store.on name fun collection =>
        let (result, store) := store.delete collection id
        (.of .deleted result, store)
  | .find name id =>
      store.on name fun collection => (.of .found (store.find collection id), store)
  | .findAll name => store.on name fun collection => (.of .listed (store.findAll collection), store)
  | .count name => store.on name fun collection => (.counted (store.count collection), store)
  | .reopen =>
      match store.reopen with
      | .ok opened => (.done, opened)
      | .error error => (.failed error, store)

/-- The store after requests, one after the other. -/
def run (store : Store) : List Request → Store
  | [] => store
  | request :: rest => (store.serve request).2.run rest

theorem run_append (store : Store) (requests more : List Request) :
    store.run (requests ++ more) = (store.run requests).run more := by
  induction requests generalizing store with
  | nil => rfl
  | cons request rest ih => exact ih (store.serve request).2

/-- What the store answers to requests, one after the other. -/
def answers (store : Store) : List Request → List Answer
  | [] => []
  | request :: rest => (store.serve request).1 :: (store.serve request).2.answers rest

end Store

namespace Request

/-- The collection whose documents a request writes. -/
def writes? : Request → Option String
  | insert name _ _ => some name
  | insertJson name _ _ => some name
  | update name _ _ => some name
  | _ => none

/-- The document that an answer to the request reports as written, with its collection. -/
def written (request : Request) : Answer → List (String × Document)
  | .written document => (request.writes?.map fun name => (name, document)).toList
  | _ => []

/-- What a request may carry when every collection is always registered with the same fields: the
fields of the definition, and well-formed trees. -/
def Agrees (definition : String → Fields) : Request → Prop
  | register _ name schema => schema.fields = definition name
  | insert _ _ document => document.WellFormed
  | insertJson _ _ json => json.WellFormed
  | update _ _ document => document.WellFormed
  | _ => True

/-- The name that a request registers, if it does, has no null character. The unique index parts the
names in its keys by this character. -/
def Plain : Request → Prop
  | register _ name _ => '\x00' ∉ name.toList
  | _ => True

end Request

/-- The document that a write would store, if its fields pass the check. -/
def Collection.prepare? (collection : Collection) (now : Nat) (previous : Option Document)
    (document : Document) : Option Document :=
  match collection.check (collection.stamp now previous document.storedFields) with
  | .ok checked => some (Document.ofFields document.id checked)
  | .error _ => none

namespace Store

/-- The document that a request would store, if nothing but other documents stood in its way. -/
def prepared? (store : Store) : Request → Option (String × Document)
  | .insert name now document =>
      (store.collection? name).bind fun collection =>
        (collection.prepare? now none document).map (name, ·)
  | .insertJson name now (.object members) =>
      (store.collection? name).bind fun collection =>
        match (store.chooseId now members).1 with
        | .ok id =>
            (collection.prepare? now none
              (Document.ofFields id (Value.membersOfJson members))).map (name, ·)
        | .error _ => none
  | .update name now document =>
      (store.collection? name).bind fun collection =>
        match store.find collection document.id with
        | .ok (some previous) =>
            (collection.prepare? now (some previous) document).map (name, ·)
        | _ => none
  | _ => none

/-- The documents that requests would store, with their collections. -/
def prepared (store : Store) : List Request → List (String × Document)
  | [] => []
  | request :: rest => (store.prepared? request).toList ++ (store.serve request).2.prepared rest

/-- The documents written by requests, with their collections, as the store returned them. -/
def written (store : Store) : List Request → List (String × Document)
  | [] => []
  | request :: rest =>
      request.written (store.serve request).1 ++ (store.serve request).2.written rest

end Store

end TypedCollections
