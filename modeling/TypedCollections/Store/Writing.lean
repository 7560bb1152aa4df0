import TypedCollections.Store.Reading
import TypedCollections.Validation.Dropped
/-!
# Writing documents

A document is written in its stored form: expanded fields hold their identifiers again, time stamps
are set if the collection keeps them, and the fields are checked and completed. Then the document
takes over the unique values it needs, and at last its octets are written under its identifier.
-/

namespace TypedCollections

/-- The option that makes a field unique. -/
def uniqueOption : String := "unique"

namespace Field

/-- Whether a field's values are unique: the option is set, and its values are no arrays or objects.
-/
def isUnique (field : Field) : Bool :=
  match field.option? uniqueOption, field.type with
  | some (.bool true), .scalar _ => true
  | some (.bool true), .objectId => true
  | _, _ => false

end Field

namespace Collection

/-- The fields whose values are unique. -/
def uniqueFields (collection : Collection) : List String :=
  (collection.schema.fields.filter fun field => Field.isUnique field.2).map Prod.fst

/-- The unique value of a document under a field. Null is not a value. -/
def uniqueKey? (collection : Collection) (document : Document) (field : String) :
    Option UniqueKey :=
  match document.get? field with
  | none | some .null => none
  | some value => some ⟨collection.name, field, value.toJson.text⟩

/-- The unique values of a document. -/
def uniqueKeys (collection : Collection) (document : Document) : List UniqueKey :=
  collection.uniqueFields.filterMap (collection.uniqueKey? document)

/-- The fields with their time stamps set, if the collection keeps them. The time of creation is
that of the document before, where it has one. -/
def stamp (collection : Collection) (now : Nat) (previous : Option Document)
    (fields : List (String × Value)) : List (String × Value) :=
  if collection.schema.timestamps then
    let time := Value.number (Number.ofInt now)
    let created := ((previous.bind (·.get? createdAt))).getD time
    Entries.write (Entries.write fields createdAt created) updatedAt time
  else fields

/-- Checks and completes the fields of a document. -/
def check (collection : Collection) (fields : List (String × Value)) :
    Except Error (List (String × Value)) :=
  match Validation.validate collection.patterns collection.schema.fields fields with
  | .ok checked => .ok checked
  | .error violated => .error (.validation collection.name violated)

/-- The events of fields that the check drops. -/
def dropEvents (collection : Collection) (fields : List (String × Value)) : List Event :=
  (Validation.dropped collection.patterns collection.schema.fields fields).map
    (.dropped collection.name)

end Collection

namespace Store

/-- Writes the octets of a document under its identifier. -/
def put (store : Store) (collection : Collection) (document : Document) : Store :=
  store.setTree collection.name
    ((store.tree collection.name).insert document.id.octets document.toOctets)

/-- Writes a document in the place of the one before, if there was one. -/
def write (store : Store) (collection : Collection) (now : Nat) (previous : Option Document)
    (document : Document) : Except Error Document × Store :=
  let fields := collection.stamp now previous document.storedFields
  let store := store.reportEach (collection.dropEvents fields)
  match collection.check fields with
  | .error error => (.error error, store)
  | .ok checked =>
      let stored := Document.ofFields document.id checked
      let before := (previous.map collection.uniqueKeys).getD []
      match store.unique.exchange stored.id before (collection.uniqueKeys stored) with
      | (.error error, unique) => (.error error, { store with unique })
      | (.ok (), unique) => (.ok stored, { store with unique }.put collection stored)

/-- Writes a document whose identifier is not taken. -/
def insert (store : Store) (collection : Collection) (now : Nat) (document : Document) :
    Except Error Document × Store :=
  if (store.tree collection.name).has document.id.octets then
    (.error (.uniqueViolation collection.name idField document.id.hex), store)
  else
    match store.write collection now none document with
    | (.ok stored, store) => (.ok stored, store.report (.inserted collection.name stored.id))
    | (.error error, store) => (.error error, store)

/-- The identifier given in JSON members: as itself or by its text. Otherwise it is made. -/
def chooseId (store : Store) (now : Nat) (members : List (String × Json)) :
    Except Error ObjectId × Store :=
  match (Entries.find? members idField).map Value.ofJson with
  | some (.objectId id) => (.ok id, store)
  | some (.string text) =>
      match ObjectId.ofHex? text with
      | some id => (.ok id, store)
      | none => (.error (.invalidObjectId text), store)
  | _ =>
      let (id, generator) := store.generator.next now
      (.ok id, { store with generator })

/-- Writes a new document given as JSON. -/
def insertJson (store : Store) (collection : Collection) (now : Nat) (json : Json) :
    Except Error Document × Store :=
  match json with
  | .object members =>
      match store.chooseId now members with
      | (.error error, store) => (.error error, store)
      | (.ok id, store) =>
          store.insert collection now (Document.ofFields id (Value.membersOfJson members))
  | _ => (.error (.validation collection.name ⟨[], .notAnObject⟩), store)

/-- Writes a document in the place of the one with its identifier, if there is one. -/
def update (store : Store) (collection : Collection) (now : Nat) (document : Document) :
    Except Error (Option Document) × Store :=
  match store.find collection document.id with
  | .error error => (.error error, store)
  | .ok none => (.ok none, store)
  | .ok (some previous) =>
      match store.write collection now (some previous) document with
      | (.ok stored, store) =>
          (.ok (some stored), store.report (.updated collection.name stored.id))
      | (.error error, store) => (.error error, store)

/-- Deletes the document of an identifier and releases its unique values. Says whether there was
one. -/
def delete (store : Store) (collection : Collection) (id : ObjectId) : Except Error Bool × Store :=
  let tree := store.tree collection.name
  match tree.find? id.octets with
  | none => (.ok false, store)
  | some octets =>
      let store := store.setTree collection.name (tree.erase id.octets)
      match readDocument octets with
      | .error error => (.error error, store)
      | .ok removed =>
          let unique := store.unique.releaseEach id (collection.uniqueKeys removed)
          (.ok true, { store with unique }.report (.deleted collection.name id))

end Store

end TypedCollections
