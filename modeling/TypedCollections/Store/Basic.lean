import TypedCollections.ObjectId.Generator
import TypedCollections.Store.Catalog
import TypedCollections.Store.Configuration
import TypedCollections.Store.Event
import TypedCollections.Store.UniqueIndex
/-!
# The store

A store holds a tree of documents for every collection, one index of unique values, and the catalog.
These are its archive: they outlive a session. The collections registered in the session, the source
of fresh identifiers and the events so far are gone when the store is closed.
-/

namespace TypedCollections

/-- A collection registered in a session. -/
structure Collection where
  name : String
  database : String
  schema : Schema
  patterns : Patterns

namespace Collection

/-- The name of the collection inside its database. -/
def qualifiedName (collection : Collection) : String :=
  collection.database ++ "." ++ collection.name

/-- The name of the collection that a field refers to. -/
def reference? (collection : Collection) (field : String) : Option String :=
  (Entries.find? collection.schema.fields field).bind FieldOf.reference

/-- The text that shows a collection to a programmer. -/
def debugText (collection : Collection) : String :=
  "CollectionHandle \x7b name: " ++ Text.quoted collection.name ++ ", namespace: "
    ++ Text.quoted collection.qualifiedName ++ " \x7d"

end Collection

/-- What is left of a store when it is closed. -/
structure Archive where
  documents : SortedMap String Tree
  unique : Tree
  catalog : Tree

def Archive.empty : Archive := ⟨.empty, .empty, .empty⟩

structure Store where
  database : String
  recovered : Bool
  documents : SortedMap String Tree
  unique : UniqueIndex
  catalog : Catalog
  registry : SortedMap String Collection
  generator : ObjectId.Generator
  log : List Event

namespace Store

def report (store : Store) (event : Event) : Store := { store with log := store.log ++ [event] }

def reportEach (store : Store) (events : List Event) : Store :=
  { store with log := store.log ++ events }

/-- Opens a store on what an earlier session left. -/
def ofArchive (database : String) (recovered : Bool) (generator : ObjectId.Generator)
    (archive : Archive) : Except Error Store :=
  (Catalog.ofTree archive.catalog).map fun catalog =>
    { database,
      recovered,
      documents := archive.documents,
      unique := ⟨archive.unique⟩,
      catalog,
      registry := .empty,
      generator,
      log := [.opened database recovered catalog.size] }

/-- A store that starts without content. -/
def fresh (database : String) (generator : ObjectId.Generator) : Store :=
  { database,
    recovered := false,
    documents := .empty,
    unique := .empty,
    catalog := .empty,
    registry := .empty,
    generator,
    log := [.opened database false 0] }

/-- What is left of the store when it is closed. -/
def archive (store : Store) : Archive := ⟨store.documents, store.unique.tree, store.catalog.tree⟩

/-- Opens a store again on an archive, with the events reported so far. -/
def reopenOn (store : Store) (archive : Archive) : Except Error Store :=
  (ofArchive store.database true store.generator archive).map fun opened =>
    { opened with log := store.log ++ opened.log }

/-- Closes the store and opens it again. -/
def reopen (store : Store) : Except Error Store := store.reopenOn store.archive

def tree (store : Store) (name : String) : Tree := (store.documents.find? name).getD .empty

def setTree (store : Store) (name : String) (tree : Tree) : Store :=
  { store with documents := store.documents.insert name tree }

theorem tree_setTree (store : Store) (name other : String) (tree : Tree) :
    (store.setTree name tree).tree other = if name = other then tree else store.tree other := by
  unfold Store.tree setTree
  rw [SortedMap.find?_insert]
  split <;> rfl

def collection? (store : Store) (name : String) : Option Collection := store.registry.find? name

def hasCollection (store : Store) (name : String) : Bool := store.registry.has name

/-- The names of the registered collections, ascending. -/
def collectionNames (store : Store) : List String := store.registry.keys

/-- What the catalog remembers of a collection. -/
def catalogEntry? (store : Store) (name : String) : Option CatalogEntry := store.catalog.find? name

/-- The event of a schema that is not the one recorded before. -/
def schemaChange (store : Store) (entry : CatalogEntry) : List Event :=
  match store.catalog.find? entry.name with
  | some previous =>
      if previous.fingerprint = entry.fingerprint then []
      else [.schemaChanged entry.name previous.fingerprint entry.fingerprint]
  | none => []

/-- Adds a collection that is not registered yet. -/
def addCollection (store : Store) (now : Nat) (collection : Collection) : Store :=
  let entry := CatalogEntry.ofSchema collection.name collection.schema now
  { store with
    catalog := store.catalog.record entry,
    registry := store.registry.insert collection.name collection,
    log := store.log ++ store.schemaChange entry ++
      [.registered collection.name collection.schema.fields.length] }

/-- Registers a collection. A name is registered at most once in a session. -/
def register (store : Store) (now : Nat) (name : String) (schema : Schema) :
    Except Error Collection × Store :=
  if name = "" then (.error (.invalidSchema .emptyName), store)
  else
    match Patterns.ofFields schema.fields with
    | .error fault => (.error (.invalidSchema fault), store)
    | .ok patterns =>
        if store.hasCollection name then (.error (.duplicateRegistration name), store)
        else
          let collection := { name, database := store.database, schema, patterns }
          (.ok collection, store.addCollection now collection)

end Store

end TypedCollections
