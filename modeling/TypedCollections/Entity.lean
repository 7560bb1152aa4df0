import TypedCollections.Schema.Rendering
import TypedCollections.Store.Basic
/-!
# Entities

An entity is a description registered as a collection that keeps time stamps and renders identifiers
as plain text. Entities are registered one by one, or several at once; then every description is
compiled and every name is looked up before the first one is registered.
-/

namespace TypedCollections

/-- A description to be registered under a name, with the references that may be expanded. -/
structure Entity where
  name : String
  description : ObjectDescription
  expandable : List String

namespace Entity

/-- The first name that is not a field which refers to a collection. -/
def notReference? (fields : Fields) (names : List String) : Option String :=
  names.find? fun name => ((Entries.find? fields name).bind FieldOf.reference).isNone

/-- The schema of a compiled entity. -/
def schemaOf (entity : Entity) (fields : Fields) : Except Error Schema :=
  match notReference? fields entity.expandable with
  | some field => .error (.notExpandable entity.name field)
  | none =>
      .ok (((Schema.define fields true).withExpandable entity.expandable).withTransform
        (identifierTransform (NameSet.ofNames entity.expandable)) [.plain, .wire])

def prepare (entity : Entity) : Except Error Schema :=
  match compile entity.description with
  | .error error => .error (.compile error)
  | .ok fields => entity.schemaOf fields

end Entity

namespace Store

/-- Compiles a description and reports it. -/
def compile (store : Store) (description : ObjectDescription) : Except Error Fields × Store :=
  match TypedCollections.compile description with
  | .error error => (.error (.compile error), store)
  | .ok fields => (.ok fields, store.report (.compiled fields.length))

/-- The schema of an entity, with the report of its compilation. -/
def prepare (store : Store) (entity : Entity) : Except Error Schema × Store :=
  match store.compile entity.description with
  | (.error error, store) => (.error error, store)
  | (.ok fields, store) => (entity.schemaOf fields, store)

def registerEntity (store : Store) (now : Nat) (entity : Entity) :
    Except Error Collection × Store :=
  match store.prepare entity with
  | (.error error, store) => (.error error, store)
  | (.ok schema, store) =>
      match store.register now entity.name schema with
      | (.error error, store) => (.error error, store)
      | (.ok collection, store) =>
          (.ok collection, store.report
            (.entityRegistered entity.name schema.fields.length (some entity.expandable)))

/-- Prepares entities in order. A name that was seen before or is registered is refused. -/
def prepareEach (store : Store) (seen : List String) :
    List Entity → Except Error (List (String × Schema)) × Store
  | [] => (.ok [], store)
  | entity :: rest =>
      if entity.name ∈ seen ∨ store.hasCollection entity.name then
        (.error (.duplicateRegistration entity.name), store)
      else
        match store.prepare entity with
        | (.error error, store) => (.error error, store)
        | (.ok schema, store) =>
            let (prepared, store) := store.prepareEach (entity.name :: seen) rest
            (prepared.map ((entity.name, schema) :: ·), store)

/-- Registers prepared entities in order, up to the first that is refused. -/
def registerPrepared (store : Store) (now : Nat) :
    List (String × Schema) → Except Error (List Collection) × Store
  | [] => (.ok [], store)
  | (name, schema) :: rest =>
      match store.register now name schema with
      | (.error error, store) => (.error error, store)
      | (.ok collection, store) =>
          let store := store.report (.entityRegistered name schema.fields.length none)
          let (collections, store) := store.registerPrepared now rest
          (collections.map (collection :: ·), store)

/-- Registers several entities. All of them are prepared before the first one is registered. -/
def registerAll (store : Store) (now : Nat) (entities : List Entity) :
    Except Error (List Collection) × Store :=
  match store.prepareEach [] entities with
  | (.error error, store) => (.error error, store)
  | (.ok prepared, store) => store.registerPrepared now prepared

end Store

end TypedCollections
