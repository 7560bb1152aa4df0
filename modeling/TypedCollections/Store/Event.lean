import TypedCollections.ObjectId
import TypedCollections.Text.Quoted
import TypedCollections.Validation.Basic
/-!
# Events

What a store reports while it works. An event is written as its level, what happened, and the names
and values that belong to it.
-/

namespace TypedCollections

/-- Something that happened to a store. -/
inductive Event where
  | opened (database : String) (recovered : Bool) (known : Nat)
  | compiled (fields : Nat)
  | dropped (collection : String) (place : Place)
  | inserted (collection : String) (id : ObjectId)
  | updated (collection : String) (id : ObjectId)
  | deleted (collection : String) (id : ObjectId)
  | schemaChanged (collection previous current : String)
  | registered (collection : String) (fields : Nat)
  | entityRegistered (entity : String) (fields : Nat) (expandable : Option (List String))
deriving DecidableEq

namespace Event

/-- How much an event matters. -/
def level : Event → String
  | opened .. => "INFO"
  | compiled .. => "DEBUG"
  | dropped .. => "DEBUG"
  | inserted .. => "DEBUG"
  | updated .. => "DEBUG"
  | deleted .. => "DEBUG"
  | schemaChanged .. => "WARN"
  | registered .. => "INFO"
  | entityRegistered .. => "INFO"

/-- What happened. -/
def subject : Event → String
  | opened .. => "document store opened"
  | compiled .. => "compiled description"
  | dropped .. => "dropping undeclared field"
  | inserted .. => "document inserted"
  | updated .. => "document updated"
  | deleted .. => "document deleted"
  | schemaChanged .. => "collection schema changed since last registration"
  | registered .. => "collection registered"
  | entityRegistered .. => "entity registered"

/-- The names and values that belong to an event. -/
def details : Event → List (String × String)
  | opened database recovered known =>
      [("database", database), ("recovered", toString recovered),
        ("known_collections", toString known)]
  | compiled fields => [("fields", toString fields)]
  | dropped collection place => [("collection", collection), ("field", place.text)]
  | inserted collection id => [("collection", collection), ("id", id.hex)]
  | updated collection id => [("collection", collection), ("id", id.hex)]
  | deleted collection id => [("collection", collection), ("id", id.hex)]
  | schemaChanged collection previous current =>
      [("collection", collection), ("previous", previous), ("current", current)]
  | registered collection fields => [("collection", collection), ("fields", toString fields)]
  | entityRegistered entity fields expandable =>
      [("entity", entity), ("fields", toString fields)] ++
        match expandable with
        | some names => [("expandable", Text.quotedList names)]
        | none => []

/-- The line that reports an event. -/
def text (event : Event) : String :=
  event.level ++ " " ++ event.subject ++ ":" ++
    String.join (event.details.map fun detail => " " ++ detail.1 ++ "=" ++ detail.2)

end Event

end TypedCollections
