import TypedCollections.Schema.Basic
/-!
# How entities are rendered

The transform of an entity writes identifiers as plain text: the document's own, and those held by
its expandable references as long as they are not expanded.
-/

namespace TypedCollections

/-- An identifier as text, anything else in its native form. -/
def keyText : Value → Json
  | .objectId id => .string id.hex
  | other => other.toJson

/-- What takes the place of an expandable reference, if anything does. -/
def referenceText? : Option Value → Option Json
  | some (.objectId id) => some (.string id.hex)
  | some (.array items) => some (.array (items.map keyText))
  | _ => none

/-- Writes the identifier and the references that are not expanded as text. -/
def identifierTransform (expandable : NameSet) : Transform := fun document members =>
  expandable.keys.foldl (fun members name =>
      if document.isPopulated name then members
      else
        match referenceText? (document.get? name) with
        | some text => Entries.write members name text
        | none => members)
    (Entries.write members idField (.string document.id.hex))

end TypedCollections
