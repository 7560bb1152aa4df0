import TypedCollections.Store.Basic
/-!
# Rendering documents

A document is rendered for a representation by the transform of its collection. Its expanded fields
are rendered first, each by the collection that the field refers to.
-/

namespace TypedCollections

namespace Store

/-- Applies the transform of a collection for a representation, if it has one. -/
def applyTransform (collection : Collection) (kind : Representation) (document : Document)
    (members : List (String × Json)) : List (String × Json) :=
  match collection.schema.transform? kind with
  | some transform => transform document members
  | none => members

/-- The collection that renders a field: the one the field refers to, if the field is expanded and
the collection is registered. -/
def renderer? (store : Store) (collection : Collection) (populated : List (String × Value))
    (field : String) : Option Collection :=
  match SortedMap.lookup populated field with
  | none => none
  | some _ => (collection.reference? field).bind store.collection?

mutual

/-- A value rendered by a collection: documents by its transform, also inside arrays. -/
def renderValue (store : Store) (kind : Representation) (collection : Collection) : Value → Json
  | .document id fields populated =>
      .object (applyTransform collection kind ⟨id, fields, populated⟩
        ((idField, id.toJson) :: renderFields store kind collection populated fields))
  | .array items => .array (renderItems store kind collection items)
  | .null => .null
  | .bool value => .bool value
  | .number value => value.toJson
  | .string value => .string value
  | .objectId id => id.toJson
  | .object members => .object (Value.membersToJson members)

/-- Every item rendered by a collection. -/
def renderItems (store : Store) (kind : Representation) (collection : Collection) :
    List Value → List Json
  | [] => []
  | item :: rest =>
      renderValue store kind collection item :: renderItems store kind collection rest

/-- The fields of a document of a collection. An expanded field is rendered by the collection it
refers to, any other in its native form. -/
def renderFields (store : Store) (kind : Representation) (collection : Collection)
    (populated : List (String × Value)) : List (String × Value) → List (String × Json)
  | [] => []
  | (name, value) :: rest =>
      (name,
        match store.renderer? collection populated name with
        | some target => renderValue store kind target value
        | none => value.toJson) :: renderFields store kind collection populated rest

end

/-- The members of a rendered document. -/
def renderMembers (store : Store) (kind : Representation) (collection : Collection)
    (document : Document) : List (String × Json) :=
  applyTransform collection kind document
    ((idField, document.id.toJson) ::
      store.renderFields kind collection document.populated document.fields)

/-- A document rendered by its collection. -/
def render (store : Store) (kind : Representation) (collection : Collection)
    (document : Document) : Json :=
  .object (store.renderMembers kind collection document)

end Store

end TypedCollections
