import TypedCollections.Definition.Basic
import TypedCollections.Json.Printer
/-!
# Definitions as JSON

The JSON form of a definition: an object with a member for each field, which holds the type, whether
a value is required, the collection referred to, and the options. An option of one of these names
takes the place of the member.
-/

namespace TypedCollections

mutual

def FieldType.toJson : FieldType → Json
  | .scalar kind => .string kind.typeName
  | .objectId => .string "ObjectId"
  | .nested fields => .object (fieldsToMembers fields)
  | .array element => .array [FieldType.toJson element]
  | .map values => .object [("type", .string "Map"), ("of", fieldToJson values)]

/-- The JSON form of a field. -/
def fieldToJson : FieldOf FieldType → Json
  | ⟨type, required, reference, options⟩ =>
      .object (Entries.writeAll
        (typeMembers type ++ ("required", .bool required) ::
          (match reference with
            | none => []
            | some collection => [("ref", .string collection)]))
        options)

/-- The members for the type of a field. -/
def typeMembers : FieldType → List (String × Json)
  | .scalar kind => [("type", .string kind.typeName)]
  | .objectId => [("type", .string "ObjectId")]
  | .nested fields => [("type", .object (fieldsToMembers fields))]
  | .array element => [("type", .array [FieldType.toJson element])]
  | .map values => [("type", .string "Map"), ("of", fieldToJson values)]

def fieldsToMembers : List (String × FieldOf FieldType) → List (String × Json)
  | [] => []
  | (name, field) :: rest => (name, fieldToJson field) :: fieldsToMembers rest

end

def Fields.toJson (fields : Fields) : Json := .object (fieldsToMembers fields)

/-- The compact text of a definition. -/
def Fields.text (fields : Fields) : String := fields.toJson.text

end TypedCollections
