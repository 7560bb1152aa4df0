import TypedCollections.Description.Basic
import TypedCollections.Json.Printer
/-!
# Descriptions as JSON

The JSON form of a description: the kind first, then what the kind needs, then the annotations. What
is absent, false or empty is left out, except the properties of an object and whether it welcomes
more.
-/

namespace TypedCollections

/-- A member that is left out if there is nothing to say. -/
def memberIf (condition : Bool) (name : String) (value : Json) : List (String × Json) :=
  if condition then [(name, value)] else []

/-- The members for a node's annotations. -/
def Annotations.toMembers (notes : Annotations) : List (String × Json) :=
  memberIf notes.optional "optional" (.bool true)
    ++ memberIf (!notes.attributes.isEmpty) "attributes" (.object notes.attributes)
    ++ memberIf (!notes.constraints.isEmpty) "constraints" (.object notes.constraints)

/-- The member for a declared set of required names. -/
def NameSet.toMembers : Option NameSet → List (String × Json)
  | none => []
  | some names => [("required", .array (names.keys.map Json.string))]

namespace Description

mutual

def toJson : Description → Json
  | scalar kind notes =>
      .object (("kind", .string "scalar") :: ("type", .string kind.name) :: notes.toMembers)
  | object shape => shapeToJson shape
  | array items notes =>
      .object (("kind", .string "array") :: ("items", toJson items) :: notes.toMembers)
  | dictionary values keyOptions notes =>
      .object (("kind", .string "dictionary") :: ("values", toJson values) ::
        (memberIf (!keyOptions.isEmpty) "keyOptions" (.object keyOptions) ++ notes.toMembers))
  | reference target collection many notes =>
      .object (("kind", .string "reference") ::
        (targetToMembers target ++ ("collection", .string collection) ::
          (memberIf many "many" (.bool true) ++ notes.toMembers)))

def shapeToJson : ObjectShape Description → Json
  | ⟨properties, required, additionalProperties, notes⟩ =>
      .object (("kind", .string "object") ::
        ("properties", .object (propertiesToMembers properties)) ::
        (NameSet.toMembers required ++ ("additionalProperties", .bool additionalProperties) ::
          notes.toMembers))

/-- The member for the target of a reference. -/
def targetToMembers : Option Description → List (String × Json)
  | none => []
  | some target => [("target", toJson target)]

def propertiesToMembers : List (String × Description) → List (String × Json)
  | [] => []
  | (name, node) :: rest => (name, toJson node) :: propertiesToMembers rest

end

end Description

end TypedCollections
