import TypedCollections.Description.Basic
/-!
# Definitions

A definition is what a description is compiled to and what a store checks documents against: named
fields in order, each with a type, whether a value must be there, the collection it refers to if it
does, and options.
-/

namespace TypedCollections

/-- A field whose type is drawn from `τ`. -/
structure FieldOf (τ : Type) where
  type : τ
  required : Bool
  reference : Option String := none
  options : Options := []

/-- The type of a field. An array repeats one element type, a map describes every value by one
field. -/
inductive FieldType where
  | scalar (kind : ScalarKind)
  | objectId
  | nested (fields : List (String × FieldOf FieldType))
  | array (element : FieldType)
  | map (values : FieldOf FieldType)

/-- A field of a definition. -/
abbrev Field := FieldOf FieldType

/-- Named fields in order. -/
abbrev Fields := List (String × Field)

def FieldOf.option? {τ : Type} (field : FieldOf τ) (key : String) : Option Json :=
  Entries.find? field.options key

def FieldType.element? : FieldType → Option FieldType
  | .array element => some element
  | _ => none

/-- The fields that refer to a collection, with its name. -/
def Fields.references (fields : Fields) : List (String × String) :=
  fields.filterMap fun field => field.2.reference.map fun collection => (field.1, collection)

end TypedCollections
