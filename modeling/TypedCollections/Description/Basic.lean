import TypedCollections.Json.Basic
import TypedCollections.SortedMap
/-!
# Descriptions

A description says what the documents of a collection look like. It is a tree of nodes: scalars,
objects, arrays, dictionaries with free keys, and references to other collections. Every node
carries annotations: whether it is optional, free attributes, and constraints.
-/

namespace TypedCollections

inductive ScalarKind where
  | string
  | number
  | boolean
deriving DecidableEq

/-- The name of a scalar kind in a description. -/
def ScalarKind.name : ScalarKind → String
  | .string => "string"
  | .number => "number"
  | .boolean => "boolean"

/-- The name of a scalar kind in a definition and in messages. -/
def ScalarKind.typeName : ScalarKind → String
  | .string => "String"
  | .number => "Number"
  | .boolean => "Boolean"

/-- Named JSON values in written order. -/
abbrev Options := List (String × Json)

/-- A set of names, in ascending order. -/
abbrev NameSet := SortedMap String Unit

/-- The set of the names in a list. -/
def NameSet.ofNames (names : List String) : NameSet := SortedMap.ofList (names.map fun n => (n, ()))

/-- What every node carries. -/
structure Annotations where
  optional : Bool := false
  attributes : Options := []
  constraints : Options := []

/-- An object: its properties in order, the declared set of required names if there is one, and
whether undeclared properties are welcome. -/
structure ObjectShape (δ : Type) where
  properties : List (String × δ)
  required : Option NameSet := none
  additionalProperties : Bool := true
  annotations : Annotations := {}

/-- A node of a description. -/
inductive Description where
  | scalar (kind : ScalarKind) (annotations : Annotations)
  | object (shape : ObjectShape Description)
  | array (items : Description) (annotations : Annotations)
  | dictionary (values : Description) (keyOptions : Options) (annotations : Annotations)
  | reference (target : Option Description) (collection : String) (many : Bool)
      (annotations : Annotations)

/-- A description of a whole document. -/
abbrev ObjectDescription := ObjectShape Description

namespace Description

def annotations : Description → Annotations
  | scalar _ notes => notes
  | object shape => shape.annotations
  | array _ notes => notes
  | dictionary _ _ notes => notes
  | reference _ _ _ notes => notes

def isOptional (node : Description) : Bool := node.annotations.optional

def kindName : Description → String
  | scalar .. => "scalar"
  | object _ => "object"
  | array .. => "array"
  | dictionary .. => "dictionary"
  | reference .. => "reference"

end Description

end TypedCollections
