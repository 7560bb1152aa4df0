import TypedCollections.Definition.Compiler
import TypedCollections.Pattern.Automaton
import TypedCollections.Pattern.Reader
/-!
# The patterns of a definition

Before documents are checked against a definition, every pattern among its options is read once: the
patterns of texts and of keys of every field at any depth.
-/

namespace TypedCollections

/-- Patterns by their written form. -/
abbrev Patterns := List (String × Pattern)

/-- Why a collection cannot be registered with a schema. -/
inductive SchemaFault where
  | emptyName
  | notText (key : String)
  | badPattern (source : String) (fault : Pattern.Fault)
deriving DecidableEq

def SchemaFault.message : SchemaFault → String
  | .emptyName => "collection name is empty"
  | .notText key => "option '" ++ key ++ "' must be a string"
  | .badPattern source _ => "bad pattern '" ++ source ++ "'"

namespace Patterns

/-- Adds the pattern under an option, if there is one. -/
def addOption (options : Options) (key : String) (patterns : Patterns) :
    Except SchemaFault Patterns :=
  match Entries.find? options key with
  | none => .ok patterns
  | some (.string source) =>
      if Entries.has patterns source then .ok patterns
      else
        match Pattern.read source with
        | .ok pattern => .ok (Entries.write patterns source pattern)
        | .error fault => .error (.badPattern source fault)
  | some _ => .error (.notText key)

mutual

/-- Adds the patterns inside a type. -/
def addType : FieldType → Patterns → Except SchemaFault Patterns
  | .scalar _, patterns => .ok patterns
  | .objectId, patterns => .ok patterns
  | .nested fields, patterns => addFields fields patterns
  | .array element, patterns => addType element patterns
  | .map values, patterns => addField values patterns

/-- Adds the patterns of a field and inside its type. -/
def addField : FieldOf FieldType → Patterns → Except SchemaFault Patterns
  | ⟨type, _, _, options⟩, patterns =>
      match (addOption options matchOption patterns).bind (addOption options keyMatchOption) with
      | .error fault => .error fault
      | .ok patterns => addType type patterns

/-- Adds the patterns of fields, in order. -/
def addFields : List (String × FieldOf FieldType) → Patterns → Except SchemaFault Patterns
  | [], patterns => .ok patterns
  | (_, field) :: rest, patterns =>
      match addField field patterns with
      | .error fault => .error fault
      | .ok patterns => addFields rest patterns

end

/-- The patterns of a definition. -/
def ofFields (fields : Fields) : Except SchemaFault Patterns := addFields fields []

end Patterns

end TypedCollections
