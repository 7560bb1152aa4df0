import TypedCollections.Definition.Basic
import TypedCollections.Description.Vocabulary
import TypedCollections.Text.Blank
/-!
# Compiling descriptions

Compiling a description walks its nodes in declared order. Identifiers are left out at every level,
because the store supplies them. A node that the definition cannot express is a fault, reported with
the place of the node. The options of a field are drawn from the annotations of its node and, for an
array, of the items inside it: the constraints before the attributes, and the outer before the
inner.
-/

namespace TypedCollections

/-- One step from a node to a node inside it. -/
inductive DescriptionStep where
  | property (name : String)
  | element
  | value
deriving DecidableEq

/-- Where a node stands, from the outermost object on. -/
abbrev DescriptionPlace := List DescriptionStep

/-- The text of a place: property names are joined by dots, an element adds `[]` and a value of a
dictionary adds a pair of braces. -/
def DescriptionPlace.text (place : DescriptionPlace) : String :=
  place.foldl (fun before step =>
      match step with
      | .property name => if before.isEmpty then name else before ++ "." ++ name
      | .element => before ++ "[]"
      | .value => before ++ "\x7b\x7d") ""

/-- What a definition cannot express. -/
inductive CompileFault where
  | emptyReferenceTarget
  | emptyFieldName
  | reservedOption (key : String)
  | nestedReference
deriving DecidableEq

/-- A fault and the place of the node. -/
structure CompileError where
  place : DescriptionPlace
  fault : CompileFault
deriving DecidableEq

def CompileFault.message : CompileFault → String
  | .emptyReferenceTarget => "reference has an empty target collection"
  | .emptyFieldName => "property name is empty"
  | .reservedOption key => "option '" ++ key ++ "' is reserved by the compiler"
  | .nestedReference => "reference used as an array element; use a reference array instead"

def CompileError.message (error : CompileError) : String :=
  error.fault.message ++ " (at '" ++ error.place.text ++ "')"

/-- The same fault one step further out. -/
def CompileError.within (step : DescriptionStep) (error : CompileError) : CompileError :=
  { error with place := step :: error.place }

/-- The option that holds the pattern of texts. -/
def matchOption : String := "match"

/-- The option that holds the pattern of a map's keys. -/
def keyMatchOption : String := "keyMatch"

/-- The name under which a key is kept as an option. -/
def optionKey (key : String) : String := if key = "pattern" then matchOption else key

/-- The options that a definition writes itself. -/
def reservedOptions : List String := ["type", "required", "ref", "of"]

namespace Compiler

/-- A fault at the node itself. -/
def fail {α : Type} (fault : CompileFault) : Except CompileError α := .error ⟨[], fault⟩

/-- The annotations of a node and, through arrays, of the items inside it. -/
def chain : Description → List Annotations
  | .array items notes => notes :: chain items
  | node => [node.annotations]

/-- The pattern of keys, if the items inside all arrays are a dictionary that has one. -/
def keyPattern? : Description → Option Json
  | .array items _ => keyPattern? items
  | .dictionary _ keyOptions _ => Entries.find? keyOptions "pattern"
  | _ => none

/-- Writes entries under the names of options, unless one is reserved. -/
def addOptions (options : Options) : List (String × Json) → Except CompileError Options
  | [] => .ok options
  | (key, value) :: rest =>
      if optionKey key ∈ reservedOptions then fail (.reservedOption (optionKey key))
      else addOptions (Entries.write options (optionKey key) value) rest

/-- The options of a chain of annotations. -/
def optionsOf (notes : List Annotations) : Except CompileError Options :=
  addOptions [] (notes.flatMap fun note => note.constraints ++ note.attributes)

/-- Adds the pattern of keys to the options. -/
def addKeyPattern (options : Options) : Option Json → Options
  | none => options
  | some pattern => Entries.write options keyMatchOption pattern

/-- The field of a reference. -/
def referenceField (collection : String) (many required : Bool) (notes : Annotations) :
    Except CompileError Field := do
  if Text.isBlank collection then fail .emptyReferenceTarget
  else
    let options ← optionsOf [notes]
    return { type := if many then .array .objectId else .objectId, required,
             reference := some collection, options }

/-- The field of a node, given the type it resolves to. -/
def fieldOf (node : Description) (required : Bool) (type : Except CompileError FieldType) :
    Except CompileError Field :=
  match node with
  | .reference _ collection many notes => referenceField collection many required notes
  | _ => do
      let type ← type
      let options ← optionsOf (chain node)
      return { type, required, options := addKeyPattern options (keyPattern? node) }

/-- Whether a property must have a value: the declared set decides if there is one. -/
def isRequired (declared : Option NameSet) (name : String) (node : Description) : Bool :=
  match declared with
  | some names => names.has name
  | none => !node.isOptional

mutual

/-- The type of a node that is not a reference. -/
def resolve : Description → Except CompileError FieldType
  | .scalar kind _ => .ok (.scalar kind)
  | .object shape => (compileShape shape).map .nested
  | .array items _ => ((resolve items).mapError (.within .element)).map .array
  | .dictionary values _ _ =>
      ((fieldOf values (!values.isOptional) (resolve values)).mapError (.within .value)).map .map
  | .reference .. => fail .nestedReference

def compileShape : ObjectShape Description → Except CompileError Fields
  | ⟨properties, required, _, _⟩ => compileProperties required properties

def compileProperties (declared : Option NameSet) :
    List (String × Description) → Except CompileError Fields
  | [] => .ok []
  | (name, node) :: rest =>
      if name = idField then compileProperties declared rest
      else if Text.isBlank name then (fail .emptyFieldName).mapError (.within (.property name))
      else
        match (fieldOf node (isRequired declared name node) (resolve node)).mapError
            (.within (.property name)) with
        | .error error => .error error
        | .ok field => (compileProperties declared rest).map ((name, field) :: ·)

end

end Compiler

/-- Compiles a description of a whole document. -/
def compile (description : ObjectDescription) : Except CompileError Fields :=
  Compiler.compileShape description

end TypedCollections
