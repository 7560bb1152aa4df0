import TypedCollections.Description.Basic
import TypedCollections.Value
/-!
# The vocabulary of descriptions

Functions that build descriptions. An entity is an object with an identifier and the two time
stamps, whose defaults are the clock's reading when the description is built.
-/

namespace TypedCollections

/-- The field that holds the time of creation. -/
def createdAt : String := "createdAt"

/-- The field that holds the time of the last change. -/
def updatedAt : String := "updatedAt"

/-- The pattern of an identifier's text. -/
def objectIdPattern : String := "^[a-f0-9]\x7b24\x7d$"

namespace Annotations

def markOptional (notes : Annotations) : Annotations := { notes with optional := true }

def setAttribute (key : String) (value : Json) (notes : Annotations) : Annotations :=
  { notes with attributes := Entries.write notes.attributes key value }

/-- Adds constraints; later ones win. -/
def addConstraints (more : Options) (notes : Annotations) : Annotations :=
  { notes with constraints := Entries.writeAll notes.constraints more }

end Annotations

namespace ObjectShape

variable {δ : Type}

def annotate (f : Annotations → Annotations) (shape : ObjectShape δ) : ObjectShape δ :=
  { shape with annotations := f shape.annotations }

def declare (shape : ObjectShape δ) (name : String) (node : δ) : ObjectShape δ :=
  { shape with properties := Entries.write shape.properties name node }

def requireNames (shape : ObjectShape δ) (names : List String) : ObjectShape δ :=
  { shape with required := some (NameSet.ofNames names) }

/-- Refuses undeclared properties. -/
def closed (shape : ObjectShape δ) : ObjectShape δ := { shape with additionalProperties := false }

/-- Welcomes undeclared properties. -/
def opened (shape : ObjectShape δ) : ObjectShape δ := { shape with additionalProperties := true }

def property? (shape : ObjectShape δ) (name : String) : Option δ :=
  Entries.find? shape.properties name

end ObjectShape

namespace Description

def annotate (f : Annotations → Annotations) : Description → Description
  | scalar kind notes => scalar kind (f notes)
  | object shape => object (shape.annotate f)
  | array items notes => array items (f notes)
  | dictionary values keyOptions notes => dictionary values keyOptions (f notes)
  | reference target collection many notes => reference target collection many (f notes)

def text : Description := scalar .string {}

def number : Description := scalar .number {}

def boolean : Description := scalar .boolean {}

/-- The text of an identifier. -/
def objectId : Description :=
  text.annotate (.setAttribute "pattern" (.string objectIdPattern))

/-- A sequence of items. -/
def arrayOf (items : Description) : Description := array items {}

/-- A map from free keys to values. -/
def dictionaryOf (values : Description) (keyOptions : Options := []) : Description :=
  dictionary values keyOptions {}

/-- A reference to one document of a collection. -/
def referenceTo (target : Option Description) (collection : String) : Description :=
  reference target collection false {}

/-- References to any number of documents of a collection. -/
def referencesTo (target : Option Description) (collection : String) : Description :=
  reference target collection true {}

end Description

namespace ObjectShape

/-- An object with the given properties. -/
def ofProperties (properties : List (String × Description)) : ObjectDescription :=
  { properties := Entries.ofList properties }

/-- An object that refuses undeclared properties. -/
def strict (properties : List (String × Description)) : ObjectDescription :=
  (ofProperties properties).closed

/-- A strict object with options: a truth value under `additionalProperties` decides whether
undeclared properties are welcome, everything else is an attribute. -/
def strictWith (properties : List (String × Description)) (options : Options) :
    ObjectDescription :=
  options.foldl (fun shape option =>
      match option with
      | ("additionalProperties", .bool welcome) => { shape with additionalProperties := welcome }
      | (key, value) => shape.annotate (.setAttribute key value))
    (strict properties)

/-- Adds the identifier and the time stamps, which default to the clock's reading. -/
def toEntity (now : Nat) (shape : ObjectDescription) : ObjectDescription :=
  let stamp := Description.number.annotate (.setAttribute "default" (.ofNat now))
  ((shape.declare idField .objectId).declare createdAt stamp).declare updatedAt stamp

end ObjectShape

end TypedCollections
