import TypedCollections.Validation.Basic
import TypedCollections.Validation.Patterns
/-!
# Checking documents

Checks the values of a document against a definition and gives the values to be stored: undeclared
fields are dropped, missing ones get their default, and identifiers given as text or as expanded
documents become identifiers. The first violation in declared order ends the check.
-/

namespace TypedCollections

/-- The option that holds the value of a missing field. -/
def defaultOption : String := "default"

namespace Validation

/-- The result of a check. -/
abbrev Check (α : Type) := Except Violated α

/-- A violation by the value itself. -/
def fail {α : Type} (violation : Violation) : Check α := .error ⟨[], violation⟩

/-- A check of a value inside another one. -/
def at? {α : Type} (step : ValueStep) (check : Check α) : Check α :=
  check.mapError (.within step)

/-- A violation unless a condition holds. -/
def ensure (condition : Bool) (violation : Violation) : Check Unit :=
  if condition then .ok () else fail violation

/-- A value of a kind that is not expected. -/
def wrongKind {α : Type} (expected : String) (value : Value) : Check α :=
  fail (.wrongKind expected value.kind)

/-- The pattern under an option, with its written form. -/
def patternOf? (patterns : Patterns) (options : Options) (key : String) :
    Option (String × Pattern) := do
  let source ← (Entries.find? options key).bind Json.string?
  let pattern ← Entries.find? patterns source
  return (source, pattern)

def natOption? (options : Options) (key : String) : Option Nat :=
  (Entries.find? options key).bind Json.nat?

def numberOption? (options : Options) (key : String) : Option Number :=
  (Entries.find? options key).bind Json.number?

/-- The allowed texts, if the options list them. -/
def allowed? (options : Options) : Option (List Json) :=
  (Entries.find? options "enum").bind Json.array?

/-- Checks a text: its pattern, its length in characters, and whether it is allowed. -/
def checkText (patterns : Patterns) (options : Options) (text : String) : Check Unit := do
  if let some (source, pattern) := patternOf? patterns options matchOption then
    ensure (pattern.isMatch text) (.mismatch source)
  if let some least := natOption? options "minlength" then
    ensure (least ≤ text.length) (.tooShort least)
  if let some most := natOption? options "maxlength" then
    ensure (text.length ≤ most) (.tooLong most)
  if let some texts := allowed? options then
    ensure (texts.any fun json => json.string? = some text) .notAllowed

def checkNumber (options : Options) (number : Number) : Check Unit := do
  if let some least := numberOption? options "min" then
    ensure (!number.below least) (.below least)
  if let some most := numberOption? options "max" then
    ensure (!most.below number) (.above most)

def checkScalar (patterns : Patterns) (kind : ScalarKind) (options : Options) (value : Value) :
    Check Value :=
  match kind, value with
  | .string, .string text => (checkText patterns options text).map fun _ => value
  | .number, .number number => (checkNumber options number).map fun _ => value
  | .boolean, .bool _ => .ok value
  | _, _ => wrongKind kind.typeName value

/-- The identifier that a value stands for. -/
def castObjectId (value : Value) : Check Value :=
  match value with
  | .objectId _ => .ok value
  | .string text =>
      match ObjectId.ofHex? text with
      | some id => .ok (.objectId id)
      | none => fail (.notAnIdentifier text)
  | .document id _ _ => .ok (.objectId id)
  | _ => wrongKind "ObjectId" value

/-- A key that only identifiers use. -/
def reservedKey {α : Type} (key : String) : Check α := at? (.name key) (fail .reservedKey)

/-- Checks the items of an array, in order. -/
def checkItems (check : Value → Check Value) : Nat → List Value → Check (List Value)
  | _, [] => .ok []
  | index, item :: rest =>
      match at? (.index index) (check item) with
      | .error violated => .error violated
      | .ok item => (checkItems check (index + 1) rest).map (item :: ·)

/-- Checks a value of a map. -/
def checkEntry (required : Bool) (check : Value → Check Value) (value : Value) : Check Value :=
  if value.isNull then
    if required then fail .valueRequired else .ok value
  else check value

/-- Checks a key of a map. -/
def checkKey (pattern : Option (String × Pattern)) (key : String) : Check Unit :=
  if key.startsWith "$" then fail .reservedKey
  else
    match pattern with
    | some (source, pattern) => ensure (pattern.isMatch key) (.keyMismatch source)
    | none => .ok ()

/-- Checks the entries of a map, in order. -/
def checkEntries (pattern : Option (String × Pattern)) (required : Bool)
    (check : Value → Check Value) : List (String × Value) → Check (List (String × Value))
  | [] => .ok []
  | (key, value) :: rest =>
      match at? (.name key) ((checkKey pattern key).bind fun _ => checkEntry required check value)
        with
      | .error violated => .error violated
      | .ok value => (checkEntries pattern required check rest).map ((key, value) :: ·)

/-- The value that a declared field is to be checked with: the value given or, if that is missing or
null, the default. -/
def slotValue? (name : String) (options : Options) (values : List (String × Value)) :
    Option Value :=
  match Entries.find? values name with
  | none | some .null => (Entries.find? options defaultOption).map Value.ofJson
  | some value => some value

/-- Checks a declared field among the values. -/
def checkSlot (name : String) (required : Bool) (options : Options) (check : Value → Check Value)
    (values : List (String × Value)) : Check (List (String × Value)) :=
  at? (.name name) <|
    match slotValue? name options values with
    | some value => (check value).map (Entries.write values name)
    | none => if required then fail .required else .ok values

/-- The values of declared fields. -/
def keepDeclared {α : Type} (fields : List (String × α)) (values : List (String × Value)) :
    List (String × Value) :=
  values.filter fun value => Entries.has fields value.1

mutual

/-- Checks a value against a type. The options are those of the field. -/
def checkType (patterns : Patterns) : FieldType → Options → Value → Check Value
  | .scalar kind, options, value => checkScalar patterns kind options value
  | .objectId, _, value => castObjectId value
  | .nested fields, _, value =>
      match value with
      | .object members =>
          (checkFields patterns fields (keepDeclared fields members)).map .object
      | .objectId _ => reservedKey oidKey
      | _ => wrongKind "object" value
  | .array element, options, value =>
      match value with
      | .array items => (checkItems (checkType patterns element options) 0 items).map .array
      | _ => wrongKind "array" value
  | .map values, options, value =>
      match value with
      | .object members =>
          (checkEntries (patternOf? patterns options keyMatchOption) values.required
            (checkField patterns values) members).map .object
      | .objectId _ => reservedKey oidKey
      | _ => wrongKind "map" value

/-- Checks a value against a field. -/
def checkField (patterns : Patterns) : FieldOf FieldType → Value → Check Value
  | ⟨type, _, _, options⟩, value => checkType patterns type options value

/-- Checks declared fields among values, in declared order. -/
def checkFields (patterns : Patterns) :
    List (String × FieldOf FieldType) → List (String × Value) → Check (List (String × Value))
  | [], values => .ok values
  | (name, field) :: rest, values =>
      match checkSlot name field.required field.options (checkField patterns field) values with
      | .error violated => .error violated
      | .ok values => checkFields patterns rest values

end

/-- Checks the values of a document against a definition. -/
def validate (patterns : Patterns) (fields : Fields) (values : List (String × Value)) :
    Check (List (String × Value)) :=
  checkFields patterns fields (keepDeclared fields values)

end Validation

end TypedCollections
