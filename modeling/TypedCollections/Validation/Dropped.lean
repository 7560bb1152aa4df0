import TypedCollections.Validation.Check
/-!
# Dropped fields

The places of the undeclared fields that a check drops, in the order in which it meets them. A check
that ends with a violation has dropped those before it.
-/

namespace TypedCollections

namespace Validation

/-- Places inside a value, seen from outside it. -/
def inside (step : ValueStep) (places : List Place) : List Place := places.map (step :: ·)

/-- The places of undeclared members at the top of an object. -/
def undeclared {α : Type} (fields : List (String × α)) (members : List (String × Value)) :
    List Place :=
  (members.filter fun member => !Entries.has fields member.1).map fun member => [.name member.1]

/-- What is dropped inside the items of an array, up to the first violation. -/
def droppedItems (check : Value → Check Value) (dropped : Value → List Place) :
    Nat → List Value → List Place
  | _, [] => []
  | index, item :: rest =>
      inside (.index index) (dropped item) ++
        match check item with
        | .error _ => []
        | .ok _ => droppedItems check dropped (index + 1) rest

/-- What is dropped inside the entries of a map, up to the first violation. -/
def droppedEntries (pattern : Option (String × Pattern)) (required : Bool)
    (check : Value → Check Value) (dropped : Value → List Place) :
    List (String × Value) → List Place
  | [] => []
  | (key, value) :: rest =>
      match checkKey pattern key with
      | .error _ => []
      | .ok _ =>
          (if value.isNull then [] else inside (.name key) (dropped value)) ++
            match checkEntry required check value with
            | .error _ => []
            | .ok _ => droppedEntries pattern required check dropped rest

mutual

/-- What is dropped inside a value of a type. -/
def droppedType (patterns : Patterns) : FieldType → Options → Value → List Place
  | .scalar _, _, _ => []
  | .objectId, _, _ => []
  | .nested fields, _, value =>
      match value with
      | .object members =>
          undeclared fields members
            ++ droppedFields patterns fields (keepDeclared fields members)
      | _ => []
  | .array element, options, value =>
      match value with
      | .array items =>
          droppedItems (checkType patterns element options) (droppedType patterns element options)
            0 items
      | _ => []
  | .map values, options, value =>
      match value with
      | .object members =>
          droppedEntries (patternOf? patterns options keyMatchOption) values.required
            (checkField patterns values) (droppedField patterns values) members
      | _ => []

/-- What is dropped inside a value of a field. -/
def droppedField (patterns : Patterns) : FieldOf FieldType → Value → List Place
  | ⟨type, _, _, options⟩, value => droppedType patterns type options value

/-- What is dropped inside declared fields, up to the first violation. -/
def droppedFields (patterns : Patterns) :
    List (String × FieldOf FieldType) → List (String × Value) → List Place
  | [], _ => []
  | (name, field) :: rest, values =>
      (match slotValue? name field.options values with
        | some value => inside (.name name) (droppedField patterns field value)
        | none => []) ++
        match checkSlot name field.required field.options (checkField patterns field) values with
        | .error _ => []
        | .ok values => droppedFields patterns rest values

end

/-- The places of the fields that the check of a document drops. -/
def dropped (patterns : Patterns) (fields : Fields) (values : List (String × Value)) :
    List Place :=
  undeclared fields values ++ droppedFields patterns fields (keepDeclared fields values)

end Validation

end TypedCollections
