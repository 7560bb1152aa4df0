import TypedCollections.SortedMap
import TypedCollections.Json.Basic
import TypedCollections.ObjectId
/-!
# Field values

What a field of a stored document holds. Inside JSON an identifier is written as an object whose
only member `$oid` is its hexadecimal text; reading takes exactly these objects back for
identifiers. A document that was loaded in place of its identifier is a value as well.
-/

namespace TypedCollections

/-- A field value. A document carries its fields and, for each field that was expanded, the raw
value the field held before, in ascending order of names. -/
inductive Value where
  | null
  | bool (value : Bool)
  | number (value : Number)
  | string (value : String)
  | objectId (value : ObjectId)
  | array (items : List Value)
  | object (members : List (String × Value))
  | document (id : ObjectId) (fields : List (String × Value)) (populated : List (String × Value))
deriving Inhabited

inductive Kind where
  | null
  | boolean
  | number
  | string
  | objectId
  | array
  | object
  | document
deriving DecidableEq

def Kind.name : Kind → String
  | .null => "null"
  | .boolean => "boolean"
  | .number => "number"
  | .string => "string"
  | .objectId => "objectId"
  | .array => "array"
  | .object => "object"
  | .document => "document"

/-- The member that marks an identifier. -/
def oidKey : String := "$oid"

/-- The member of a document that holds its identifier. -/
def idField : String := "_id"

/-- An identifier inside JSON. -/
def ObjectId.toJson (id : ObjectId) : Json := .object [(oidKey, .string id.hex)]

/-- The identifier that the members of a JSON object stand for, if they do. -/
def ObjectId.ofMembers? : List (String × Json) → Option ObjectId
  | [(name, .string text)] => if name = oidKey then ObjectId.ofHex? text else none
  | _ => none

/-- Whole numbers below this magnitude are written without a fraction. -/
def wholeLimit : Nat := 9000000000000000

/-- A number inside JSON: an integer if it is whole and below `wholeLimit`, null if it is not
finite. -/
def Number.toJson : Number → Json
  | .finite value =>
      if value.isWhole ∧ value.units < wholeLimit * Number.one then
        .number (.integer value.truncate)
      else .number (.binary value)
  | _ => .null

namespace Value

def kind : Value → Kind
  | .null => .null
  | .bool _ => .boolean
  | .number _ => .number
  | .string _ => .string
  | .objectId _ => .objectId
  | .array _ => .array
  | .object _ => .object
  | .document .. => .document

def isNull : Value → Bool
  | .null => true
  | _ => false

def bool? : Value → Option Bool
  | .bool value => some value
  | _ => none

def number? : Value → Option Number
  | .number value => some value
  | _ => none

def string? : Value → Option String
  | .string value => some value
  | _ => none

def objectId? : Value → Option ObjectId
  | .objectId id => some id
  | _ => none

def array? : Value → Option (List Value)
  | .array items => some items
  | _ => none

def object? : Value → Option (List (String × Value))
  | .object members => some members
  | _ => none

mutual

def toJson : Value → Json
  | .null => .null
  | .bool value => .bool value
  | .number value => value.toJson
  | .string value => .string value
  | .objectId value => value.toJson
  | .array items => .array (listToJson items)
  | .object members => .object (membersToJson members)
  | .document id fields _ => .object ((idField, id.toJson) :: membersToJson fields)

def listToJson : List Value → List Json
  | [] => []
  | item :: rest => toJson item :: listToJson rest

def membersToJson : List (String × Value) → List (String × Json)
  | [] => []
  | (name, value) :: rest => (name, toJson value) :: membersToJson rest

end

mutual

/-- The value of a JSON tree. -/
def ofJson : Json → Value
  | .null => .null
  | .bool value => .bool value
  | .number value => .number value.toNumber
  | .string value => .string value
  | .array items => .array (listOfJson items)
  | .object members =>
      match ObjectId.ofMembers? members with
      | some id => .objectId id
      | none => .object (membersOfJson members)

def listOfJson : List Json → List Value
  | [] => []
  | item :: rest => ofJson item :: listOfJson rest

def membersOfJson : List (String × Json) → List (String × Value)
  | [] => []
  | (name, value) :: rest => (name, ofJson value) :: membersOfJson rest

end

mutual

/-- Equality of values: numbers compare as numbers, and the order of members does not count. -/
def same : Value → Value → Bool
  | .null, .null => true
  | .bool a, .bool b => a == b
  | .number a, .number b => a.equal b
  | .string a, .string b => a == b
  | .objectId a, .objectId b => a == b
  | .array items, .array others => sameList items others
  | .object members, .object others =>
      members.length == others.length && sameMembers members others
  | .document id fields populated, .document id' fields' populated' =>
      id == id' && fields.length == fields'.length && sameMembers fields fields' &&
        populated.length == populated'.length && sameMembers populated populated'
  | _, _ => false

/-- Equality of lists of values, item by item. -/
def sameList : List Value → List Value → Bool
  | [], [] => true
  | a :: rest, b :: others => same a b && sameList rest others
  | _, _ => false

/-- Whether each member stands with an equal value among the others. -/
def sameMembers : List (String × Value) → List (String × Value) → Bool
  | [], _ => true
  | (name, value) :: rest, others =>
      (match Entries.find? others name with
        | some other => same value other
        | none => false) && sameMembers rest others

end

instance : BEq Value := ⟨same⟩

end Value

end TypedCollections
