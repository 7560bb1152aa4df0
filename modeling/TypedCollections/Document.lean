import TypedCollections.Json.Printer
import TypedCollections.Json.Reader
import TypedCollections.Utf8
import TypedCollections.Value
/-!
# Documents

A document is an identifier with named fields, none of which is called `_id`. A field that refers to
other documents can be expanded in place: the document then remembers the raw value the field held,
so that its stored form is unchanged. Setting or removing a field forgets its raw value.
-/

namespace TypedCollections

/-- A document: its identifier, its fields in written order, and the raw values of its expanded
fields in ascending order of names. -/
structure Document where
  id : ObjectId
  fields : List (String × Value)
  populated : List (String × Value)

namespace Document

/-- The document as a value in place of its identifier. -/
def toValue (document : Document) : Value :=
  .document document.id document.fields document.populated

/-- The document, if the value is one. -/
def ofValue? : Value → Option Document
  | .document id fields populated => some ⟨id, fields, populated⟩
  | _ => none

def empty (id : ObjectId) : Document := ⟨id, [], []⟩

def get? (document : Document) (name : String) : Option Value := Entries.find? document.fields name

/-- Sets a field and forgets what it held before an expansion. The name `_id` is ignored. -/
def set (document : Document) (name : String) (value : Value) : Document :=
  if name = idField then document
  else
    { document with
      fields := Entries.write document.fields name value
      populated := SortedMap.eraseEntry document.populated name }

/-- Sets fields one after the other. -/
def setAll (document : Document) (fields : List (String × Value)) : Document :=
  fields.foldl (fun acc field => acc.set field.1 field.2) document

/-- A document with the given fields; one named `_id` is left out. -/
def ofFields (id : ObjectId) (fields : List (String × Value)) : Document := (empty id).setAll fields

/-- Removes a field and keeps the order of the others. -/
def remove (document : Document) (name : String) : Document :=
  { document with
    fields := Entries.remove document.fields name
    populated := SortedMap.eraseEntry document.populated name }

/-- The raw value an expanded field held. -/
def populatedKeys? (document : Document) (name : String) : Option Value :=
  SortedMap.lookup document.populated name

def isPopulated (document : Document) (name : String) : Bool :=
  (document.populatedKeys? name).isSome

/-- Puts loaded documents in the place of a reference and remembers the raw value. The first raw
value is kept if the field is expanded already. -/
def populate (document : Document) (name : String) (loaded : Value) : Document :=
  { document with
    fields := Entries.write document.fields name loaded
    populated :=
      if document.isPopulated name then document.populated
      else SortedMap.insertEntry document.populated name ((document.get? name).getD .null) }

/-- The fields in stored form: expanded fields hold their raw values again. -/
def storedFields (document : Document) : List (String × Value) :=
  document.fields.map fun field => (field.1, (document.populatedKeys? field.1).getD field.2)

/-- The members of the document inside JSON: the identifier first, then the fields. -/
def toMembers (document : Document) : List (String × Json) :=
  (idField, document.id.toJson) :: Value.membersToJson document.fields

def toJson (document : Document) : Json := .object document.toMembers

/-- Why octets or a JSON tree are not a document. -/
inductive Fault where
  | malformed
  | notAnObject
  | noIdentifier
deriving DecidableEq

/-- The document of a JSON tree: an object with an identifier under `_id`. -/
def ofJson (json : Json) : Except Fault Document :=
  match json with
  | .object members =>
      match (Entries.find? members idField).map Value.ofJson with
      | some (.objectId id) => .ok (ofFields id (Value.membersOfJson members))
      | _ => .error .noIdentifier
  | _ => .error .notAnObject

def text (document : Document) : String := document.toJson.text

def toOctets (document : Document) : List UInt8 := Utf8.encode document.text

/-- Reads a document from its stored octets. -/
def ofOctets (octets : List UInt8) : Except Fault Document :=
  match Utf8.decode? octets with
  | none => .error .malformed
  | some text =>
      match Json.read text with
      | .error _ => .error .malformed
      | .ok json => ofJson json

/-- Equality of documents, as that of values. -/
instance : BEq Document := ⟨fun a b => a.toValue == b.toValue⟩

end Document

end TypedCollections
