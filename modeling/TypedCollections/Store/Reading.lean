import TypedCollections.Store.Basic
/-!
# Reading documents

Documents are found by their identifier. A field that refers to another collection can be expanded:
the documents take the place of their identifiers, and the document remembers the identifiers. A
reference to a document that is not there becomes null, or is left out of an array.
-/

namespace TypedCollections

namespace Store

/-- Reads the octets of a document. -/
def readDocument (octets : List UInt8) : Except Error Document :=
  match Document.ofOctets octets with
  | .ok document => .ok document
  | .error fault => .error (.unreadable fault)

def find (store : Store) (collection : Collection) (id : ObjectId) :
    Except Error (Option Document) :=
  match (store.tree collection.name).find? id.octets with
  | none => .ok none
  | some octets => (readDocument octets).map some

/-- Reads one value after the other. -/
def readEach : List (List UInt8) → Except Error (List Document)
  | [] => .ok []
  | octets :: rest =>
      match readDocument octets with
      | .error error => .error error
      | .ok document => (readEach rest).map (document :: ·)

/-- Every document, in ascending order of the identifiers. -/
def findAll (store : Store) (collection : Collection) : Except Error (List Document) :=
  readEach (store.tree collection.name).values

def count (store : Store) (collection : Collection) : Nat := (store.tree collection.name).size

/-- The documents in the place of the items of an array of references. Items that are neither
identifiers nor documents are left out. -/
def loadItems (store : Store) (target : Collection) : List Value → Except Error (List Value)
  | [] => .ok []
  | .objectId id :: rest =>
      match store.find target id with
      | .error error => .error error
      | .ok (some found) => (store.loadItems target rest).map (found.toValue :: ·)
      | .ok none => store.loadItems target rest
  | .document id fields populated :: rest =>
      (store.loadItems target rest).map (.document id fields populated :: ·)
  | _ :: rest => store.loadItems target rest

/-- What takes the place of a reference, if anything does. -/
def loadReference (store : Store) (collection target : Collection) (field : String) :
    Option Value → Except Error (Option Value)
  | none | some .null | some (.document ..) => .ok none
  | some (.objectId id) =>
      (store.find target id).map fun found => some ((found.map Document.toValue).getD .null)
  | some (.array items) => (store.loadItems target items).map fun loaded => some (.array loaded)
  | some other =>
      .error (.validation collection.name ⟨[.name field], .notExpandable other.kind⟩)

/-- Expands a field of a document. A field that is expanded already stays as it is. -/
def populate (store : Store) (collection : Collection) (document : Document) (field : String) :
    Except Error Document :=
  match collection.reference? field with
  | none => .error (.validation collection.name ⟨[.name field], .notAReference⟩)
  | some targetName =>
      match store.collection? targetName with
      | none => .error (.unknownCollection targetName)
      | some target =>
          if document.isPopulated field then .ok document
          else
            (store.loadReference collection target field (document.get? field)).map fun loaded? =>
              match loaded? with
              | some loaded => document.populate field loaded
              | none => document

/-- Expands one field after the other. -/
def populateEach (store : Store) (collection : Collection) (document : Document) :
    List String → Except Error Document
  | [] => .ok document
  | field :: rest =>
      match store.populate collection document field with
      | .error error => .error error
      | .ok document => store.populateEach collection document rest

/-- The document of an identifier with expanded fields. -/
def findExpanded (store : Store) (collection : Collection) (id : ObjectId) (fields : List String) :
    Except Error (Option Document) :=
  match store.find collection id with
  | .error error => .error error
  | .ok none => .ok none
  | .ok (some document) => (store.populateEach collection document fields).map some

end Store

end TypedCollections
