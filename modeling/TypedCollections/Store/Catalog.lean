import TypedCollections.Error
import TypedCollections.Schema.Basic
import TypedCollections.Store.Tree
/-!
# The catalog

The catalog remembers every collection that was ever registered, and with which schema. Its entries
are kept in memory by name and written to a tree as JSON text, under the name.
-/

namespace TypedCollections

/-- What the catalog remembers of a collection. -/
structure CatalogEntry where
  name : String
  definition : Json
  expandable : List String
  timestamps : Bool
  fingerprint : String
  registeredAt : Nat

namespace CatalogEntry

/-- The entry of a schema registered at a time. -/
def ofSchema (name : String) (schema : Schema) (now : Nat) : CatalogEntry :=
  { name,
    definition := schema.fields.toJson,
    expandable := schema.expandable,
    timestamps := schema.timestamps,
    fingerprint := schema.fingerprint,
    registeredAt := now }

def toJson (entry : CatalogEntry) : Json :=
  .object
    [("name", .string entry.name), ("schema", entry.definition),
      ("expandable", .array (entry.expandable.map .string)), ("timestamps", .bool entry.timestamps),
      ("fingerprint", .string entry.fingerprint), ("registeredAt", .ofNat entry.registeredAt)]

def text (entry : CatalogEntry) : String := entry.toJson.text

/-- The entry of its parts, in the order in which they are written. -/
def ofParts? : List Json → Option CatalogEntry
  | [name, definition, expandable, timestamps, fingerprint, registeredAt] => do
      let name ← name.string?
      let expandable ← (← expandable.array?).mapM Json.string?
      let timestamps ← timestamps.bool?
      let fingerprint ← fingerprint.string?
      let registeredAt ← registeredAt.nat?
      return { name, definition, expandable, timestamps, fingerprint, registeredAt }
  | _ => none

/-- The value of a member that is given once. -/
def soleMember? (members : List (String × Json)) (name : String) : Option Json :=
  match members.filter fun member => member.1 = name with
  | [member] => some member.2
  | _ => none

/-- The names of the parts of an entry, in the order in which they are written. -/
def partNames : List String :=
  ["name", "schema", "expandable", "timestamps", "fingerprint", "registeredAt"]

/-- The entry of a JSON value that may repeat names. Its parts have to be given once each, other
members are ignored; an array of the six parts is an entry too. -/
def ofRaw? : Json → Option CatalogEntry
  | .object members =>
      (partNames.mapM (soleMember? members)).bind fun parts => ofParts? (parts.map Json.settle)
  | .array parts => ofParts? (parts.map Json.settle)
  | _ => none

/-- The entry written as octets. Members that are no parts of it are skimmed. -/
def ofOctets? (octets : List UInt8) : Option CatalogEntry :=
  (Utf8.decode? octets).bind fun text =>
    match Json.readRaw ⟨Json.nestingLimit, some partNames⟩ text with
    | .ok raw => ofRaw? raw
    | .error _ => none

end CatalogEntry

/-- The entries in memory and as they are written down. -/
structure Catalog where
  tree : Tree
  entries : SortedMap String CatalogEntry

namespace Catalog

def empty : Catalog := ⟨.empty, .empty⟩

/-- Adds the entries read from octets; of two entries of one name the later one stays. -/
def readEntries (entries : SortedMap String CatalogEntry) :
    List (List UInt8) → Except Error (SortedMap String CatalogEntry)
  | [] => .ok entries
  | octets :: rest =>
      match CatalogEntry.ofOctets? octets with
      | some entry => readEntries (entries.insert entry.name entry) rest
      | none => .error (.unreadable .malformed)

/-- The catalog of a tree. Every entry of the tree has to be readable. -/
def ofTree (tree : Tree) : Except Error Catalog :=
  (readEntries .empty tree.values).map fun entries => ⟨tree, entries⟩

/-- Writes an entry under its name. -/
def record (catalog : Catalog) (entry : CatalogEntry) : Catalog :=
  { tree := catalog.tree.insert (Utf8.encode entry.name) (Utf8.encode entry.text),
    entries := catalog.entries.insert entry.name entry }

def find? (catalog : Catalog) (name : String) : Option CatalogEntry := catalog.entries.find? name

theorem find?_record (catalog : Catalog) (entry : CatalogEntry) (name : String) :
    (catalog.record entry).find? name =
      if entry.name = name then some entry else catalog.find? name :=
  catalog.entries.find?_insert entry.name name entry

/-- The recorded names, ascending. -/
def names (catalog : Catalog) : List String := catalog.entries.keys

def size (catalog : Catalog) : Nat := catalog.entries.size

end Catalog

end TypedCollections
