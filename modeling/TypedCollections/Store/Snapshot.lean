import TypedCollections.Json.Printer
import TypedCollections.Json.Reader
import TypedCollections.Store.Basic
/-!
# Snapshots

An archive as one text, for keeping it in a file: a JSON object of named trees, in which octets are
written as hexadecimal characters. The trees of documents are named after their collections.
-/

namespace TypedCollections

namespace Tree

/-- Octets as hexadecimal characters. -/
def hexText (octets : List UInt8) : String := String.ofList (octets.flatMap ObjectId.octetChars)

/-- The octets of hexadecimal characters. -/
def ofHexText? (text : String) : Option (List UInt8) := ObjectId.octetsOfChars? text.toList

def toJson (tree : Tree) : Json :=
  .object (tree.entries.map fun entry => (hexText entry.1, .string (hexText entry.2)))

def ofJson? (json : Json) : Option Tree := do
  let entries ← (← json.object?).mapM fun member => do
    return (← ofHexText? member.1, ← ofHexText? (← member.2.string?))
  return SortedMap.ofList entries

end Tree

namespace Archive

/-- The name of the tree of unique values. -/
def uniqueTree : String := "index:unique"

/-- The name of the tree of the catalog. -/
def catalogTree : String := "catalog:collections"

/-- What the names of trees of documents start with. -/
def documentsMark : String := "collection:"

/-- Changes the tree of a name. -/
def modifyTree? (archive : Archive) (name : String) (change : Tree → Tree) : Option Archive :=
  if name = uniqueTree then some { archive with unique := change archive.unique }
  else if name = catalogTree then some { archive with catalog := change archive.catalog }
  else if name.startsWith documentsMark then
    let collection := String.ofList (name.toList.drop documentsMark.length)
    let tree := change ((archive.documents.find? collection).getD .empty)
    some { archive with documents := archive.documents.insert collection tree }
  else none

def toJson (archive : Archive) : Json :=
  .object
    ((uniqueTree, Tree.toJson archive.unique) :: (catalogTree, Tree.toJson archive.catalog) ::
      archive.documents.entries.map fun entry =>
        (documentsMark ++ entry.1, Tree.toJson entry.2))

def ofJson? (json : Json) : Option Archive := do
  (← json.object?).foldlM (fun archive member => do
    let tree ← Tree.ofJson? member.2
    archive.modifyTree? member.1 fun _ => tree) Archive.empty

def text (archive : Archive) : String := archive.toJson.text

def ofText? (text : String) : Option Archive :=
  match Json.read text with
  | .ok json => ofJson? json
  | .error _ => none

end Archive

end TypedCollections
