import TypedCollections.Store.Basic
/-!
# Statistics

How many documents a collection holds and how many octets they take. The status of a store lists
every collection that the catalog or the session knows, in ascending order of the names.
-/

namespace TypedCollections

/-- The size of a collection. -/
structure Statistics where
  name : String
  qualifiedName : String
  count : Nat
  size : Nat
  storageSize : Nat
deriving DecidableEq

namespace Statistics

/-- Measures the documents of a collection. -/
def measure (database name : String) (tree : Tree) : Statistics :=
  { name,
    qualifiedName := database ++ "." ++ name,
    count := tree.size,
    size := tree.valueSize,
    storageSize := tree.keySize + tree.valueSize }

def toJson (statistics : Statistics) : Json :=
  .object
    [("name", .string statistics.name), ("namespace", .string statistics.qualifiedName),
      ("count", .ofNat statistics.count), ("size", .ofNat statistics.size),
      ("storageSize", .ofNat statistics.storageSize)]

end Statistics

/-- The state of a store and the sizes of its collections. -/
structure Status where
  recovered : Bool
  database : String
  collections : List Statistics
deriving DecidableEq

namespace Status

def collection? (status : Status) (name : String) : Option Statistics :=
  status.collections.find? (·.name = name)

/-- The number of documents of all collections. -/
def total (status : Status) : Nat :=
  status.collections.foldl (fun total statistics => total + statistics.count) 0

def toJson (status : Status) : Json :=
  .object
    [("state", .string (if status.recovered then "recovered" else "connected")),
      ("database", .string status.database),
      ("collections", .array (status.collections.map Statistics.toJson))]

end Status

namespace Store

def statistics (store : Store) (name : String) : Statistics :=
  .measure store.database name (store.tree name)

/-- The names of all collections of this session and of earlier ones, ascending. -/
def knownNames (store : Store) : NameSet :=
  NameSet.ofNames (store.catalog.names ++ store.collectionNames)

def status (store : Store) : Status :=
  { recovered := store.recovered,
    database := store.database,
    collections := store.knownNames.keys.map store.statistics }

end Store

end TypedCollections
