/-!
# Locations

Where a path may lead: a chain of names, from the root or from a folder at or above the working
directory. A path is followed one segment at a time.
-/

namespace TypedCollections

/-- Where a chain of names begins. -/
inductive Origin where
  | root
  /-- So many levels above the working directory. -/
  | above (levels : Nat)
deriving DecidableEq, Hashable

/-- A location in the tree of files. -/
structure Location where
  origin : Origin
  names : List String
deriving DecidableEq, Hashable

namespace Location

/-- The working directory. -/
def here : Location := ⟨.above 0, []⟩

def child (location : Location) (name : String) : Location :=
  { location with names := location.names ++ [name] }

/-- The folder that a location lies in. The root lies in itself. -/
def parent (location : Location) : Location :=
  match location.origin, location.names with
  | .root, names => ⟨.root, names.dropLast⟩
  | .above levels, [] => ⟨.above (levels + 1), []⟩
  | .above levels, names => ⟨.above levels, names.dropLast⟩

/-- How many octets a name may have. -/
def nameLimit : Nat := 255

/-- How many octets a path may have. -/
def pathLimit : Nat := 4095

/-- Where following a path begins. -/
def start (path : String) : Location := if path.startsWith "/" then ⟨.root, []⟩ else here

/-- The segments of a path. -/
def segments (path : String) : List String := path.splitOn "/"

/-- The path of a name in the folder that a path leads to. -/
def inside (path name : String) : String :=
  if path = "" ∨ path.endsWith "/" then path ++ name else path ++ "/" ++ name

end Location

end TypedCollections
