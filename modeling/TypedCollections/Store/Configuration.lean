/-!
# Configuration

Where a store keeps its trees and how it is called. The size of its cache, how often it writes, and
whether it compresses what it writes change no answer.
-/

namespace TypedCollections

/-- How a store is set up. -/
structure Configuration where
  path : String := "./docschema_data"
  database : String := "docschema"
  cacheCapacity : Nat := 256 * 1024 * 1024
  flushEvery : Option Nat := some 1000
  compression : Bool := true
  temporary : Bool := false
deriving DecidableEq

namespace Configuration

/-- The configuration of a store that outlives the program, at a path. -/
def atPath (path : String) : Configuration := { path }

/-- The configuration of a store that is gone when it is closed. -/
def inMemory : Configuration := { path := "", temporary := true }

end Configuration

end TypedCollections
