import TypedCollections.SortedMap
/-!
# Trees

What a store writes down are trees: octets under octets, in ascending order of the keys.
-/

namespace TypedCollections

/-- Octets under octets. -/
abbrev Tree := SortedMap (List UInt8) (List UInt8)

namespace Tree

def valueSize (tree : Tree) : Nat := tree.values.foldl (fun size value => size + value.length) 0

def keySize (tree : Tree) : Nat := tree.keys.foldl (fun size key => size + key.length) 0

end Tree

end TypedCollections
