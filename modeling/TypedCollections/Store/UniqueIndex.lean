import TypedCollections.Error
import TypedCollections.Store.Tree
/-!
# The unique index

The index says which document owns a value of a unique field. Its keys hold the collection, the
field and the value's text, separated by zero octets; its values are identifiers. A document takes
over its keys in three steps: all of them are checked, those it no longer needs are released, and
then each is claimed.
-/

namespace TypedCollections

/-- A value of a unique field of a collection. -/
structure UniqueKey where
  collection : String
  field : String
  value : String
deriving DecidableEq

/-- The key in the index. -/
def UniqueKey.octets (key : UniqueKey) : List UInt8 :=
  Utf8.encode key.collection ++ 0 :: (Utf8.encode key.field ++ 0 :: Utf8.encode key.value)

/-- Which documents own which unique values. -/
structure UniqueIndex where
  tree : Tree

namespace UniqueIndex

/-- An index without owners. -/
def empty : UniqueIndex := ⟨.empty⟩

def size (index : UniqueIndex) : Nat := index.tree.size

/-- The owner of a value. An entry that is no identifier owns nothing. -/
def owner? (index : UniqueIndex) (key : UniqueKey) : Option ObjectId :=
  (index.tree.find? key.octets).bind ObjectId.ofOctets?

/-- Fails if another document owns the value. -/
def check (index : UniqueIndex) (key : UniqueKey) (id : ObjectId) : Except Error Unit :=
  match index.owner? key with
  | some owner =>
      if owner = id then .ok ()
      else .error (.uniqueViolation key.collection key.field key.value)
  | none => .ok ()

/-- Makes a document the owner of a value that no other document owns. -/
def claim (index : UniqueIndex) (key : UniqueKey) (id : ObjectId) : Except Error UniqueIndex :=
  match index.check key id with
  | .error error => .error error
  | .ok () => .ok ⟨index.tree.insert key.octets id.octets⟩

/-- Releases a value if the document owns it. -/
def release (index : UniqueIndex) (key : UniqueKey) (id : ObjectId) : UniqueIndex :=
  if index.owner? key = some id then ⟨index.tree.erase key.octets⟩ else index

/-- A value can be claimed exactly if no other document owns it. -/
theorem check_eq_ok_iff (index : UniqueIndex) (key : UniqueKey) (id : ObjectId) :
    index.check key id = .ok () ↔ ∀ owner, index.owner? key = some owner → owner = id := by
  unfold check
  cases h : index.owner? key with
  | none => simp
  | some owner => by_cases ho : owner = id <;> simp [ho]

theorem tree_find?_release (index : UniqueIndex) (key : UniqueKey) (id : ObjectId)
    (octets : List UInt8) :
    (index.release key id).tree.find? octets =
      if index.owner? key = some id ∧ key.octets = octets then none
      else index.tree.find? octets := by
  unfold release
  by_cases h : index.owner? key = some id
  · simp [h, SortedMap.find?_erase]
  · simp [h]

def checkEach (index : UniqueIndex) (id : ObjectId) : List UniqueKey → Except Error Unit
  | [] => .ok ()
  | key :: rest =>
      match index.check key id with
      | .error error => .error error
      | .ok () => index.checkEach id rest

def releaseEach (index : UniqueIndex) (id : ObjectId) (keys : List UniqueKey) : UniqueIndex :=
  keys.foldl (fun index key => index.release key id) index

/-- Claims one key after the other, up to the first that is owned by another document. -/
def claimEach (index : UniqueIndex) (id : ObjectId) :
    List UniqueKey → Except Error Unit × UniqueIndex
  | [] => (.ok (), index)
  | key :: rest =>
      match index.claim key id with
      | .error error => (.error error, index)
      | .ok claimed => claimed.claimEach id rest

/-- Makes a document the owner of exactly the keys it needs now, where it owned others before. -/
def exchange (index : UniqueIndex) (id : ObjectId) (before now : List UniqueKey) :
    Except Error Unit × UniqueIndex :=
  match index.checkEach id now with
  | .error error => (.error error, index)
  | .ok () => (index.releaseEach id (before.filter (· ∉ now))).claimEach id now

end UniqueIndex

end TypedCollections
