import Mathlib.Tactic.ByContra
import TypedCollections.Proofs.Store.UniqueIndex
/-!
# Calls on the unique index

A client asks the index for owners, and claims and releases values. What it means that values are
kept apart is said by a map from keys to owners, in which a call on one key never touches another.
The index stands for such a map by the octets of the keys, so it answers as the map does on those
keys that their octets tell apart, and on no more.
-/

namespace TypedCollections

namespace UniqueIndex

/-- What a client can ask of an index. -/
inductive Call where
  | lookup (key : UniqueKey)
  | check (key : UniqueKey) (id : ObjectId)
  | claim (key : UniqueKey) (id : ObjectId)
  | release (key : UniqueKey) (id : ObjectId)

inductive Reply where
  | owner (owner? : Option ObjectId)
  | done
  | refused (error : Error)
deriving DecidableEq

def Call.key : Call → UniqueKey
  | .lookup key => key
  | .check key _ => key
  | .claim key _ => key
  | .release key _ => key

/-- Answers a call. A claim that is refused leaves the index as it is. -/
def answer (index : UniqueIndex) : Call → Reply × UniqueIndex
  | .lookup key => (.owner (index.owner? key), index)
  | .check key id =>
      match index.check key id with
      | .error error => (.refused error, index)
      | .ok () => (.done, index)
  | .claim key id =>
      match index.claim key id with
      | .error error => (.refused error, index)
      | .ok claimed => (.done, claimed)
  | .release key id => (.done, index.release key id)

/-- The replies to calls, one after the other. -/
def replies (index : UniqueIndex) : List Call → List Reply
  | [] => []
  | call :: rest => (index.answer call).1 :: (index.answer call).2.replies rest

end UniqueIndex

/-- Who owns which value, for every key by itself. -/
def Owners : Type := UniqueKey → Option ObjectId

namespace Owners

open UniqueIndex (Call Reply)

def ofIndex (index : UniqueIndex) : Owners := index.owner?

def set (owners : Owners) (key : UniqueKey) (owner? : Option ObjectId) : Owners :=
  fun other => if key = other then owner? else owners other

/-- Another document than this one owns the value. -/
def Taken (owners : Owners) (key : UniqueKey) (id : ObjectId) : Prop :=
  ∃ owner ∈ owners key, owner ≠ id

instance (owners : Owners) (key : UniqueKey) (id : ObjectId) : Decidable (owners.Taken key id) :=
  inferInstanceAs (Decidable (∃ owner ∈ owners key, owner ≠ id))

/-- Answers a call: a check and a claim fail exactly if another document owns the value, a claim
makes the document the owner, and a release takes the value from its owner only. -/
def answer (owners : Owners) : Call → Reply × Owners
  | .lookup key => (.owner (owners key), owners)
  | .check key id =>
      if owners.Taken key id then
        (.refused (.uniqueViolation key.collection key.field key.value), owners)
      else (.done, owners)
  | .claim key id =>
      if owners.Taken key id then
        (.refused (.uniqueViolation key.collection key.field key.value), owners)
      else (.done, owners.set key (some id))
  | .release key id => (.done, if owners key = some id then owners.set key none else owners)

/-- The replies to calls, one after the other. -/
def replies (owners : Owners) : List Call → List Reply
  | [] => []
  | call :: rest => (owners.answer call).1 :: (owners.answer call).2.replies rest

end Owners

namespace UniqueIndex

variable {index : UniqueIndex} {owners : Owners} {among : UniqueKey → Prop} {key : UniqueKey}

/-! ### One call -/

theorem owner?_claimed (index : UniqueIndex) (key other : UniqueKey) (id : ObjectId) :
    (UniqueIndex.mk (index.tree.insert key.octets id.octets)).owner? other =
      if key.octets = other.octets then some id else index.owner? other := by
  simp only [owner?, SortedMap.find?_insert]
  split
  · exact ObjectId.ofOctets?_octets id
  · rfl

theorem owner?_release (index : UniqueIndex) (key other : UniqueKey) (id : ObjectId) :
    (index.release key id).owner? other =
      if index.owner? key = some id ∧ key.octets = other.octets then none
      else index.owner? other := by
  rw [owner?, tree_find?_release]
  by_cases howned : index.owner? key = some id ∧ key.octets = other.octets
  · rw [if_pos howned, if_pos howned]
    rfl
  · rw [if_neg howned, if_neg howned]
    rfl

/-- The octets tell these keys apart. -/
def Separates (among : UniqueKey → Prop) : Prop :=
  ∀ a b, among a → among b → a.octets = b.octets → a = b

/-- Under these keys the index has the owners of the map. -/
def Represents (among : UniqueKey → Prop) (index : UniqueIndex) (owners : Owners) : Prop :=
  ∀ key, among key → index.owner? key = owners key

theorem check_of_taken {id : ObjectId} (h : index.owner? key = owners key)
    (htaken : owners.Taken key id) :
    index.check key id = .error (.uniqueViolation key.collection key.field key.value) := by
  obtain ⟨owner, howner, hne⟩ := htaken
  rw [check, h, show owners key = some owner from howner]
  exact if_neg hne

theorem check_of_not_taken {id : ObjectId} (h : index.owner? key = owners key)
    (hfree : ¬ owners.Taken key id) : index.check key id = .ok () := by
  rw [check_eq_ok_iff, h]
  intro owner howner
  by_contra hne
  exact hfree ⟨owner, howner, hne⟩

/-- A change under one key, by its octets in the index and by itself in the map, is the same change
for all keys that are told apart. -/
theorem Represents.set {index' : UniqueIndex} {owner? : Option ObjectId}
    (h : Represents among index owners) (hseparates : Separates among) (hkey : among key)
    (hset : ∀ other, index'.owner? other =
      if key.octets = other.octets then owner? else index.owner? other) :
    Represents among index' (owners.set key owner?) := by
  intro other hother
  rw [hset, Owners.set]
  by_cases heq : key = other
  · rw [if_pos heq, if_pos (congrArg UniqueKey.octets heq)]
  · have hoctets : key.octets ≠ other.octets := fun h => heq (hseparates key other hkey hother h)
    rw [if_neg heq, if_neg hoctets]
    exact h other hother

/-- On keys that are told apart, one call is answered alike, and what the two have afterwards is
alike again. -/
theorem Represents.answer (h : Represents among index owners) (hseparates : Separates among)
    {call : Call} (hcall : among call.key) :
    (index.answer call).1 = (owners.answer call).1 ∧
      Represents among (index.answer call).2 (owners.answer call).2 := by
  cases call with
  | lookup key => exact ⟨congrArg Reply.owner (h key hcall), h⟩
  | check key id =>
      by_cases htaken : owners.Taken key id
      · simp only [UniqueIndex.answer, check_of_taken (h key hcall) htaken, Owners.answer,
          if_pos htaken]
        exact ⟨trivial, h⟩
      · simp only [UniqueIndex.answer, check_of_not_taken (h key hcall) htaken, Owners.answer,
          if_neg htaken]
        exact ⟨trivial, h⟩
  | claim key id =>
      by_cases htaken : owners.Taken key id
      · simp only [UniqueIndex.answer, claim, check_of_taken (h key hcall) htaken, Owners.answer,
          if_pos htaken]
        exact ⟨trivial, h⟩
      · simp only [UniqueIndex.answer, claim, check_of_not_taken (h key hcall) htaken,
          Owners.answer, if_neg htaken]
        exact ⟨trivial, h.set hseparates hcall fun other => owner?_claimed index key other id⟩
  | release key id =>
      have howner : index.owner? key = owners key := h key hcall
      refine ⟨rfl, ?_⟩
      show Represents among (index.release key id)
        (if owners key = some id then owners.set key none else owners)
      by_cases howns : owners key = some id
      · rw [if_pos howns]
        refine h.set hseparates hcall fun other => ?_
        simp [owner?_release, howner.trans howns]
      · have hkept : index.release key id = index := by
          rw [release, howner, if_neg howns]
        rw [if_neg howns, hkept]
        exact h

/-! ### Every sequence of calls -/

theorem Represents.replies {calls : List Call} (h : Represents among index owners)
    (hseparates : Separates among) (hcalls : ∀ call ∈ calls, among call.key) :
    index.replies calls = owners.replies calls := by
  induction calls generalizing index owners with
  | nil => rfl
  | cons call rest ih =>
      rw [List.forall_mem_cons] at hcalls
      obtain ⟨hreply, hafter⟩ := h.answer hseparates hcalls.1
      show (index.answer call).1 :: _ = (owners.answer call).1 :: _
      rw [hreply, ih hafter hcalls.2]

theorem second_of_replies {first second : Call}
    (h : index.replies [first, second] = owners.replies [first, second]) :
    ((index.answer first).2.answer second).1 = ((owners.answer first).2.answer second).1 := by
  have htail := congrArg List.tail h
  exact List.head_eq_of_cons_eq htail

/-- Two calls on different keys of the same octets that no map answers as an index does: an owned
value is released and then looked up under the other key, a free one is claimed and then looked up. -/
theorem exists_replies_ne (index : UniqueIndex) {a b : UniqueKey} (hne : a ≠ b)
    (hoctets : a.octets = b.octets) :
    ∃ calls : List Call, (∀ call ∈ calls, call.key = a ∨ call.key = b) ∧
      index.replies calls ≠ (Owners.ofIndex index).replies calls := by
  have hsame : index.owner? b = index.owner? a := by rw [owner?, ← hoctets, owner?]
  cases howner : index.owner? a with
  | none =>
      let id : ObjectId := ⟨List.replicate 12 0, rfl⟩
      refine ⟨[.claim a id, .lookup b], by simp [Call.key], fun heq => ?_⟩
      have hfree : ¬ (Owners.ofIndex index).Taken a id := by
        rintro ⟨owner, hsome, -⟩
        cases howner.symm.trans hsome
      have hsees : index.owner? a = Owners.ofIndex index a := rfl
      have hlookup := second_of_replies heq
      simp only [UniqueIndex.answer, claim, check_of_not_taken hsees hfree, Owners.answer,
        if_neg hfree, owner?_claimed, if_pos hoctets, Owners.set, if_neg hne] at hlookup
      rw [show Owners.ofIndex index b = none from hsame.trans howner] at hlookup
      cases hlookup
  | some owner =>
      refine ⟨[.release a owner, .lookup b], by simp [Call.key], fun heq => ?_⟩
      have howns : Owners.ofIndex index a = some owner := howner
      have hlookup := second_of_replies heq
      simp only [UniqueIndex.answer, Owners.answer, owner?_release,
        if_pos (And.intro howner hoctets), if_pos howns, Owners.set, if_neg hne] at hlookup
      rw [show Owners.ofIndex index b = some owner from hsame.trans howner] at hlookup
      cases hlookup

/-- Whatever an index holds, it answers every sequence of calls on some keys as the map of its owners
does exactly if no two of the keys have the same octets. So it is with all keys whose collection and
value have no null character. -/
theorem replies_eq_iff (index : UniqueIndex) :
    (∀ among : UniqueKey → Prop,
      (∀ calls : List Call, (∀ call ∈ calls, among call.key) →
        index.replies calls = (Owners.ofIndex index).replies calls) ↔
      ∀ a b, among a → among b → a.octets = b.octets → a = b) ∧
    ∀ calls : List Call, (∀ call ∈ calls, call.key.Plain) →
      index.replies calls = (Owners.ofIndex index).replies calls := by
  have hself : ∀ among, Represents among index (Owners.ofIndex index) := fun _ _ _ => rfl
  refine ⟨fun among => ⟨fun h a b ha hb hoctets => ?_, fun h calls => (hself among).replies h⟩,
    fun calls => (hself _).replies fun a b => UniqueKey.octets_injective⟩
  by_contra hne
  obtain ⟨calls, hkeys, hreplies⟩ := exists_replies_ne index hne hoctets
  refine hreplies (h calls fun call hcall => ?_)
  rcases hkeys call hcall with hkey | hkey
  · rw [hkey]
    exact ha
  · rw [hkey]
    exact hb

/-- A value of the field "b\x00c" of the collection "a" and one of the field "c" of the collection
"a\x00b" have the same octets: once the one is claimed, the other is owned and cannot be claimed. -/
theorem replies_of_null_characters :
    let claimed : UniqueKey := ⟨"a", "b\x00c", "\"x\""⟩
    let asked : UniqueKey := ⟨"a\x00b", "c", "\"x\""⟩
    let first : ObjectId := ⟨List.replicate 12 1, rfl⟩
    let second : ObjectId := ⟨List.replicate 12 2, rfl⟩
    let calls : List Call := [.claim claimed first, .lookup asked, .claim asked second]
    claimed ≠ asked ∧
      empty.replies calls = [.done, .owner (some first),
        .refused (.uniqueViolation "a\x00b" "c" "\"x\"")] ∧
      (Owners.ofIndex empty).replies calls = [.done, .owner none, .done] := by
  decide +kernel

end UniqueIndex

end TypedCollections
