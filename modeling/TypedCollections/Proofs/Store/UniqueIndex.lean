import TypedCollections.Proofs.Json.Text
import TypedCollections.Proofs.ObjectId
import TypedCollections.Proofs.Utf8
import TypedCollections.Store.UniqueIndex
/-!
# The unique index as a map

What an exchange does to the index, entry by entry: it either fails and changes nothing, or makes
the document the owner of exactly the keys it needs now. The keys of a collection whose name has no
null character are told apart by their octets.
-/

namespace TypedCollections

/-! ### Keys -/

/-- Neither the collection nor the value has a null character, by which the parts are separated. -/
structure UniqueKey.Plain (key : UniqueKey) : Prop where
  collection : '\x00' ∉ key.collection.toList
  value : '\x00' ∉ key.value.toList

private theorem append_zero_inj {front front' back back' : List UInt8} (h : 0 ∉ front)
    (h' : 0 ∉ front') (heq : front ++ 0 :: back = front' ++ 0 :: back') :
    front = front' ∧ back = back' := by
  induction front generalizing front' with
  | nil =>
      cases front' with
      | nil =>
          simp only [List.nil_append, List.cons.injEq, true_and] at heq
          exact ⟨rfl, heq⟩
      | cons octet rest =>
          simp only [List.nil_append, List.cons_append, List.cons.injEq] at heq
          exact absurd (by simp [← heq.1]) h'
  | cons octet rest ih =>
      cases front' with
      | nil =>
          simp only [List.nil_append, List.cons_append, List.cons.injEq] at heq
          exact absurd (by simp [heq.1]) h
      | cons octet' rest' =>
          simp only [List.cons_append, List.cons.injEq] at heq
          simp only [List.mem_cons, not_or] at h h'
          obtain ⟨hrest, hback⟩ := ih h.2 h'.2 heq.2
          exact ⟨by rw [heq.1, hrest], hback⟩

private theorem append_zero_inj_right {front front' back back' : List UInt8} (h : 0 ∉ back)
    (h' : 0 ∉ back') (heq : front ++ 0 :: back = front' ++ 0 :: back') :
    front = front' ∧ back = back' := by
  have hreverse : back.reverse ++ 0 :: front.reverse = back'.reverse ++ 0 :: front'.reverse := by
    have := congrArg List.reverse heq
    simpa using this
  obtain ⟨hback, hfront⟩ := append_zero_inj (by simpa using h) (by simpa using h') hreverse
  exact ⟨List.reverse_inj.1 hfront, List.reverse_inj.1 hback⟩

/-- Keys of one collection are told apart by their octets, if their values have no null character. -/
theorem UniqueKey.eq_of_octets_eq {a b : UniqueKey} (hcollection : a.collection = b.collection)
    (ha : '\x00' ∉ a.value.toList) (hb : '\x00' ∉ b.value.toList) (h : a.octets = b.octets) :
    a = b := by
  obtain ⟨collection, field, value⟩ := a
  obtain ⟨collection', field', value'⟩ := b
  obtain rfl : collection = collection' := hcollection
  obtain ⟨hfield, hvalue⟩ := append_zero_inj_right (Utf8.zero_not_mem_encode ha)
    (Utf8.zero_not_mem_encode hb) (List.cons.inj (List.append_cancel_left h)).2
  have hfield : field = field' := Utf8.encode_injective hfield
  have hvalue : value = value' := Utf8.encode_injective hvalue
  rw [hfield, hvalue]

/-- Plain keys are told apart by their octets: the collection ends at the first zero octet, the
value starts after the last one. -/
theorem UniqueKey.octets_injective {a b : UniqueKey} (ha : a.Plain) (hb : b.Plain)
    (h : a.octets = b.octets) : a = b := by
  obtain ⟨hcollection, -⟩ := append_zero_inj (Utf8.zero_not_mem_encode ha.collection)
    (Utf8.zero_not_mem_encode hb.collection) h
  exact eq_of_octets_eq (Utf8.encode_injective hcollection) ha.value hb.value h

namespace UniqueIndex

/-! ### Owners -/

theorem owner?_eq_some_iff {index : UniqueIndex} {key : UniqueKey} {id : ObjectId} :
    index.owner? key = some id ↔ index.tree.find? key.octets = some id.octets := by
  unfold owner?
  rw [Option.bind_eq_some_iff]
  constructor
  · intro h
    obtain ⟨octets, hfind, hid⟩ := h
    rw [hfind, ObjectId.octets_of_ofOctets? hid]
  · intro hfind
    exact ⟨id.octets, hfind, ObjectId.ofOctets?_octets id⟩

/-- No other document owns one of the keys. -/
def Free (index : UniqueIndex) (id : ObjectId) (keys : List UniqueKey) : Prop :=
  ∀ key ∈ keys, ∀ owner, index.owner? key = some owner → owner = id

/-- Whether the octets are those of one of the keys. -/
def Among (octets : List UInt8) (keys : List UniqueKey) : Prop := ∃ key ∈ keys, key.octets = octets

instance (octets : List UInt8) (keys : List UniqueKey) : Decidable (Among octets keys) :=
  inferInstanceAs (Decidable (∃ key ∈ keys, key.octets = octets))

theorem among_cons {octets : List UInt8} {key : UniqueKey} {rest : List UniqueKey} :
    Among octets (key :: rest) ↔ key.octets = octets ∨ Among octets rest := by
  simp [Among]

/-- Releasing keys takes out the entries of those that the document owns. -/
theorem find?_releaseEach (index : UniqueIndex) (id : ObjectId) (keys : List UniqueKey)
    (octets : List UInt8) :
    (index.releaseEach id keys).tree.find? octets =
      if Among octets keys ∧ index.tree.find? octets = some id.octets then none
      else index.tree.find? octets := by
  induction keys generalizing index with
  | nil => simp [releaseEach, Among]
  | cons key rest ih =>
      have hstep : index.releaseEach id (key :: rest) = (index.release key id).releaseEach id rest :=
        rfl
      rw [hstep, ih, tree_find?_release]
      simp only [owner?_eq_some_iff, among_cons]
      by_cases hkey : key.octets = octets
      · subst hkey
        by_cases howned : index.tree.find? key.octets = some id.octets
        · simp [howned]
        · simp [howned]
      · simp [hkey]

theorem checkEach_eq_ok_iff {index : UniqueIndex} {id : ObjectId} {keys : List UniqueKey} :
    index.checkEach id keys = .ok () ↔ index.Free id keys := by
  induction keys with
  | nil => simp [checkEach, Free]
  | cons key rest ih =>
      rw [checkEach]
      cases hcheck : index.check key id with
      | error error =>
          constructor
          · intro h
            cases h
          · intro h
            have hok := (check_eq_ok_iff index key id).2 (h key (List.mem_cons_self ..))
            rw [hcheck] at hok
            cases hok
      | ok done =>
          have hkey := (check_eq_ok_iff index key id).1 hcheck
          simp only [ih, Free, List.forall_mem_cons]
          exact ⟨fun h => ⟨hkey, h⟩, fun h => h.2⟩

/-- Keys that no other document owns are claimed one after the other. -/
theorem claimEach_spec {index : UniqueIndex} {id : ObjectId} {keys : List UniqueKey}
    (h : index.Free id keys) :
    (index.claimEach id keys).1 = .ok () ∧ ∀ octets,
      (index.claimEach id keys).2.tree.find? octets =
        if Among octets keys then some id.octets else index.tree.find? octets := by
  induction keys generalizing index with
  | nil => simp [claimEach, Among]
  | cons key rest ih =>
      have hcheck : index.check key id = .ok () :=
        (check_eq_ok_iff index key id).2 (h key (List.mem_cons_self ..))
      have hfind : ∀ octets, (UniqueIndex.mk (index.tree.insert key.octets id.octets)).tree.find? octets
          = if key.octets = octets then some id.octets else index.tree.find? octets :=
        fun octets => SortedMap.find?_insert index.tree key.octets octets id.octets
      have hrest : (UniqueIndex.mk (index.tree.insert key.octets id.octets)).Free id rest := by
        intro other hmem owner howner
        rw [owner?_eq_some_iff, hfind] at howner
        split at howner
        · exact (ObjectId.ext_octets (Option.some.inj howner)).symm
        · exact h other (List.mem_cons_of_mem _ hmem) owner (owner?_eq_some_iff.2 howner)
      obtain ⟨hok, hclaimed⟩ := ih hrest
      simp only [claimEach, claim, hcheck]
      refine ⟨hok, fun octets => ?_⟩
      rw [hclaimed, hfind]
      simp only [among_cons]
      by_cases hkey : key.octets = octets
      · simp [hkey]
      · simp [hkey]

/-- An exchange of keys that no other document owns succeeds, and afterwards the document owns
exactly the keys it needs now among those it owned before or needs now. -/
theorem exchange_of_free {index : UniqueIndex} {id : ObjectId} (before : List UniqueKey)
    {now : List UniqueKey} (h : index.Free id now) :
    (index.exchange id before now).1 = .ok () ∧ ∀ octets,
      (index.exchange id before now).2.tree.find? octets =
        if Among octets now then some id.octets
        else if Among octets before ∧ index.tree.find? octets = some id.octets then none
        else index.tree.find? octets := by
  have hfree : (index.releaseEach id (before.filter (· ∉ now))).Free id now := by
    intro key hmem owner howner
    rw [owner?_eq_some_iff, find?_releaseEach] at howner
    split at howner
    · cases howner
    · exact h key hmem owner (owner?_eq_some_iff.2 howner)
  obtain ⟨hok, hclaimed⟩ := claimEach_spec hfree
  rw [exchange, checkEach_eq_ok_iff.2 h]
  refine ⟨hok, fun octets => ?_⟩
  simp only
  rw [hclaimed, find?_releaseEach]
  by_cases hnow : Among octets now
  · rw [if_pos hnow, if_pos hnow]
  · have hreleased : Among octets (before.filter (· ∉ now)) ↔ Among octets before := by
      constructor
      · intro h
        obtain ⟨key, hmem, hkey⟩ := h
        exact ⟨key, (List.mem_filter.1 hmem).1, hkey⟩
      · intro h
        obtain ⟨key, hmem, hkey⟩ := h
        refine ⟨key, List.mem_filter.2 ⟨hmem, ?_⟩, hkey⟩
        simp only [decide_eq_true_eq]
        exact fun hnow' => hnow ⟨key, hnow', hkey⟩
    rw [if_neg hnow, if_neg hnow]
    simp only [hreleased]

/-- An exchange fails, and then leaves the index as it is, exactly if another document owns one of
the keys. -/
theorem exchange_of_owned {index : UniqueIndex} {id : ObjectId} (before : List UniqueKey)
    {now : List UniqueKey} (h : ¬ index.Free id now) :
    ∃ error, index.exchange id before now = (.error error, index) := by
  rw [exchange]
  cases hcheck : index.checkEach id now with
  | error error => exact ⟨error, rfl⟩
  | ok done => exact absurd (checkEach_eq_ok_iff.1 hcheck) h

/-- The keys of a collection whose name has no null character. -/
def KeysOf (name : String) (keys : List UniqueKey) : Prop :=
  ∀ key ∈ keys, key.Plain ∧ key.collection = name

/-- An exchange of keys of one collection neither claims nor releases what another document of the
collection owns, or a document of another collection. -/
theorem not_among_of_owned {index : UniqueIndex} {name : String} {id owner : ObjectId}
    {key : UniqueKey} {before now : List UniqueKey} (hbefore : KeysOf name before)
    (hnow : KeysOf name now) (hfree : index.Free id now) (hplain : key.Plain)
    (hfind : index.tree.find? key.octets = some owner.octets)
    (hplace : ¬ (key.collection = name ∧ owner = id)) :
    ¬ Among key.octets now ∧
      ¬ (Among key.octets before ∧ index.tree.find? key.octets = some id.octets) := by
  constructor
  · intro hamong
    obtain ⟨other, hmem, hoctets⟩ := hamong
    obtain ⟨hother, hname⟩ := hnow other hmem
    obtain rfl : other = key := UniqueKey.octets_injective hother hplain hoctets
    exact hplace ⟨hname, hfree other hmem owner (owner?_eq_some_iff.2 hfind)⟩
  · intro hreleased
    obtain ⟨⟨other, hmem, hoctets⟩, hid⟩ := hreleased
    obtain ⟨hother, hname⟩ := hbefore other hmem
    obtain rfl : other = key := UniqueKey.octets_injective hother hplain hoctets
    rw [hfind] at hid
    exact hplace ⟨hname, ObjectId.ext_octets (Option.some.inj hid)⟩

end UniqueIndex

end TypedCollections
