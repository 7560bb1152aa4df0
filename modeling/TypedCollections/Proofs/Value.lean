import TypedCollections.Proofs.Entries
import TypedCollections.Proofs.Json.ReadBack
import TypedCollections.Proofs.Number
import TypedCollections.Proofs.ObjectId
/-!
# Values inside JSON

What becomes of a value that is written as JSON and read back. What is written of it does not
show any more. The value itself is kept, up to the sign of zeros, unless it holds a number that is
not finite, a document in the place of its identifier, or an object that JSON cannot tell from an
identifier.
-/

namespace TypedCollections

namespace Value

/-- The value read back from what is written of it. -/
def reread (value : Value) : Value := ofJson value.toJson

mutual

/-- No object and no document names a member twice, and no document has a field `_id`. -/
def WellFormed : Value → Prop
  | .array items => WellFormedList items
  | .object members => Entries.Distinct members ∧ WellFormedMembers members
  | .document _ fields _ =>
      idField ∉ Entries.names fields ∧ Entries.Distinct fields ∧ WellFormedMembers fields
  | _ => True

/-- Every item is well-formed. -/
def WellFormedList : List Value → Prop
  | [] => True
  | item :: rest => WellFormed item ∧ WellFormedList rest

/-- Every member's value is well-formed. -/
def WellFormedMembers : List (String × Value) → Prop
  | [] => True
  | (_, value) :: rest => WellFormed value ∧ WellFormedMembers rest

end

mutual

/-- The values that JSON keeps: numbers are finite, there are no documents, and no object is written
as an identifier is. -/
def Kept : Value → Prop
  | .number value => ∃ finite, value = .finite finite
  | .array items => KeptList items
  | .object members =>
      ObjectId.ofMembers? (membersToJson members) = none ∧ KeptMembers members
  | .document .. => False
  | _ => True

/-- Every item is kept. -/
def KeptList : List Value → Prop
  | [] => True
  | item :: rest => Kept item ∧ KeptList rest

/-- Every member's value is kept. -/
def KeptMembers : List (String × Value) → Prop
  | [] => True
  | (_, value) :: rest => Kept value ∧ KeptMembers rest

end

theorem wellFormedList_iff {items : List Value} :
    WellFormedList items ↔ ∀ item ∈ items, item.WellFormed := by
  induction items with
  | nil => simp [WellFormedList]
  | cons item rest ih => simp [WellFormedList, ih]

theorem wellFormedMembers_iff {members : List (String × Value)} :
    WellFormedMembers members ↔ ∀ member ∈ members, member.2.WellFormed := by
  induction members with
  | nil => simp [WellFormedMembers]
  | cons member rest ih =>
      obtain ⟨name, value⟩ := member
      simp [WellFormedMembers, ih]

theorem keptList_iff {items : List Value} : KeptList items ↔ ∀ item ∈ items, item.Kept := by
  induction items with
  | nil => simp [KeptList]
  | cons item rest ih => simp [KeptList, ih]

theorem keptMembers_iff {members : List (String × Value)} :
    KeptMembers members ↔ ∀ member ∈ members, member.2.Kept := by
  induction members with
  | nil => simp [KeptMembers]
  | cons member rest ih =>
      obtain ⟨name, value⟩ := member
      simp [KeptMembers, ih]

theorem listToJson_eq_map (items : List Value) : listToJson items = items.map toJson := by
  induction items with
  | nil => rfl
  | cons item rest ih => rw [listToJson, ih, List.map_cons]

theorem membersToJson_eq_mapValues (members : List (String × Value)) :
    membersToJson members = Entries.mapValues toJson members := by
  induction members with
  | nil => rfl
  | cons member rest ih =>
      obtain ⟨name, value⟩ := member
      rw [membersToJson, ih]
      rfl

theorem listOfJson_eq_map (items : List Json) : listOfJson items = items.map ofJson := by
  induction items with
  | nil => rfl
  | cons item rest ih => rw [listOfJson, ih, List.map_cons]

theorem membersOfJson_eq_mapValues (members : List (String × Json)) :
    membersOfJson members = Entries.mapValues ofJson members := by
  induction members with
  | nil => rfl
  | cons member rest ih =>
      obtain ⟨name, value⟩ := member
      rw [membersOfJson, ih]
      rfl

theorem membersOfJson_membersToJson (members : List (String × Value)) :
    membersOfJson (membersToJson members) = Entries.mapValues reread members := by
  rw [membersOfJson_eq_mapValues, membersToJson_eq_mapValues]
  simp only [Entries.mapValues, List.map_map]
  rfl

theorem reread_array (items : List Value) : reread (.array items) = .array (items.map reread) := by
  rw [reread, toJson, ofJson, listOfJson_eq_map, listToJson_eq_map, List.map_map]
  rfl

theorem reread_object {members : List (String × Value)}
    (h : ObjectId.ofMembers? (membersToJson members) = none) :
    reread (.object members) = .object (Entries.mapValues reread members) := by
  rw [reread, toJson, ofJson, h]
  simp only
  rw [membersOfJson_membersToJson]

@[simp] theorem ofMembers?_toJson (id : ObjectId) :
    ObjectId.ofMembers? [(oidKey, .string id.hex)] = some id := by
  simp [ObjectId.ofMembers?]

@[simp] theorem ofJson_objectId (id : ObjectId) : ofJson id.toJson = .objectId id := by
  simp [ObjectId.toJson, ofJson]

theorem reread_finite (value : Number.Finite) :
    reread (.number (.finite value)) = .number (.finite value.settled) := by
  obtain ⟨numeral, hwritten, -, hnumber⟩ := Number.exists_toJson_finite value
  rw [reread, toJson, hwritten, ofJson, hnumber]

/-! ### What is written stays the same -/

private theorem toJson_ofJson_object {members : List (String × Json)}
    (h : Entries.mapValues (fun json => toJson (ofJson json)) members = members) :
    toJson (ofJson (.object members)) = .object members := by
  rw [ofJson]
  cases hid : ObjectId.ofMembers? members with
  | none =>
      simp only
      rw [toJson, membersToJson_eq_mapValues, membersOfJson_eq_mapValues]
      simp only [Entries.mapValues, List.map_map] at h ⊢
      exact congrArg Json.object h
  | some id =>
      simp only
      unfold ObjectId.ofMembers? at hid
      split at hid
      · split at hid
        · rename_i name text hname
          rw [toJson, ObjectId.toJson, ObjectId.hex_of_ofHex? hid, hname]
        · cases hid
      · cases hid

mutual

theorem toJson_reread : ∀ value : Value, value.reread.toJson = value.toJson
  | .null => rfl
  | .bool _ => rfl
  | .number (.finite value) => by
      rw [reread_finite, toJson, toJson, Number.toJson_settled]
  | .number (.infinite _) => rfl
  | .number .notANumber => rfl
  | .string _ => rfl
  | .objectId id => by rw [reread, toJson, ofJson_objectId, toJson]
  | .array items => by
      rw [reread_array, toJson, toJson, listToJson_eq_map, listToJson_eq_map, List.map_map]
      exact congrArg Json.array (map_toJson_reread items)
  | .object members => by
      rw [reread, toJson]
      exact toJson_ofJson_object (mapValues_toJson_reread members)
  | .document id fields populated => by
      rw [reread, toJson]
      apply toJson_ofJson_object
      have hfields := mapValues_toJson_reread fields
      simp only [Entries.mapValues, List.map_cons, ofJson_objectId] at hfields ⊢
      rw [hfields, toJson]

theorem map_toJson_reread : ∀ items : List Value,
    items.map (toJson ∘ reread) = items.map toJson
  | [] => rfl
  | item :: rest => by
      rw [List.map_cons, List.map_cons, Function.comp_apply, toJson_reread item,
        map_toJson_reread rest]

theorem mapValues_toJson_reread : ∀ members : List (String × Value),
    Entries.mapValues (fun json => toJson (ofJson json)) (membersToJson members)
      = membersToJson members
  | [] => rfl
  | (name, value) :: rest => by
      have hrest := mapValues_toJson_reread rest
      simp only [Entries.mapValues, membersToJson, List.map_cons] at hrest ⊢
      rw [hrest]
      have hvalue : toJson (ofJson value.toJson) = value.toJson := toJson_reread value
      rw [hvalue]

end

theorem reread_reread (value : Value) : value.reread.reread = value.reread := by
  rw [reread, toJson_reread]
  rfl

private theorem ofJson_eq_null_iff {json : Json} : ofJson json = .null ↔ json = .null := by
  cases json with
  | object members =>
      rw [ofJson]
      split
      · simp
      · simp
  | _ => simp [ofJson]

/-- Null is read back of null and of the numbers that are not finite. -/
theorem reread_eq_null_iff {value : Value} :
    value.reread = .null ↔
      value = .null ∨ ∃ number, value = .number number ∧ ∀ finite, number ≠ .finite finite := by
  rw [reread, ofJson_eq_null_iff]
  cases value with
  | number number => simp [toJson, Number.toJson_eq_null_iff]
  | objectId id => simp [toJson, ObjectId.toJson]
  | _ => simp [toJson]

/-! ### Well-formed trees -/

@[simp] theorem names_membersToJson (members : List (String × Value)) :
    Entries.names (membersToJson members) = Entries.names members := by
  rw [membersToJson_eq_mapValues, Entries.names_mapValues]

@[simp] theorem names_membersOfJson (members : List (String × Json)) :
    Entries.names (membersOfJson members) = Entries.names members := by
  rw [membersOfJson_eq_mapValues, Entries.names_mapValues]

theorem wellFormed_objectIdToJson (id : ObjectId) : id.toJson.WellFormed := by
  simp [ObjectId.toJson, Json.WellFormed, Json.WellFormedMembers, Entries.Distinct, Entries.names]

mutual

theorem wellFormed_toJson : ∀ {value : Value}, value.WellFormed → value.toJson.WellFormed
  | .null, _ => trivial
  | .bool _, _ => trivial
  | .number (.finite value), _ => by
      obtain ⟨numeral, hwritten, hfits, -⟩ := Number.exists_toJson_finite value
      rw [toJson, hwritten]
      exact hfits
  | .number (.infinite _), _ => trivial
  | .number .notANumber, _ => trivial
  | .string _, _ => trivial
  | .objectId id, _ => wellFormed_objectIdToJson id
  | .array _, h => wellFormed_listToJson h
  | .object members, h => by
      rw [toJson, Json.WellFormed, Entries.Distinct, names_membersToJson]
      exact ⟨h.1, wellFormed_membersToJson h.2⟩
  | .document id fields _, h => by
      rw [toJson, Json.WellFormed]
      refine ⟨?_, wellFormed_objectIdToJson id, wellFormed_membersToJson h.2.2⟩
      have hnames : Entries.names ((idField, id.toJson) :: membersToJson fields)
          = idField :: Entries.names fields := by
        rw [← names_membersToJson fields]
        rfl
      rw [Entries.Distinct, hnames, List.nodup_cons]
      exact ⟨h.1, h.2.1⟩

theorem wellFormed_listToJson : ∀ {items : List Value}, WellFormedList items →
    Json.WellFormedList (listToJson items)
  | [], _ => trivial
  | _ :: _, h => ⟨wellFormed_toJson h.1, wellFormed_listToJson h.2⟩

theorem wellFormed_membersToJson : ∀ {members : List (String × Value)}, WellFormedMembers members →
    Json.WellFormedMembers (membersToJson members)
  | [], _ => trivial
  | (_, _) :: _, h => ⟨wellFormed_toJson h.1, wellFormed_membersToJson h.2⟩

end

mutual

theorem wellFormed_ofJson : ∀ {json : Json}, json.WellFormed → (ofJson json).WellFormed
  | .null, _ => trivial
  | .bool _, _ => trivial
  | .number _, _ => trivial
  | .string _, _ => trivial
  | .array _, h => wellFormed_listOfJson h
  | .object members, h => by
      rw [ofJson]
      split
      · trivial
      · rw [WellFormed, Entries.Distinct, names_membersOfJson]
        exact ⟨h.1, wellFormed_membersOfJson h.2⟩

theorem wellFormed_listOfJson : ∀ {items : List Json}, Json.WellFormedList items →
    WellFormedList (listOfJson items)
  | [], _ => trivial
  | _ :: _, h => ⟨wellFormed_ofJson h.1, wellFormed_listOfJson h.2⟩

theorem wellFormed_membersOfJson : ∀ {members : List (String × Json)},
    Json.WellFormedMembers members → WellFormedMembers (membersOfJson members)
  | [], _ => trivial
  | (_, _) :: _, h => ⟨wellFormed_ofJson h.1, wellFormed_membersOfJson h.2⟩

end

/-! ### Equality -/

private theorem equal_settled (value : Number.Finite) :
    Number.equal (.finite value.settled) (.finite value) = true := by
  simp [Number.equal, Number.Finite.toUnits_settled]

private theorem sameMembers_mapValues {members others : List (String × Value)}
    (h : ∀ member ∈ members, Entries.find? others member.1 = some member.2 ∧
      same member.2.reread member.2 = true) :
    sameMembers (Entries.mapValues reread members) others = true := by
  induction members with
  | nil => rfl
  | cons member rest ih =>
      obtain ⟨name, value⟩ := member
      obtain ⟨hfind, hsame⟩ := h (name, value) (by simp)
      simp only [Entries.mapValues, List.map_cons, sameMembers, hfind, hsame, Bool.true_and]
      exact ih fun member hmem => h member (by simp [hmem])

mutual

/-- A value that JSON keeps equals the value read back. -/
theorem same_reread : ∀ {value : Value}, value.WellFormed → value.Kept →
    same value.reread value = true
  | .null, _, _ => rfl
  | .bool value, _, _ => by cases value <;> rfl
  | .number (.finite value), _, _ => by
      rw [reread_finite, same]
      exact equal_settled value
  | .number (.infinite _), _, h => by
      obtain ⟨finite, hfinite⟩ := h
      cases hfinite
  | .number .notANumber, _, h => by
      obtain ⟨finite, hfinite⟩ := h
      cases hfinite
  | .string value, _, _ => by simp [reread, toJson, ofJson, same]
  | .objectId id, _, _ => by simp [reread, toJson, same]
  | .array items, hwell, hkept => by
      rw [reread_array, same]
      exact sameList_reread hwell hkept
  | .object members, hwell, hkept => by
      rw [reread_object hkept.1, same]
      have hlength : (Entries.mapValues reread members).length = members.length := by
        simp [Entries.mapValues]
      rw [hlength, beq_self_eq_true, Bool.true_and]
      exact sameMembers_mapValues fun member hmem =>
        ⟨Entries.find?_eq_of_mem hwell.1 hmem, same_of_mem hwell.2 hkept.2 member hmem⟩
  | .document .., _, h => h.elim

theorem sameList_reread : ∀ {items : List Value}, WellFormedList items → KeptList items →
    sameList (items.map reread) items = true
  | [], _, _ => rfl
  | _ :: _, hwell, hkept => by
      rw [List.map_cons, sameList, same_reread hwell.1 hkept.1, sameList_reread hwell.2 hkept.2]
      rfl

theorem same_of_mem : ∀ {members : List (String × Value)}, WellFormedMembers members →
    KeptMembers members → ∀ member ∈ members, same member.2.reread member.2 = true
  | (_, _) :: _, hwell, hkept, _, .head _ => same_reread hwell.1 hkept.1
  | (_, _) :: _, hwell, hkept, _, .tail _ hmem => same_of_mem hwell.2 hkept.2 _ hmem

end

private theorem same_of_sameMembers {members others : List (String × Value)}
    (hfind : ∀ member ∈ members, Entries.find? others member.1 = some member.2)
    (h : sameMembers (Entries.mapValues reread members) others = true) :
    ∀ member ∈ members, same member.2.reread member.2 = true := by
  induction members with
  | nil => exact fun member hmem => by cases hmem
  | cons member rest ih =>
      obtain ⟨name, value⟩ := member
      rw [List.forall_mem_cons] at hfind ⊢
      simp only [Entries.mapValues, List.map_cons, sameMembers, hfind.1, Bool.and_eq_true] at h
      exact ⟨h.1, ih hfind.2 h.2⟩

mutual

/-- A value that equals the value read back is kept by JSON. -/
theorem kept_of_same_reread : ∀ {value : Value}, value.WellFormed →
    same value.reread value = true → value.Kept
  | .null, _, _ => trivial
  | .bool _, _, _ => trivial
  | .number (.finite value), _, _ => ⟨value, rfl⟩
  | .number (.infinite _), _, h => by cases h
  | .number .notANumber, _, h => by cases h
  | .string _, _, _ => trivial
  | .objectId _, _, _ => trivial
  | .array items, hwell, h => by
      rw [reread_array, same] at h
      exact keptList_of_same_reread hwell h
  | .object members, hwell, h => by
      cases hid : ObjectId.ofMembers? (membersToJson members) with
      | some id =>
          rw [reread, toJson, ofJson, hid] at h
          cases h
      | none =>
          rw [reread_object hid, same, Bool.and_eq_true] at h
          have hsame := same_of_sameMembers (fun _ => Entries.find?_eq_of_mem hwell.1) h.2
          exact ⟨hid, keptMembers_of_same_reread hwell.2 hsame⟩
  | .document id fields _, _, h => by
      have hid : ObjectId.ofMembers? ((idField, id.toJson) :: membersToJson fields) = none := by
        cases fields <;> rfl
      rw [reread, toJson, ofJson, hid] at h
      cases h

theorem keptList_of_same_reread : ∀ {items : List Value}, WellFormedList items →
    sameList (items.map reread) items = true → KeptList items
  | [], _, _ => trivial
  | _ :: _, hwell, h => by
      rw [List.map_cons, sameList, Bool.and_eq_true] at h
      exact ⟨kept_of_same_reread hwell.1 h.1, keptList_of_same_reread hwell.2 h.2⟩

theorem keptMembers_of_same_reread : ∀ {members : List (String × Value)},
    WellFormedMembers members → (∀ member ∈ members, same member.2.reread member.2 = true) →
      KeptMembers members
  | [], _, _ => trivial
  | (_, _) :: _, hwell, h => by
      rw [List.forall_mem_cons] at h
      exact ⟨kept_of_same_reread hwell.1 h.1, keptMembers_of_same_reread hwell.2 h.2⟩

end

/-- Members equal the members read back exactly if JSON keeps them. -/
theorem sameMembers_reread_iff {members : List (String × Value)}
    (hdistinct : Entries.Distinct members) (hwell : WellFormedMembers members) :
    sameMembers (Entries.mapValues reread members) members = true ↔ KeptMembers members := by
  have hfind : ∀ member ∈ members, Entries.find? members member.1 = some member.2 :=
    fun _ => Entries.find?_eq_of_mem hdistinct
  constructor
  · intro h
    exact keptMembers_of_same_reread hwell (same_of_sameMembers hfind h)
  · intro hkept
    exact sameMembers_mapValues fun member hmem =>
      ⟨hfind member hmem, same_of_mem hwell hkept member hmem⟩

private theorem membersToJson_reread (members : List (String × Value)) :
    membersToJson (Entries.mapValues reread members) = membersToJson members := by
  simp only [membersToJson_eq_mapValues, Entries.mapValues, List.map_map]
  apply List.map_congr_left
  intro member _
  simp [toJson_reread]

mutual

/-- What is read back is kept from then on. -/
theorem Kept.reread : ∀ {value : Value}, value.Kept → value.reread.Kept
  | .null, _ => trivial
  | .bool _, _ => trivial
  | .number _, h => by
      obtain ⟨finite, rfl⟩ := h
      rw [reread_finite]
      exact ⟨_, rfl⟩
  | .string _, _ => trivial
  | .objectId id, _ => by
      rw [Value.reread, toJson, ofJson_objectId]
      trivial
  | .array items, h => by
      rw [reread_array]
      exact keptList_reread h
  | .object members, h => by
      rw [reread_object h.1]
      refine ⟨?_, keptMembers_reread h.2⟩
      rw [membersToJson_reread]
      exact h.1
  | .document .., h => h.elim

theorem keptList_reread : ∀ {items : List Value}, KeptList items → KeptList (items.map reread)
  | [], _ => trivial
  | _ :: _, h => ⟨h.1.reread, keptList_reread h.2⟩

theorem keptMembers_reread : ∀ {members : List (String × Value)}, KeptMembers members →
    KeptMembers (Entries.mapValues reread members)
  | [], _ => trivial
  | (_, _) :: _, h => ⟨h.1.reread, keptMembers_reread h.2⟩

end

/-! ### Scalars and identifiers -/

/-- The value is a scalar or an identifier. -/
def Scalar : Value → Prop
  | .bool _ => True
  | .number _ => True
  | .string _ => True
  | .objectId _ => True
  | _ => False

/-- The value is a scalar or an identifier, and finite if it is a number. -/
def Atomic : Value → Prop
  | .bool _ => True
  | .number value => ∃ finite, value = .finite finite
  | .string _ => True
  | .objectId _ => True
  | _ => False

theorem Scalar.atomic {value : Value} (h : value.Scalar)
    (hfinite : ∀ number, value = .number number → ∃ finite, number = .finite finite) :
    value.Atomic := by
  cases value with
  | number number => exact hfinite number rfl
  | bool truth => exact trivial
  | string text => exact trivial
  | objectId id => exact trivial
  | _ => exact h.elim

theorem Atomic.ne_null {value : Value} (h : value.Atomic) : value ≠ .null := by
  rintro rfl
  exact h

theorem Atomic.reread {value : Value} (h : value.Atomic) : value.reread.Atomic := by
  cases value with
  | bool truth => exact trivial
  | number number =>
      obtain ⟨finite, rfl⟩ := h
      rw [reread_finite]
      exact ⟨_, rfl⟩
  | string text => exact trivial
  | objectId id =>
      rw [Value.reread, toJson, ofJson_objectId]
      exact trivial
  | _ => exact h.elim

private theorem settled_eq_of_toUnits_eq {a b : Number.Finite} (h : a.toUnits = b.toUnits) :
    a.settled = b.settled := by
  obtain ⟨negative, units, hrepresentable⟩ := a
  obtain ⟨negative', units', hrepresentable'⟩ := b
  have hunits : units = units' := by
    cases negative <;> cases negative' <;> simp [Number.Finite.toUnits] at h <;> omega
  subst hunits
  have hsign : units ≠ 0 → negative = negative' := by
    intro hzero
    cases negative <;> cases negative' <;> simp [Number.Finite.toUnits] at h
    · rfl
    · omega
    · omega
    · rfl
  by_cases hzero : units = 0
  · simp [Number.Finite.settled, hzero]
  · simp [Number.Finite.settled, hsign hzero]

private theorem toJson_finite_eq_iff {a b : Number.Finite} :
    Number.toJson (.finite a) = Number.toJson (.finite b) ↔ a.toUnits = b.toUnits := by
  constructor
  · intro h
    obtain ⟨numeral, hwritten, -, hnumber⟩ := Number.exists_toJson_finite a
    obtain ⟨numeral', hwritten', -, hnumber'⟩ := Number.exists_toJson_finite b
    have hnumeral : numeral = numeral' := by
      rw [hwritten, hwritten'] at h
      exact Json.number.inj h
    rw [hnumeral, hnumber'] at hnumber
    have hsettled : b.settled = a.settled := Number.finite.inj hnumber
    rw [← Number.Finite.toUnits_settled a, ← hsettled, Number.Finite.toUnits_settled]
  · intro h
    rw [← Number.toJson_settled a, settled_eq_of_toUnits_eq h, Number.toJson_settled]

/-- The same is written of numbers that are equal, and of all that are not finite. -/
private theorem toJson_eq_of_equal {a b : Number} (h : a.equal b = true) : a.toJson = b.toJson := by
  cases a with
  | finite value =>
      cases b with
      | finite other => exact toJson_finite_eq_iff.2 (by simpa [Number.equal] using h)
      | _ => cases h
  | infinite negative =>
      cases b with
      | infinite other => rfl
      | _ => cases h
  | notANumber => cases h

/-- The same is written of a scalar and of a value that is equal to it. -/
theorem Scalar.toJson_eq_of_same {a b : Value} (ha : a.Scalar) (h : same a b = true) :
    a.toJson = b.toJson := by
  cases a with
  | bool truth =>
      cases b with
      | bool other => rw [eq_of_beq (show (truth == other) = true from h)]
      | _ => cases h
  | number number =>
      cases b with
      | number other => exact toJson_eq_of_equal h
      | _ => cases h
  | string text =>
      cases b with
      | string other => rw [eq_of_beq (show (text == other) = true from h)]
      | _ => cases h
  | objectId id =>
      cases b with
      | objectId other => rw [eq_of_beq (show (id == other) = true from h)]
      | _ => cases h
  | _ => exact ha.elim

/-- Scalars and identifiers are equal exactly if the same is written of them. -/
theorem toJson_eq_iff_same {a b : Value} (ha : a.Atomic) (hb : b.Atomic) :
    a.toJson = b.toJson ↔ same a b = true := by
  have hnumber : ∀ number : Number, (Value.number number).Atomic →
      ∃ numeral, number.toJson = .number numeral := by
    rintro number ⟨finite, rfl⟩
    obtain ⟨numeral, hwritten, -⟩ := Number.exists_toJson_finite finite
    exact ⟨numeral, hwritten⟩
  cases a with
  | bool truth => cases b with
    | bool other => simp [toJson, same]
    | number other =>
        obtain ⟨numeral, hwritten⟩ := hnumber other hb
        simp [toJson, same, hwritten]
    | string other => simp [toJson, same]
    | objectId other => simp [toJson, same, ObjectId.toJson]
    | _ => exact hb.elim
  | number number =>
      obtain ⟨numeral, hwritten⟩ := hnumber number ha
      cases b with
      | bool other => simp [toJson, same, hwritten]
      | number other =>
          obtain ⟨finite, rfl⟩ := ha
          obtain ⟨finite', rfl⟩ := hb
          simp [toJson, same, Number.equal, toJson_finite_eq_iff]
      | string other => simp [toJson, same, hwritten]
      | objectId other => simp [toJson, same, ObjectId.toJson, hwritten]
      | _ => exact hb.elim
  | string text => cases b with
    | bool other => simp [toJson, same]
    | number other =>
        obtain ⟨numeral, hwritten⟩ := hnumber other hb
        simp [toJson, same, hwritten]
    | string other => simp [toJson, same]
    | objectId other => simp [toJson, same, ObjectId.toJson]
    | _ => exact hb.elim
  | objectId id => cases b with
    | bool other => simp [toJson, same, ObjectId.toJson]
    | number other =>
        obtain ⟨numeral, hwritten⟩ := hnumber other hb
        simp [toJson, same, hwritten, ObjectId.toJson]
    | string other => simp [toJson, same, ObjectId.toJson]
    | objectId other => simp [toJson, same, ObjectId.toJson, ObjectId.hex_inj]
    | _ => exact hb.elim
  | _ => exact ha.elim

end Value

end TypedCollections
