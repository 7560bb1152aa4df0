import TypedCollections.Proofs.Value
/-!
# Which values JSON gives back

A value equals what is read back of it exactly if nothing inside it is lost in JSON. Three things are:
a number that is not finite is written as null, a document is written as an object, and an object
whose only member is the text of an identifier under `$oid` is written as an identifier is. Reading
JSON gives none of them, so every value that was read is given back.
-/

namespace TypedCollections

namespace ObjectId

/-- Members stand for an identifier exactly if the only one is the text of one, under `$oid`. -/
theorem exists_ofMembers?_iff {members : List (String × Json)} :
    (∃ id, ofMembers? members = some id) ↔
      ∃ text, members = [(oidKey, .string text)] ∧ IsHexText text := by
  constructor
  · rintro ⟨id, h⟩
    unfold ofMembers? at h
    split at h
    · rename_i name text
      split at h
      · rename_i hname
        exact ⟨text, by rw [hname], exists_ofHex?_iff.1 ⟨id, h⟩⟩
      · cases h
    · cases h
  · rintro ⟨text, rfl, htext⟩
    obtain ⟨id, hid⟩ := exists_ofHex?_iff.2 htext
    exact ⟨id, by rw [ofMembers?, if_pos rfl, hid]⟩

end ObjectId

namespace Value

/-- The value stands inside another one, at any depth. -/
inductive Inside (inner : Value) : Value → Prop where
  | self : Inside inner inner
  | item {items : List Value} {item : Value} (hmem : item ∈ items) (h : Inside inner item) :
      Inside inner (.array items)
  | member {members : List (String × Value)} {member : String × Value} (hmem : member ∈ members)
      (h : Inside inner member.2) : Inside inner (.object members)
  | field {id : ObjectId} {fields populated : List (String × Value)} {field : String × Value}
      (hmem : field ∈ fields) (h : Inside inner field.2) :
      Inside inner (.document id fields populated)

/-- JSON does not tell the value from another one. -/
def Lost : Value → Prop
  | .number (.infinite _) => True
  | .number .notANumber => True
  | .object members => ∃ text, members = [(oidKey, .string text)] ∧ ObjectId.IsHexText text
  | .document .. => True
  | _ => False

theorem toJson_eq_string_iff {value : Value} {text : String} :
    value.toJson = .string text ↔ value = .string text := by
  cases value with
  | number number =>
      cases number with
      | finite value =>
          obtain ⟨numeral, hwritten, -⟩ := Number.exists_toJson_finite value
          simp [toJson, hwritten]
      | _ => simp [toJson, Number.toJson]
  | objectId id => simp [toJson, ObjectId.toJson]
  | _ => simp [toJson]

private theorem membersToJson_eq_oid_iff {members : List (String × Value)} {text : String} :
    membersToJson members = [(oidKey, .string text)] ↔ members = [(oidKey, .string text)] := by
  simp [membersToJson_eq_mapValues, Entries.mapValues, List.map_eq_singleton_iff,
    toJson_eq_string_iff]

/-- An object is written as an identifier is exactly if it is lost. -/
theorem ofMembers?_toJson_eq_none_iff {members : List (String × Value)} :
    ObjectId.ofMembers? (membersToJson members) = none ↔ ¬ (Value.object members).Lost := by
  have hlost : (∃ id, ObjectId.ofMembers? (membersToJson members) = some id) ↔
      (Value.object members).Lost := by
    rw [ObjectId.exists_ofMembers?_iff, Lost]
    simp only [membersToJson_eq_oid_iff]
  rw [← hlost, ← Option.isSome_iff_exists, Option.not_isSome_iff_eq_none]

/-! ### A value is kept if nothing inside it is lost -/

theorem Kept.not_lost {value : Value} (h : value.Kept) : ¬ value.Lost := by
  cases value with
  | number number =>
      obtain ⟨finite, rfl⟩ := h
      exact id
  | object members => exact ofMembers?_toJson_eq_none_iff.1 h.1
  | document => exact h.elim
  | _ => exact id

theorem not_lost_of_inside {inner value : Value} (h : Inside inner value) (hkept : value.Kept) :
    ¬ inner.Lost := by
  induction h with
  | self => exact hkept.not_lost
  | item hmem _ ih => exact ih (keptList_iff.1 hkept _ hmem)
  | member hmem _ ih => exact ih (keptMembers_iff.1 hkept.2 _ hmem)
  | field _ _ _ => exact hkept.elim

mutual

theorem kept_of_not_lost : ∀ {value : Value}, (∀ inner, Inside inner value → ¬ inner.Lost) →
    value.Kept
  | .null, _ => trivial
  | .bool _, _ => trivial
  | .number (.finite value), _ => ⟨value, rfl⟩
  | .number (.infinite _), h => absurd trivial (h _ .self)
  | .number .notANumber, h => absurd trivial (h _ .self)
  | .string _, _ => trivial
  | .objectId _, _ => trivial
  | .array _, h => keptList_of_not_lost fun _ hmem inner hinner => h inner (.item hmem hinner)
  | .object _, h => ⟨ofMembers?_toJson_eq_none_iff.2 (h _ .self),
      keptMembers_of_not_lost fun _ hmem inner hinner => h inner (.member hmem hinner)⟩
  | .document .., h => absurd trivial (h _ .self)

theorem keptList_of_not_lost : ∀ {items : List Value},
    (∀ item ∈ items, ∀ inner, Inside inner item → ¬ inner.Lost) → KeptList items
  | [], _ => trivial
  | _ :: _, h =>
      have ⟨hitem, hrest⟩ := List.forall_mem_cons.1 h
      ⟨kept_of_not_lost hitem, keptList_of_not_lost hrest⟩

theorem keptMembers_of_not_lost : ∀ {members : List (String × Value)},
    (∀ member ∈ members, ∀ inner, Inside inner member.2 → ¬ inner.Lost) → KeptMembers members
  | [], _ => trivial
  | (_, _) :: _, h =>
      have ⟨hvalue, hrest⟩ := List.forall_mem_cons.1 h
      ⟨kept_of_not_lost hvalue, keptMembers_of_not_lost hrest⟩

end

/-! ### What was read is kept -/

private theorem ofJson_eq_string_iff {json : Json} {text : String} :
    ofJson json = .string text ↔ json = .string text := by
  cases json with
  | object members =>
      rw [ofJson]
      split
      · simp
      · simp
  | _ => simp [ofJson]

private theorem membersOfJson_eq_oid_iff {members : List (String × Json)} {text : String} :
    membersOfJson members = [(oidKey, .string text)] ↔ members = [(oidKey, .string text)] := by
  simp [membersOfJson_eq_mapValues, Entries.mapValues, List.map_eq_singleton_iff,
    ofJson_eq_string_iff]

/-- Members that are read as those of an object are not the text of an identifier. -/
private theorem not_lost_ofJson_object {members : List (String × Json)}
    (h : ObjectId.ofMembers? members = none) : ¬ (Value.object (membersOfJson members)).Lost := by
  rintro ⟨text, hmembers, htext⟩
  obtain ⟨id, hid⟩ := ObjectId.exists_ofMembers?_iff.2 ⟨text, membersOfJson_eq_oid_iff.1 hmembers, htext⟩
  rw [h] at hid
  cases hid

mutual

theorem kept_ofJson : ∀ {json : Json}, json.WellFormed → (ofJson json).Kept
  | .null, _ => trivial
  | .bool _, _ => trivial
  | .number _, h => Number.exists_toNumber_eq h
  | .string _, _ => trivial
  | .array _, h => keptList_ofJson h
  | .object members, h => by
      rw [ofJson]
      split
      · trivial
      · rename_i hid
        exact ⟨ofMembers?_toJson_eq_none_iff.2 (not_lost_ofJson_object hid), keptMembers_ofJson h.2⟩

theorem keptList_ofJson : ∀ {items : List Json}, Json.WellFormedList items →
    KeptList (listOfJson items)
  | [], _ => trivial
  | _ :: _, h => ⟨kept_ofJson h.1, keptList_ofJson h.2⟩

theorem keptMembers_ofJson : ∀ {members : List (String × Json)}, Json.WellFormedMembers members →
    KeptMembers (membersOfJson members)
  | [], _ => trivial
  | (_, _) :: _, h => ⟨kept_ofJson h.1, keptMembers_ofJson h.2⟩

end

namespace Sample

/-- The text of an identifier. -/
def identText : String := "0123456789abcdef01234567"

/-- A list that holds an object with the text of an identifier. -/
def marked : Value := .array [.null, .object [(oidKey, .string identText)]]

/-- Zero with a sign. -/
def signedZero : Value := .number (.finite Number.Finite.zero.negate)

/-- A text like that of an identifier, but in upper case. -/
def shouted : Json := .object [(oidKey, .string "0123456789ABCDEF01234567")]

theorem isHexText_identText : ObjectId.IsHexText identText :=
  ObjectId.exists_ofHex?_iff.1 (Option.isSome_iff_exists.1 (by decide +kernel))

end Sample

/-- A value equals what is read back of it exactly if nothing inside it is lost, and every value that
was read from JSON equals what is read back of it. -/
theorem given_back_iff_nothing_lost :
    (∀ value : Value, value.WellFormed →
      ((ofJson value.toJson == value) = true ↔ ∀ inner, Inside inner value → ¬ inner.Lost)) ∧
    ∀ json : Json, json.WellFormed → (ofJson (ofJson json).toJson == ofJson json) = true := by
  constructor
  · intro value hwell
    constructor
    · intro hsame inner hinside
      exact not_lost_of_inside hinside (kept_of_same_reread hwell hsame)
    · intro hlost
      exact same_reread hwell (kept_of_not_lost hlost)
  · intro json hwell
    exact same_reread (wellFormed_ofJson hwell) (kept_ofJson hwell)

theorem marked_not_given_back :
    ¬ (ofJson Sample.marked.toJson == Sample.marked) = true ∧
      (ofJson Sample.signedZero.toJson == Sample.signedZero) = true ∧
      (ofJson (ofJson Sample.shouted).toJson == ofJson Sample.shouted) = true := by
  have hmarked : Sample.marked.WellFormed := by
    simp [Sample.marked, WellFormed, WellFormedList, WellFormedMembers, Entries.Distinct,
      Entries.names]
  have hinside : Inside (.object [(oidKey, .string Sample.identText)]) Sample.marked :=
    .item (List.mem_cons_of_mem _ (List.mem_cons_self ..)) .self
  have hshouted : Sample.shouted.WellFormed := by
    simp [Sample.shouted, Json.WellFormed, Json.WellFormedMembers, Entries.Distinct, Entries.names]
  refine ⟨fun hsame => ?_, ?_, given_back_iff_nothing_lost.2 Sample.shouted hshouted⟩
  · exact (given_back_iff_nothing_lost.1 Sample.marked hmarked).1 hsame _ hinside
      ⟨Sample.identText, rfl, Sample.isHexText_identText⟩
  · refine (given_back_iff_nothing_lost.1 Sample.signedZero trivial).2 fun inner hinner => ?_
    cases hinner
    exact id

end Value

end TypedCollections
