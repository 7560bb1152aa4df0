import TypedCollections.Proofs.Json.Unambiguous
import TypedCollections.Proofs.Store.UniqueIndex
import TypedCollections.Proofs.Validation.Stored
import TypedCollections.Store.Writing
/-!
# Unique values and their owners

Which keys a document of a collection needs in the index, and what it means that an index is exact:
it has one entry for every unique value of every document and no other. Replacing one document keeps
an index exact if the document's keys are exchanged at the same time. What is written of a unique
value is the same before and after it was stored, so a stored document still needs the keys that
were claimed for it.
-/

namespace TypedCollections

/-- A field of the definition whose values are unique. -/
def IsUnique (fields : Fields) (name : String) : Prop :=
  ∃ field, (name, field) ∈ fields ∧ Field.isUnique field = true

/-- A document of the collection needs the key: it has a value in a unique field. -/
def Owns (fields : Fields) (name : String) (document : Document) (key : UniqueKey) : Prop :=
  ∃ field value, IsUnique fields field ∧ document.get? field = some value ∧ value ≠ .null ∧
    key = ⟨name, field, value.toJson.text⟩

theorem Owns.plain {fields : Fields} {name : String} {document : Document} {key : UniqueKey}
    (h : Owns fields name document key) (hname : '\x00' ∉ name.toList) : key.Plain := by
  obtain ⟨field, value, -, -, -, rfl⟩ := h
  exact ⟨hname, Json.null_not_mem_text value.toJson⟩

theorem Owns.collection_eq {fields : Fields} {name : String} {document : Document}
    {key : UniqueKey} (h : Owns fields name document key) : key.collection = name := by
  obtain ⟨field, value, -, -, -, rfl⟩ := h
  rfl

namespace Collection

theorem mem_uniqueFields {collection : Collection} {name : String} :
    name ∈ collection.uniqueFields ↔ IsUnique collection.schema.fields name := by
  constructor
  · intro hmem
    obtain ⟨field, hfield, rfl⟩ := List.mem_map.1 hmem
    obtain ⟨hfield, hunique⟩ := List.mem_filter.1 hfield
    exact ⟨field.2, hfield, hunique⟩
  · intro h
    obtain ⟨field, hfield, hunique⟩ := h
    exact List.mem_map.2 ⟨(name, field), List.mem_filter.2 ⟨hfield, hunique⟩, rfl⟩

private theorem uniqueKey?_eq_some_iff {collection : Collection} {document : Document}
    {field : String} {key : UniqueKey} :
    collection.uniqueKey? document field = some key ↔
      ∃ value, document.get? field = some value ∧ value ≠ .null ∧
        key = ⟨collection.name, field, value.toJson.text⟩ := by
  unfold uniqueKey?
  cases document.get? field with
  | none => simp
  | some value => cases value <;> simp [eq_comm]

theorem mem_uniqueKeys {collection : Collection} {document : Document} {key : UniqueKey} :
    key ∈ collection.uniqueKeys document ↔
      Owns collection.schema.fields collection.name document key := by
  simp only [uniqueKeys, List.mem_filterMap, mem_uniqueFields, uniqueKey?_eq_some_iff]
  constructor
  · intro h
    obtain ⟨field, hunique, value, hvalue, hnull, hkey⟩ := h
    exact ⟨field, value, hunique, hvalue, hnull, hkey⟩
  · intro h
    obtain ⟨field, value, hunique, hvalue, hnull, hkey⟩ := h
    exact ⟨field, hunique, value, hvalue, hnull, hkey⟩

end Collection

/-- Scalars and identifiers are equal exactly if they have the same text. -/
theorem Value.text_eq_iff_same {a b : Value} (ha : a.Atomic) (hb : b.Atomic) :
    a.toJson.text = b.toJson.text ↔ (a == b) = true := by
  constructor
  · intro h
    exact (toJson_eq_iff_same ha hb).1 (Json.text_inj h)
  · intro h
    rw [(toJson_eq_iff_same ha hb).2 h]

/-! ### Exact indexes -/

namespace UniqueIndex

variable {definition : String → Fields}

/-- The index has one entry for every unique value of every document held, and no other. -/
def Exact (definition : String → Fields) (holds : String → Document → Prop) (index : UniqueIndex) :
    Prop :=
  ∀ octets value, index.tree.find? octets = some value ↔
    ∃ name document key, holds name document ∧ Owns (definition name) name document key ∧
      key.octets = octets ∧ document.id.octets = value

/-- In place of the document of an identifier stands another one, or none. The keys that are needed
no longer and those needed now are known. -/
structure Replaces (definition : String → Fields) (holds holds' : String → Document → Prop)
    (name : String) (id : ObjectId) (stored : Option Document) (before now : List UniqueKey) :
    Prop where
  plain : ∀ other document, holds other document → '\x00' ∉ other.toList
  plain_name : '\x00' ∉ name.toList
  holds_iff : ∀ other document, holds' other document ↔
    if other = name ∧ document.id = id then stored = some document else holds other document
  id_eq : ∀ document, stored = some document → document.id = id
  before_iff : ∀ key, key ∈ before ↔
    ∃ document, holds name document ∧ document.id = id ∧ Owns (definition name) name document key
  now_iff : ∀ key, key ∈ now ↔
    ∃ document, stored = some document ∧ Owns (definition name) name document key

namespace Replaces

variable {holds holds' : String → Document → Prop} {index : UniqueIndex} {name other : String}
  {id : ObjectId} {stored : Option Document} {before now : List UniqueKey} {document : Document}
  {key : UniqueKey} {octets : List UInt8}

private theorem exists_of_now (h : Replaces definition holds holds' name id stored before now)
    (hamong : Among octets now) :
    ∃ name document key, holds' name document ∧ Owns (definition name) name document key ∧
      key.octets = octets ∧ document.id.octets = id.octets := by
  obtain ⟨key, hmem, hoctets⟩ := hamong
  obtain ⟨document, hstored, howns⟩ := (h.now_iff key).1 hmem
  have hid : document.id = id := h.id_eq document hstored
  have hholds : holds' name document := by
    rw [h.holds_iff, if_pos ⟨rfl, hid⟩]
    exact hstored
  exact ⟨name, document, key, hholds, howns, hoctets, by rw [hid]⟩

private theorem holds_of_not_before
    (h : Replaces definition holds holds' name id stored before now) (hold : holds other document)
    (howns : Owns (definition other) other document key) (hoctets : key.octets = octets)
    (hbefore : document.id = id → ¬ Among octets before) : holds' other document := by
  rw [h.holds_iff, if_neg]
  · exact hold
  · intro hplace
    obtain ⟨rfl, hid⟩ := hplace
    exact hbefore hid ⟨key, (h.before_iff key).2 ⟨document, hold, hid, howns⟩, hoctets⟩

/-- A document that stays keeps its entry: its keys are neither claimed nor released. -/
private theorem not_among_of_holds (h : Replaces definition holds holds' name id stored before now)
    (hfree : index.Free id now) (hplace : ¬ (other = name ∧ document.id = id))
    (hold : holds other document) (howns : Owns (definition other) other document key)
    (hfind : index.tree.find? key.octets = some document.id.octets) :
    ¬ Among key.octets now ∧
      ¬ (Among key.octets before ∧ index.tree.find? key.octets = some id.octets) := by
  have hbefore : KeysOf name before := by
    intro key hmem
    obtain ⟨held, -, -, howns⟩ := (h.before_iff key).1 hmem
    exact ⟨howns.plain h.plain_name, howns.collection_eq⟩
  have hnow : KeysOf name now := by
    intro key hmem
    obtain ⟨held, -, howns⟩ := (h.now_iff key).1 hmem
    exact ⟨howns.plain h.plain_name, howns.collection_eq⟩
  refine not_among_of_owned hbefore hnow hfree (howns.plain (h.plain _ _ hold)) hfind ?_
  rw [howns.collection_eq]
  exact hplace

end Replaces

/-- Replacing the document of an identifier keeps an index exact, if the keys it needed before are
exchanged for those it needs now. -/
theorem Exact.replace {holds holds' : String → Document → Prop} {index index' : UniqueIndex}
    {name : String} {id : ObjectId} {stored : Option Document} {before now : List UniqueKey}
    (hexact : Exact definition holds index)
    (hreplaces : Replaces definition holds holds' name id stored before now)
    (hfree : index.Free id now)
    (hfind : ∀ octets, index'.tree.find? octets =
      if Among octets now then some id.octets
      else if Among octets before ∧ index.tree.find? octets = some id.octets then none
      else index.tree.find? octets) :
    Exact definition holds' index' := by
  intro octets value
  rw [hfind]
  constructor
  · intro hvalue
    by_cases hnow : Among octets now
    · rw [if_pos hnow] at hvalue
      cases hvalue
      exact hreplaces.exists_of_now hnow
    · rw [if_neg hnow] at hvalue
      by_cases hreleased : Among octets before ∧ index.tree.find? octets = some id.octets
      · rw [if_pos hreleased] at hvalue
        cases hvalue
      · -- The entry was there before, and its document stays: otherwise it had been released.
        rw [if_neg hreleased] at hvalue
        obtain ⟨other, document, key, hold, howns, hoctets, hdocument⟩ :=
          (hexact octets value).1 hvalue
        refine ⟨other, document, key, ?_, howns, hoctets, hdocument⟩
        apply hreplaces.holds_of_not_before hold howns hoctets
        intro hid hbefore
        exact hreleased ⟨hbefore, by rw [hvalue, ← hdocument, hid]⟩
  · intro h
    obtain ⟨other, document, key, hold, howns, hoctets, hdocument⟩ := h
    have hold := (hreplaces.holds_iff other document).1 hold
    by_cases hplace : other = name ∧ document.id = id
    · rw [if_pos hplace] at hold
      obtain ⟨rfl, hid⟩ := hplace
      rw [if_pos ⟨key, (hreplaces.now_iff key).2 ⟨document, hold, howns⟩, hoctets⟩, ← hdocument,
        hid]
    · rw [if_neg hplace] at hold
      subst hoctets
      have hvalue : index.tree.find? key.octets = some document.id.octets :=
        (hexact _ _).2 ⟨other, document, key, hold, howns, rfl, rfl⟩
      obtain ⟨hnow, hbefore⟩ := hreplaces.not_among_of_holds hfree hplace hold howns hvalue
      rw [if_neg hnow, if_neg hbefore, hvalue, hdocument]

end UniqueIndex

end TypedCollections
