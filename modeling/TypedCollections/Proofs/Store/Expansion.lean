import TypedCollections.Proofs.Store.Owners
/-!
# Expanding is not writing

A document that was made by the operations on documents and stores has every field once and its raw
values in ascending order. Expanding one of its fields therefore leaves the fields it is stored with
as they are, in their order, and so it is written as it would be without the expansion.
-/

namespace TypedCollections

/-- A document stands inside a value: it is the value, or it stands inside an item, a member, a field
or the raw value of a field. -/
inductive Document.Within (inner : Document) : Value → Prop
  | itself : Within inner inner.toValue
  | item {items : List Value} {value : Value} (hmem : value ∈ items) (h : Within inner value) :
      Within inner (.array items)
  | member {members : List (String × Value)} {member : String × Value} (hmem : member ∈ members)
      (h : Within inner member.2) : Within inner (.object members)
  | field {id : ObjectId} {fields populated : List (String × Value)} {field : String × Value}
      (hmem : field ∈ fields ∨ field ∈ populated) (h : Within inner field.2) :
      Within inner (.document id fields populated)

namespace Store

/-- Expands a field of a document in place. If that fails, the document stays as it is. -/
def populateInPlace (store : Store) (collection : Collection) (document : Document)
    (field : String) : Except Error Unit × Document :=
  match store.populate collection document field with
  | .ok expanded => (.ok (), expanded)
  | .error error => (.error error, document)

end Store

namespace Document

/-- The documents a program can get hold of: made, changed, read and expanded by the operations on
documents, returned by any store, or taken from inside another document. -/
inductive Obtainable : Document → Prop
  | ofFields (id : ObjectId) {fields : List (String × Value)}
      (hfields : ∀ field ∈ fields, ∀ inner : Document, inner.Within field.2 → Obtainable inner) :
      Obtainable (ofFields id fields)
  | set {document : Document} (name : String) {value : Value} (h : Obtainable document)
      (hvalue : ∀ inner : Document, inner.Within value → Obtainable inner) :
      Obtainable (document.set name value)
  | remove {document : Document} (name : String) (h : Obtainable document) :
      Obtainable (document.remove name)
  | ofJson {json : Json} {document : Document} (h : ofJson json = .ok document) :
      Obtainable document
  | ofOctets {octets : List UInt8} {document : Document} (h : ofOctets octets = .ok document) :
      Obtainable document
  | populated {store : Store} {collection : Collection} {document expanded : Document}
      {field : String} (h : Obtainable document)
      (hpopulate : store.populate collection document field = .ok expanded) : Obtainable expanded
  | inserted {store : Store} {collection : Collection} {now : Nat} {document stored : Document}
      (h : Obtainable document)
      (hinsert : (store.insert collection now document).1 = .ok stored) : Obtainable stored
  | insertedJson {store : Store} {collection : Collection} {now : Nat} {json : Json}
      {stored : Document} (hinsert : (store.insertJson collection now json).1 = .ok stored) :
      Obtainable stored
  | updated {store : Store} {collection : Collection} {now : Nat} {document stored : Document}
      (h : Obtainable document)
      (hupdate : (store.update collection now document).1 = .ok (some stored)) : Obtainable stored
  | found {store : Store} {collection : Collection} {id : ObjectId} {document : Document}
      (h : store.find collection id = .ok (some document)) : Obtainable document
  | listed {store : Store} {collection : Collection} {documents : List Document}
      {document : Document} (h : store.findAll collection = .ok documents)
      (hmem : document ∈ documents) : Obtainable document
  | expanded {store : Store} {collection : Collection} {id : ObjectId} {names : List String}
      {document : Document} (h : store.findExpanded collection id names = .ok (some document)) :
      Obtainable document
  | inside {document inner : Document} (h : Obtainable document)
      (hinner : inner.Within document.toValue) : Obtainable inner

/-- Every field stands once, and the raw values stand in ascending order of names. -/
structure Arranged (document : Document) : Prop where
  distinct : Entries.Distinct document.fields
  ascending : document.populated.Pairwise fun a b => compare a.1 b.1 = .lt

/-- The document and every document inside it is arranged. -/
def Regular (document : Document) : Prop :=
  ∀ inner : Document, inner.Within document.toValue → inner.Arranged

/-! ### Documents inside values -/

theorem Within.trans {inner outer : Document} {value : Value} (h : inner.Within outer.toValue)
    (houter : outer.Within value) : inner.Within value := by
  induction houter with
  | itself => exact h
  | item hmem _ ih => exact .item hmem ih
  | member hmem _ ih => exact .member hmem ih
  | field hmem _ ih => exact .field hmem ih

theorem within_toValue_iff {inner document : Document} :
    inner.Within document.toValue ↔ inner = document ∨
      ∃ field, (field ∈ document.fields ∨ field ∈ document.populated) ∧ inner.Within field.2 := by
  constructor
  · intro h
    generalize hvalue : document.toValue = value at h
    cases h with
    | itself =>
        injection hvalue with hid hfields hpopulated
        obtain ⟨id, fields, populated⟩ := inner
        exact .inl (by rw [Document.mk.injEq]; exact ⟨hid.symm, hfields.symm, hpopulated.symm⟩)
    | item hmem h => cases hvalue
    | member hmem h => cases hvalue
    | field hmem h =>
        injection hvalue with _ hfields hpopulated
        exact .inr ⟨_, by rw [hfields, hpopulated]; exact hmem, h⟩
  · rintro (rfl | ⟨field, hmem, h⟩)
    · exact .itself
    · exact .field hmem h

theorem Regular.arranged {document : Document} (h : document.Regular) : document.Arranged :=
  h document .itself

/-- A document is regular if it is arranged and every document inside its fields and its raw values
is. -/
theorem regular_of {document : Document} (harranged : document.Arranged)
    (h : ∀ field, field ∈ document.fields ∨ field ∈ document.populated →
      ∀ inner : Document, inner.Within field.2 → inner.Arranged) : document.Regular := by
  intro inner hinner
  rcases within_toValue_iff.1 hinner with rfl | ⟨field, hmem, hinner⟩
  · exact harranged
  · exact h field hmem inner hinner

theorem Regular.of_mem {document : Document} (h : document.Regular) {field : String × Value}
    (hmem : field ∈ document.fields ∨ field ∈ document.populated) {inner : Document}
    (hinner : inner.Within field.2) : inner.Arranged :=
  h inner (within_toValue_iff.2 (.inr ⟨field, hmem, hinner⟩))

mutual

/-- No document stands in a value that was read from JSON. -/
theorem not_within_ofJson (inner : Document) : ∀ json : Json, ¬ inner.Within (Value.ofJson json)
  | .null, h => by cases h
  | .bool _, h => by cases h
  | .number _, h => by cases h
  | .string _, h => by cases h
  | .array items, h => by
      rw [Value.ofJson] at h
      cases h with
      | item hmem h => exact not_within_listOfJson inner items _ hmem h
  | .object members, h => by
      rw [Value.ofJson] at h
      split at h
      · cases h
      · cases h with
        | member hmem h => exact not_within_membersOfJson inner members _ hmem h

theorem not_within_listOfJson (inner : Document) : ∀ (items : List Json),
    ∀ value ∈ Value.listOfJson items, ¬ inner.Within value
  | [], _, hmem => by cases hmem
  | item :: rest, value, hmem => by
      rcases List.mem_cons.1 hmem with rfl | hmem
      · exact not_within_ofJson inner item
      · exact not_within_listOfJson inner rest value hmem

theorem not_within_membersOfJson (inner : Document) : ∀ (members : List (String × Json)),
    ∀ member ∈ Value.membersOfJson members, ¬ inner.Within member.2
  | [], _, hmem => by cases hmem
  | (_, value) :: rest, member, hmem => by
      rcases List.mem_cons.1 hmem with rfl | hmem
      · exact not_within_ofJson inner value
      · exact not_within_membersOfJson inner rest member hmem

end

end Document

/-! ### Documents inside checked values -/

namespace Validation

variable {patterns : Patterns} {inner : Document}

mutual

/-- A check adds no documents: one that stands in what it gives back stood in what was checked. -/
theorem within_of_checkType : ∀ {type : FieldType} {options : Options} {value checked : Value},
    checkType patterns type options value = .ok checked → inner.Within checked →
      inner.Within value
  | .scalar _, _, _, _, h, hinner => by
      rw [checkType] at h
      obtain ⟨-, rfl⟩ := checkScalar_eq_ok_iff.1 h
      exact hinner
  | .objectId, _, _, _, h, hinner => by
      rw [checkType] at h
      obtain ⟨id, rfl⟩ := castObjectId_eq_ok h
      cases hinner
  | .nested fields, _, _, _, h, hinner => by
      obtain ⟨members, results, rfl, hfields, rfl⟩ := checkType_nested_eq_ok_iff.1 h
      cases hinner with
      | member hmem hinner =>
          obtain ⟨member, hmember, hwithin⟩ := within_of_checkFields hfields hmem hinner
          exact .member (List.mem_filter.1 hmember).1 hwithin
  | .array element, _, _, _, h, hinner => by
      obtain ⟨items, results, rfl, hitems, rfl⟩ := checkType_array_eq_ok_iff.1 h
      cases hinner with
      | item hmem hinner =>
          obtain ⟨item, hitem, hcheck⟩ := exists_of_mem_right hitems hmem
          exact .item hitem (within_of_checkType hcheck hinner)
  | .map values, _, _, _, h, hinner => by
      obtain ⟨members, results, rfl, hentries, rfl⟩ := checkType_map_eq_ok_iff.1 h
      cases hinner with
      | member hmem hinner =>
          obtain ⟨member, hmember, -, -, hcheck⟩ := exists_of_mem_right hentries hmem
          rcases hcheck with ⟨hnull, -, -⟩ | hcheck
          · rw [hnull] at hinner
            cases hinner
          · exact .member hmember (within_of_checkField hcheck hinner)

theorem within_of_checkField : ∀ {field : FieldOf FieldType} {value checked : Value},
    checkField patterns field value = .ok checked → inner.Within checked → inner.Within value
  | ⟨_, _, _, _⟩, _, _, h, hinner => within_of_checkType h hinner

theorem within_of_checkFields : ∀ {fields : List (String × FieldOf FieldType)}
    {values checked : List (String × Value)} {field : String × Value},
    checkFields patterns fields values = .ok checked → field ∈ checked → inner.Within field.2 →
      ∃ before ∈ values, inner.Within before.2
  | [], _, _, field, h, hmem, hinner => by
      rw [checkFields] at h
      cases h
      exact ⟨field, hmem, hinner⟩
  | (name, declared) :: rest, values, _, _, h, hmem, hinner => by
      obtain ⟨middle, hslot, hrest⟩ := checkFields_cons_eq_ok_iff.1 h
      obtain ⟨before, hbefore, hinner⟩ := within_of_checkFields hrest hmem hinner
      obtain ⟨value, result, hfound, hcheck, rfl⟩ | ⟨-, -, rfl⟩ := checkSlot_eq_ok_iff.1 hslot
      · rcases Entries.mem_write hbefore with rfl | hbefore
        · have hvalue : inner.Within value := within_of_checkField hcheck hinner
          obtain ⟨json, -, rfl⟩ | hgiven := slotValue?_eq_some hfound
          · exact absurd hvalue (Document.not_within_ofJson inner json)
          · exact ⟨_, Entries.mem_of_find? hgiven, hvalue⟩
        · exact ⟨before, hbefore, hinner⟩
      · exact ⟨before, hbefore, hinner⟩

end

end Validation

namespace Document

/-! ### What the operations on documents keep -/

theorem arranged_ofFields (id : ObjectId) (fields : List (String × Value)) :
    (ofFields id fields).Arranged := by
  refine ⟨distinct_ofFields id fields, ?_⟩
  rw [ofFields_eq]
  exact .nil

theorem regular_ofFields (id : ObjectId) {fields : List (String × Value)}
    (h : ∀ field ∈ fields, ∀ inner : Document, inner.Within field.2 → inner.Arranged) :
    (ofFields id fields).Regular := by
  refine regular_of (arranged_ofFields id fields) fun field hmem inner hinner => ?_
  rcases hmem with hmem | hmem
  · exact h field (mem_of_mem_ofFields hmem) inner hinner
  · rw [ofFields_eq] at hmem
    cases hmem

theorem Arranged.set {document : Document} (h : document.Arranged) (name : String)
    (value : Value) : (document.set name value).Arranged := by
  unfold Document.set
  split
  · exact h
  · exact ⟨Entries.distinct_write h.distinct name value,
      SortedMap.sorted_eraseEntry h.ascending name⟩

theorem Arranged.remove {document : Document} (h : document.Arranged) (name : String) :
    (document.remove name).Arranged :=
  ⟨Entries.distinct_remove h.distinct name, SortedMap.sorted_eraseEntry h.ascending name⟩

theorem Arranged.populate {document : Document} (h : document.Arranged) (name : String)
    (loaded : Value) : (document.populate name loaded).Arranged := by
  refine ⟨Entries.distinct_write h.distinct name loaded, ?_⟩
  show (ite _ _ _ : List (String × Value)).Pairwise _
  split
  · exact h.ascending
  · exact SortedMap.sorted_insertEntry h.ascending name _

theorem Regular.set {document : Document} (h : document.Regular) (name : String) {value : Value}
    (hvalue : ∀ inner : Document, inner.Within value → inner.Arranged) :
    (document.set name value).Regular := by
  refine regular_of (h.arranged.set name value) fun field hmem inner hinner => ?_
  unfold Document.set at hmem
  split at hmem
  · exact h.of_mem hmem hinner
  · rcases hmem with hmem | hmem
    · rcases Entries.mem_write hmem with rfl | hmem
      · exact hvalue inner hinner
      · exact h.of_mem (.inl hmem) hinner
    · exact h.of_mem (.inr (SortedMap.mem_eraseEntry hmem)) hinner

theorem Regular.remove {document : Document} (h : document.Regular) (name : String) :
    (document.remove name).Regular := by
  refine regular_of (h.arranged.remove name) fun field hmem inner hinner => ?_
  rcases hmem with hmem | hmem
  · exact h.of_mem (.inl (List.mem_filter.1 hmem).1) hinner
  · exact h.of_mem (.inr (SortedMap.mem_eraseEntry hmem)) hinner

theorem Regular.populate {document : Document} (h : document.Regular) {name : String}
    {value loaded : Value} (hvalue : document.get? name = some value)
    (hloaded : ∀ inner : Document, inner.Within loaded → inner.Arranged) :
    (document.populate name loaded).Regular := by
  refine regular_of (h.arranged.populate name loaded) fun field hmem inner hinner => ?_
  rcases hmem with hmem | hmem
  · rcases Entries.mem_write hmem with rfl | hmem
    · exact hloaded inner hinner
    · exact h.of_mem (.inl hmem) hinner
  · have hmem : field ∈ if document.isPopulated name then document.populated
        else SortedMap.insertEntry document.populated name
          ((document.get? name).getD .null) := hmem
    split at hmem
    · exact h.of_mem (.inr hmem) hinner
    · rcases SortedMap.mem_insertEntry hmem with rfl | hmem
      · rw [hvalue] at hinner
        exact h.of_mem (.inl (Entries.mem_of_find? hvalue)) hinner
      · exact h.of_mem (.inr hmem) hinner

theorem regular_of_ofJson {json : Json} {document : Document} (h : ofJson json = .ok document) :
    document.Regular := by
  unfold ofJson at h
  split at h
  · rename_i members
    split at h
    · cases h
      refine regular_ofFields _ fun field hmem inner hinner => ?_
      exact absurd hinner (not_within_membersOfJson inner members field hmem)
    · cases h
  · cases h

theorem regular_of_ofOctets {octets : List UInt8} {document : Document}
    (h : ofOctets octets = .ok document) : document.Regular := by
  unfold ofOctets at h
  split at h
  · cases h
  · split at h
    · cases h
    · exact regular_of_ofJson h

end Document

namespace Store

/-! ### What the operations on stores give -/

theorem readDocument_eq_ok_iff {octets : List UInt8} {document : Document} :
    readDocument octets = .ok document ↔ Document.ofOctets octets = .ok document := by
  unfold readDocument
  cases Document.ofOctets octets with
  | error fault => simp
  | ok found => simp

/-- What is found is read from the entry under the identifier. -/
theorem ofOctets_of_find {store : Store} {collection : Collection} {id : ObjectId}
    {found : Document} (h : store.find collection id = .ok (some found)) :
    ∃ octets, (store.tree collection.name).find? id.octets = some octets ∧
      Document.ofOctets octets = .ok found := by
  unfold find at h
  split at h
  · cases h
  · rename_i octets htree
    obtain ⟨document, hread, heq⟩ := map_eq_ok_iff.1 h
    cases heq
    exact ⟨octets, htree, readDocument_eq_ok_iff.1 hread⟩

/-- What is read from values one after the other is read from each of them. -/
theorem exists_of_mem_readEach {values : List (List UInt8)} {documents : List Document}
    (h : readEach values = .ok documents) {document : Document} (hmem : document ∈ documents) :
    ∃ octets ∈ values, Document.ofOctets octets = .ok document := by
  induction values generalizing documents with
  | nil =>
      cases h
      cases hmem
  | cons octets rest ih =>
      rw [readEach] at h
      split at h
      · cases h
      · rename_i first hfirst
        obtain ⟨others, hothers, rfl⟩ := map_eq_ok_iff.1 h
        rcases List.mem_cons.1 hmem with rfl | hmem
        · exact ⟨octets, List.mem_cons_self .., readDocument_eq_ok_iff.1 hfirst⟩
        · obtain ⟨value, hvalue, hread⟩ := ih hothers hmem
          exact ⟨value, List.mem_cons_of_mem _ hvalue, hread⟩

theorem regular_of_find {store : Store} {collection : Collection} {id : ObjectId}
    {document : Document} (h : store.find collection id = .ok (some document)) :
    document.Regular := by
  obtain ⟨octets, -, hread⟩ := ofOctets_of_find h
  exact Document.regular_of_ofOctets hread

/-- What takes the place of the items of an array are some of these items and documents that were
found. -/
theorem mem_or_regular_of_loadItems {store : Store} {target : Collection}
    {items loaded : List Value} (h : store.loadItems target items = .ok loaded) :
    ∀ item ∈ loaded, item ∈ items ∨ ∃ found : Document, item = found.toValue ∧ found.Regular := by
  induction items generalizing loaded with
  | nil =>
      cases h
      exact fun item hmem => by cases hmem
  | cons first rest ih =>
      have hrest : ∀ {others : List Value}, store.loadItems target rest = .ok others →
          ∀ item ∈ others, item ∈ first :: rest ∨
            ∃ found : Document, item = found.toValue ∧ found.Regular := by
        intro others hothers item hmem
        exact (ih hothers item hmem).imp_left (List.mem_cons_of_mem _)
      cases first with
      | objectId id =>
          rw [loadItems] at h
          split at h
          · cases h
          · rename_i found hfind
            obtain ⟨others, hothers, rfl⟩ := map_eq_ok_iff.1 h
            intro item hmem
            rcases List.mem_cons.1 hmem with rfl | hmem
            · exact .inr ⟨found, rfl, regular_of_find hfind⟩
            · exact hrest hothers item hmem
          · exact hrest h
      | document id fields populated =>
          rw [loadItems] at h
          obtain ⟨others, hothers, rfl⟩ := map_eq_ok_iff.1 h
          intro item hmem
          rcases List.mem_cons.1 hmem with rfl | hmem
          · exact .inl (List.mem_cons_self ..)
          · exact hrest hothers item hmem
      | _ => exact hrest h

/-- What takes the place of a value is loaded from the target, or stood in the value before. -/
theorem regular_of_loadReference {store : Store} {collection target : Collection} {field : String}
    {value? : Option Value} {loaded : Value}
    (h : store.loadReference collection target field value? = .ok (some loaded)) :
    ∃ value, value? = some value ∧ ((∀ inner : Document, inner.Within value → inner.Arranged) →
      ∀ inner : Document, inner.Within loaded → inner.Arranged) := by
  unfold loadReference at h
  split at h
  · cases h
  · cases h
  · cases h
  · rename_i id
    obtain ⟨found, hfind, heq⟩ := map_eq_ok_iff.1 h
    cases heq
    refine ⟨_, rfl, fun _ inner hinner => ?_⟩
    cases found with
    | none => cases hinner
    | some document => exact regular_of_find hfind inner hinner
  · rename_i items
    obtain ⟨others, hitems, heq⟩ := map_eq_ok_iff.1 h
    cases heq
    refine ⟨_, rfl, fun harray inner hinner => ?_⟩
    cases hinner with
    | item hmem hinner =>
        rcases mem_or_regular_of_loadItems hitems _ hmem with hmem | ⟨found, rfl, hregular⟩
        · exact harray inner (.item hmem hinner)
        · exact hregular inner hinner
  · cases h

/-- Only references to registered collections are expanded. A field that is expanded already stays as
it is, and for any other one what is loaded, if anything is, takes the place of the value. -/
theorem exists_of_populate {store : Store} {collection : Collection} {document expanded : Document}
    {field : String} (h : store.populate collection document field = .ok expanded) :
    ∃ name target, collection.reference? field = some name ∧ store.collection? name = some target ∧
      (document.isPopulated field = true ∧ expanded = document ∨
        document.isPopulated field = false ∧ ∃ loaded?,
          store.loadReference collection target field (document.get? field) = .ok loaded? ∧
            expanded = (loaded?.map (document.populate field)).getD document) := by
  unfold Store.populate at h
  cases hreference : collection.reference? field with
  | none =>
      rw [hreference] at h
      cases h
  | some name =>
      simp only [hreference] at h
      cases htarget : store.collection? name with
      | none =>
          rw [htarget] at h
          cases h
      | some target =>
          simp only [htarget] at h
          refine ⟨name, target, rfl, htarget, ?_⟩
          cases hpopulated : document.isPopulated field with
          | true =>
              rw [if_pos hpopulated] at h
              cases h
              exact .inl ⟨rfl, rfl⟩
          | false =>
              rw [if_neg (Bool.eq_false_iff.1 hpopulated)] at h
              obtain ⟨loaded?, hloaded, rfl⟩ := map_eq_ok_iff.1 h
              refine .inr ⟨rfl, loaded?, hloaded, ?_⟩
              cases loaded? <;> rfl

/-- Expanding leaves a document as it is, or it puts what was loaded in the place of a value. -/
theorem populate_cases {store : Store} {collection : Collection} {document expanded : Document}
    {field : String} (h : store.populate collection document field = .ok expanded) :
    expanded = document ∨ ∃ value loaded, document.get? field = some value ∧
      expanded = document.populate field loaded ∧
      ((∀ inner : Document, inner.Within value → inner.Arranged) →
        ∀ inner : Document, inner.Within loaded → inner.Arranged) := by
  obtain ⟨-, target, -, -, ⟨-, rfl⟩ | ⟨-, loaded?, hloaded, rfl⟩⟩ := exists_of_populate h
  · exact .inl rfl
  · cases loaded? with
    | none => exact .inl rfl
    | some loaded =>
        obtain ⟨value, hvalue, hregular⟩ := regular_of_loadReference hloaded
        exact .inr ⟨value, loaded, hvalue, rfl, hregular⟩

theorem regular_of_populate {store : Store} {collection : Collection}
    {document expanded : Document} {field : String} (hdocument : document.Regular)
    (h : store.populate collection document field = .ok expanded) : expanded.Regular := by
  obtain rfl | ⟨value, loaded, hvalue, rfl, hloaded⟩ := populate_cases h
  · exact hdocument
  · refine hdocument.populate hvalue (hloaded fun inner hinner => ?_)
    exact hdocument.of_mem (.inl (Entries.mem_of_find? hvalue)) hinner

theorem regular_of_populateEach {store : Store} {collection : Collection} {names : List String}
    {document expanded : Document} (hdocument : document.Regular)
    (h : store.populateEach collection document names = .ok expanded) : expanded.Regular := by
  induction names generalizing document with
  | nil =>
      cases h
      exact hdocument
  | cons field rest ih =>
      rw [populateEach] at h
      split at h
      · cases h
      · rename_i next hnext
        exact ih (regular_of_populate hdocument hnext) h

theorem regular_of_findExpanded {store : Store} {collection : Collection} {id : ObjectId}
    {names : List String} {document : Document}
    (h : store.findExpanded collection id names = .ok (some document)) : document.Regular := by
  unfold findExpanded at h
  split at h
  · cases h
  · cases h
  · rename_i found hfind
    obtain ⟨expanded, hexpanded, heq⟩ := map_eq_ok_iff.1 h
    cases heq
    exact regular_of_populateEach (regular_of_find hfind) hexpanded

/-- What is written of a regular document is regular. -/
theorem regular_of_write {store : Store} {collection : Collection} {now : Nat}
    {previous : Option Document} {document stored : Document} (hdocument : document.Regular)
    (hprevious : ∀ other, previous = some other → other.Regular)
    (h : (store.write collection now previous document).1 = .ok stored) : stored.Regular := by
  obtain ⟨checked, unique, events, hcheck, rfl, -⟩ := exists_put_of_write h
  have hstored : ∀ field ∈ document.storedFields, ∀ inner : Document, inner.Within field.2 →
      inner.Arranged := by
    intro field hmem inner hinner
    obtain ⟨before, hbefore, rfl⟩ := List.mem_map.1 hmem
    cases hraw : document.populatedKeys? before.1 with
    | none =>
        rw [hraw] at hinner
        exact hdocument.of_mem (.inl hbefore) hinner
    | some raw =>
        rw [hraw] at hinner
        exact hdocument.of_mem (.inr (SortedMap.mem_of_lookup hraw)) hinner
  have hstamped : ∀ field ∈ collection.stamp now previous document.storedFields,
      ∀ inner : Document, inner.Within field.2 → inner.Arranged := by
    intro field hmem inner hinner
    unfold Collection.stamp at hmem
    split at hmem
    · rcases Entries.mem_write hmem with rfl | hmem
      · cases hinner
      · rcases Entries.mem_write hmem with rfl | hmem
        · cases hcreated : previous.bind (·.get? createdAt) with
          | none =>
              rw [hcreated] at hinner
              cases hinner
          | some value =>
              obtain ⟨other, hother, hvalue⟩ := Option.bind_eq_some_iff.1 hcreated
              rw [hcreated] at hinner
              exact (hprevious other hother).of_mem (.inl (Entries.mem_of_find? hvalue)) hinner
        · exact hstored field hmem inner hinner
    · exact hstored field hmem inner hinner
  refine Document.regular_ofFields _ fun field hmem inner hinner => ?_
  obtain ⟨before, hbefore, hinner⟩ := Validation.within_of_checkFields
    (Collection.check_eq_ok_iff.1 hcheck) hmem hinner
  exact hstamped before (List.mem_filter.1 hbefore).1 inner hinner

theorem regular_of_insert {store : Store} {collection : Collection} {now : Nat}
    {document stored : Document} (hdocument : document.Regular)
    (h : (store.insert collection now document).1 = .ok stored) : stored.Regular :=
  regular_of_write hdocument (fun _ h => by cases h) (exists_write_of_insert h).1

end Store

namespace Document

/-- Every document a program can get hold of is regular. -/
theorem Obtainable.regular {document : Document} (h : document.Obtainable) : document.Regular := by
  induction h with
  | ofFields id _ ih =>
      exact regular_ofFields id fun field hmem inner hinner => (ih field hmem inner hinner).arranged
  | set name _ _ ih ihvalue =>
      exact ih.set name fun inner hinner => (ihvalue inner hinner).arranged
  | remove name _ ih => exact ih.remove name
  | ofJson h => exact regular_of_ofJson h
  | ofOctets h => exact regular_of_ofOctets h
  | populated _ hpopulate ih => exact Store.regular_of_populate ih hpopulate
  | inserted _ hinsert ih => exact Store.regular_of_insert ih hinsert
  | insertedJson hinsert =>
      obtain ⟨members, id, generator, -, hinsert, -⟩ := Store.exists_insert_of_insertJson hinsert
      refine Store.regular_of_insert (regular_ofFields id fun field hmem inner hinner => ?_) hinsert
      exact absurd hinner (not_within_membersOfJson inner members field hmem)
  | updated _ hupdate ih =>
      obtain ⟨previous, hfind, hwrite, -⟩ := Store.exists_write_of_update hupdate
      refine Store.regular_of_write ih ?_ hwrite
      rintro _ ⟨⟩
      exact Store.regular_of_find hfind
  | found h => exact Store.regular_of_find h
  | listed h hmem =>
      obtain ⟨octets, -, hread⟩ := Store.exists_of_mem_readEach h hmem
      exact regular_of_ofOctets hread
  | expanded h => exact Store.regular_of_findExpanded h
  | inside _ hinner ih => exact fun inner hwithin => ih inner (hwithin.trans hinner)

/-! ### The stored form -/

theorem populatedKeys?_populate {document : Document} (h : document.Arranged) {name : String}
    {value : Value} (hvalue : document.get? name = some value) (loaded : Value) (other : String) :
    (document.populate name loaded).populatedKeys? other
      = if other = name then some ((document.populatedKeys? name).getD value)
        else document.populatedKeys? other := by
  have hpopulated : document.isPopulated name = (document.populatedKeys? name).isSome := rfl
  show SortedMap.lookup (if document.isPopulated name then document.populated
    else SortedMap.insertEntry document.populated name ((document.get? name).getD .null)) other = _
  rw [hpopulated, hvalue]
  cases hraw : document.populatedKeys? name with
  | some raw =>
      by_cases hother : other = name
      · rw [if_pos hother, hother]
        exact hraw
      · rw [if_neg hother]
        rfl
  | none =>
      have hfind : SortedMap.lookup (SortedMap.insertEntry document.populated name value) other
          = if name = other then some value else document.populatedKeys? other :=
        SortedMap.find?_insert ⟨document.populated, h.ascending⟩ name other value
      by_cases hother : other = name
      · rw [if_pos hother]
        rw [if_pos hother.symm] at hfind
        exact hfind
      · rw [if_neg hother]
        rw [if_neg fun h => hother h.symm] at hfind
        exact hfind

/-- Expanding a field does not change the fields a document is stored with. -/
theorem storedFields_populate {document : Document} (h : document.Arranged) {name : String}
    {value : Value} (hvalue : document.get? name = some value) (loaded : Value) :
    (document.populate name loaded).storedFields = document.storedFields := by
  have hraw := populatedKeys?_populate h hvalue loaded
  have hfields : (document.populate name loaded).fields
      = Entries.write document.fields name loaded := rfl
  unfold storedFields
  rw [hfields]
  apply Entries.map_write h.distinct hvalue
  · simp only [hraw, if_true, Option.getD_some]
  · intro field hne
    simp only [hraw, if_neg hne]

end Document

namespace Store

variable {store : Store} {collection : Collection}

@[simp] theorem id_populateInPlace (document : Document) (field : String) :
    (store.populateInPlace collection document field).2.id = document.id := by
  unfold populateInPlace
  cases h : store.populate collection document field with
  | error error => rfl
  | ok expanded =>
      obtain rfl | ⟨value, loaded, -, rfl, -⟩ := populate_cases h
      · rfl
      · rfl

theorem storedFields_populateInPlace {document : Document} (h : document.Arranged)
    (field : String) :
    (store.populateInPlace collection document field).2.storedFields = document.storedFields := by
  unfold populateInPlace
  cases hpopulate : store.populate collection document field with
  | error error => rfl
  | ok expanded =>
      obtain rfl | ⟨value, loaded, hvalue, rfl, -⟩ := populate_cases hpopulate
      · rfl
      · exact Document.storedFields_populate h hvalue loaded

theorem regular_populateInPlace {document : Document} (h : document.Regular) (field : String) :
    (store.populateInPlace collection document field).2.Regular := by
  unfold populateInPlace
  cases hpopulate : store.populate collection document field with
  | error error => exact h
  | ok expanded => exact regular_of_populate h hpopulate

/-- A write looks at the identifier of a document and at the fields it is stored with. -/
theorem write_of_stored_eq {document other : Document} (hid : other.id = document.id)
    (hfields : other.storedFields = document.storedFields) (now : Nat)
    (previous : Option Document) :
    store.write collection now previous other = store.write collection now previous document := by
  unfold write
  rw [hid, hfields]

theorem insert_of_stored_eq {document other : Document} (hid : other.id = document.id)
    (hfields : other.storedFields = document.storedFields) (now : Nat) :
    store.insert collection now other = store.insert collection now document := by
  unfold insert
  rw [write_of_stored_eq hid hfields, hid]

theorem update_of_stored_eq {document other : Document} (hid : other.id = document.id)
    (hfields : other.storedFields = document.storedFields) (now : Nat) :
    store.update collection now other = store.update collection now document := by
  unfold update
  simp only [hid, write_of_stored_eq hid hfields]

/-! ### Sequences of expansions -/

/-- A call that expands a field of a document by what a store holds. -/
structure Expansion where
  store : Store
  collection : Collection
  field : String

/-- The document after expansions, one after the other, whether they succeed or not. -/
def expandEach (document : Document) (expansions : List Expansion) : Document :=
  expansions.foldl (fun document expansion =>
    (expansion.store.populateInPlace expansion.collection document expansion.field).2) document

/-- Expansions change neither the identifier of a document nor the fields it is stored with. -/
theorem stored_expandEach {document : Document} (h : document.Regular)
    (expansions : List Expansion) :
    (expandEach document expansions).id = document.id ∧
      (expandEach document expansions).storedFields = document.storedFields := by
  induction expansions generalizing document with
  | nil => exact ⟨rfl, rfl⟩
  | cons expansion rest ih =>
      obtain ⟨hid, hfields⟩ := ih (regular_populateInPlace h expansion.field)
      exact ⟨hid.trans (id_populateInPlace document expansion.field),
        hfields.trans (storedFields_populateInPlace h.arranged expansion.field)⟩

/-- Expanding a field, whether it succeeds or not and whatever the store holds, leaves the fields a
document is stored with as they are, in their order, and a failure leaves the document as it is. So
after any expansions a document is inserted and updated as it would have been before them. -/
theorem expansion_keeps_stored_form {document : Document} (h : document.Obtainable) :
    (∀ (store : Store) (collection : Collection) (field : String),
      (store.populateInPlace collection document field).2.storedFields = document.storedFields ∧
      ∀ error, (store.populateInPlace collection document field).1 = .error error →
        (store.populateInPlace collection document field).2 = document) ∧
    ∀ (expansions : List Expansion) (store : Store) (collection : Collection) (now : Nat),
      store.insert collection now (expandEach document expansions)
          = store.insert collection now document ∧
        store.update collection now (expandEach document expansions)
          = store.update collection now document := by
  have hregular := h.regular
  refine ⟨fun store collection field => ⟨?_, ?_⟩, fun expansions store collection now => ?_⟩
  · exact storedFields_populateInPlace hregular.arranged field
  · intro error herror
    unfold populateInPlace at herror ⊢
    cases hpopulate : store.populate collection document field with
    | ok expanded =>
        rw [hpopulate] at herror
        cases herror
    | error fault => rfl
  · obtain ⟨hid, hfields⟩ := stored_expandEach hregular expansions
    exact ⟨insert_of_stored_eq hid hfields now, update_of_stored_eq hid hfields now⟩

end Store

/-! ### A team that is expanded -/

namespace Sample

/-- Teams list their members. -/
def teams : Collection :=
  let people : Field := { type := .array .objectId, required := false, reference := some "members" }
  ⟨"teams", "db", { fields := [("people", people)], timestamps := false }, []⟩

/-- A team of the first member and of one who is gone. -/
def team : Document :=
  (Document.ofFields (ident 7) []).set "people" (.array [.objectId (ident 1), .objectId (ident 9)])

theorem obtainable_team : team.Obtainable := by
  have hempty : (Document.ofFields (ident 7) []).Obtainable :=
    .ofFields (ident 7) fun field hmem => by cases hmem
  refine hempty.set "people" fun inner hinner => ?_
  cases hinner with
  | item hmem hinner =>
      simp only [List.mem_cons, List.not_mem_nil, or_false] at hmem
      rcases hmem with rfl | rfl
      · cases hinner
      · cases hinner

theorem wellFormed_team : team.WellFormed := by
  have hteam : team = ⟨ident 7, [("people", .array [.objectId (ident 1), .objectId (ident 9)])], []⟩ :=
    rfl
  rw [hteam]
  refine ⟨?_, ?_, ?_, ?_⟩
  · simp [Entries.names, idField]
  · simp [Entries.Distinct, Entries.names]
  · simp [Value.WellFormed, Value.WellFormedList]
  · simp

theorem exists_of_any_join {result : Except Error (Option Document)} {check : Document → Bool}
    (h : result.toOption.join.any check = true) :
    ∃ document, result = .ok (some document) ∧ check document = true := by
  cases result with
  | error error => cases h
  | ok found =>
      cases found with
      | none => cases h
      | some document => exact ⟨document, rfl, h⟩

/-- The store of the members expands the people of the team. -/
def introduction : Store.Expansion :=
  ⟨(Store.fresh "db" generator).run requests, teams, "people"⟩

end Sample

namespace Store

theorem stored_form_of_expanded_team :
    (expandEach Sample.team [Sample.introduction]).isPopulated "people" = true ∧
      (Sample.introduction.store.populateInPlace Sample.teams Sample.team "people").2.storedFields
        = Sample.team.storedFields ∧
      Sample.introduction.store.insert Sample.teams 0 (expandEach Sample.team [Sample.introduction])
        = Sample.introduction.store.insert Sample.teams 0 Sample.team := by
  obtain ⟨hstored, hwritten⟩ := expansion_keeps_stored_form Sample.obtainable_team
  exact ⟨by decide +kernel, (hstored _ _ _).1, (hwritten [Sample.introduction] _ _ 0).1⟩

end Store

end TypedCollections
