import TypedCollections.Proofs.Store.Consistency
/-!
# Writes and deletions

What one write does: it fails and the store only reports events, or the fields pass the check, the
document takes over the keys it needs, and its octets stand under its identifier. Insertions and
updates that succeed are one write. A deletion takes away one entry and releases its keys.
-/

namespace TypedCollections

variable {definition : String → Fields} {good : String → Document → Prop} {store : Store}

@[simp] theorem Document.id_ofFields (id : ObjectId) (fields : List (String × Value)) :
    (ofFields id fields).id = id := by
  rw [ofFields_eq]

namespace Store

/-- What a write does: it fails exactly if the check fails or another document owns a unique value,
and then only reports events. -/
theorem write_cases (store : Store) (collection : Collection) (now : Nat)
    (previous : Option Document) (document : Document) :
    (∃ error events, store.write collection now previous document
        = (.error error, store.reportEach events) ∧
      ∀ checked, collection.check (collection.stamp now previous document.storedFields) = .ok checked →
        ¬ store.unique.Free document.id
          (collection.uniqueKeys (Document.ofFields document.id checked))) ∨
    ∃ checked unique events,
      store.write collection now previous document
        = (.ok (Document.ofFields document.id checked),
            ({ store.reportEach events with unique }).put collection
              (Document.ofFields document.id checked)) ∧
      collection.check (collection.stamp now previous document.storedFields) = .ok checked ∧
      store.unique.Free document.id
        (collection.uniqueKeys (Document.ofFields document.id checked)) ∧
      store.unique.exchange document.id ((previous.map collection.uniqueKeys).getD [])
        (collection.uniqueKeys (Document.ofFields document.id checked)) = (.ok (), unique) := by
  unfold write
  simp only [Document.id_ofFields, reportEach]
  cases hcheck : collection.check (collection.stamp now previous document.storedFields) with
  | error error => exact .inl ⟨_, _, rfl, fun checked h => by cases h⟩
  | ok checked =>
      simp only
      by_cases hfree : store.unique.Free document.id
          (collection.uniqueKeys (Document.ofFields document.id checked))
      · have hok := (UniqueIndex.exchange_of_free ((previous.map collection.uniqueKeys).getD [])
          hfree).1
        cases hexchange : store.unique.exchange document.id
            ((previous.map collection.uniqueKeys).getD [])
            (collection.uniqueKeys (Document.ofFields document.id checked)) with
        | mk result unique =>
            rw [hexchange] at hok
            cases hok
            exact .inr ⟨checked, unique, _, rfl, rfl, hfree, hexchange⟩
      · obtain ⟨error, hexchange⟩ := UniqueIndex.exchange_of_owned
          ((previous.map collection.uniqueKeys).getD []) hfree
        rw [hexchange]
        refine .inl ⟨error, _, rfl, ?_⟩
        rintro _ ⟨⟩
        exact hfree

/-- What a write that succeeds does: the fields passed the check, the document made of them took over
its keys from the one before, and it was put. -/
theorem exists_put_of_write {store : Store} {collection : Collection} {now : Nat}
    {previous : Option Document} {document stored : Document}
    (h : (store.write collection now previous document).1 = .ok stored) :
    ∃ checked unique events,
      collection.check (collection.stamp now previous document.storedFields) = .ok checked ∧
      stored = Document.ofFields document.id checked ∧
      (store.write collection now previous document).2
        = ({ store.reportEach events with unique }).put collection stored ∧
      store.unique.Free document.id (collection.uniqueKeys stored) ∧
      store.unique.exchange document.id ((previous.map collection.uniqueKeys).getD [])
        (collection.uniqueKeys stored) = (.ok (), unique) := by
  obtain ⟨error, events, hwrite, -⟩ | ⟨checked, unique, events, hwrite, hcheck, hfree, hexchange⟩ :=
    write_cases store collection now previous document
  · rw [hwrite] at h
    cases h
  · rw [hwrite] at h ⊢
    cases h
    exact ⟨checked, unique, events, hcheck, rfl, rfl, hfree, hexchange⟩

/-! ### What a write puts -/

/-- A write of what passes the check succeeds, if no other document owns one of its unique values. -/
theorem exists_write_of_check {store : Store} {collection : Collection} {now : Nat}
    {previous : Option Document} {document : Document} {checked : List (String × Value)}
    (hcheck : collection.check (collection.stamp now previous document.storedFields) = .ok checked)
    (hfree : store.unique.Free document.id
      (collection.uniqueKeys (Document.ofFields document.id checked))) :
    ∃ unique events, store.write collection now previous document
        = (.ok (Document.ofFields document.id checked),
            ({ store.reportEach events with unique }).put collection
              (Document.ofFields document.id checked)) ∧
      store.unique.exchange document.id ((previous.map collection.uniqueKeys).getD [])
        (collection.uniqueKeys (Document.ofFields document.id checked)) = (.ok (), unique) := by
  obtain ⟨error, events, -, hnot⟩ | ⟨checked', unique, events, hwrite, hcheck', -, hexchange⟩ :=
    write_cases store collection now previous document
  · exact absurd hfree (hnot checked hcheck)
  · rw [hcheck] at hcheck'
    cases hcheck'
    exact ⟨unique, events, hwrite, hexchange⟩

theorem tree_put (store : Store) (collection : Collection) (document : Document) (name : String) :
    (store.put collection document).tree name =
      if collection.name = name then
        (store.tree collection.name).insert document.id.octets document.toOctets
      else store.tree name :=
  tree_setTree store collection.name name _

theorem find?_put (store : Store) (collection : Collection) (document : Document) (name : String)
    (key : List UInt8) :
    ((store.put collection document).tree name).find? key =
      if name = collection.name ∧ key = document.id.octets then some document.toOctets
      else (store.tree name).find? key := by
  rw [tree_put]
  by_cases hname : collection.name = name
  · subst hname
    rw [if_pos rfl, SortedMap.find?_insert]
    by_cases hkey : document.id.octets = key
    · simp [hkey]
    · have hkey' : ¬ key = document.id.octets := fun h => hkey h.symm
      simp [hkey, hkey']
  · have hname' : ¬ name = collection.name := fun h => hname h.symm
    simp [hname, hname']

/-- A document that was written stands under its identifier. -/
theorem find?_of_write {collection : Collection} {now : Nat} {previous : Option Document}
    {document stored : Document} (h : (store.write collection now previous document).1 = .ok stored) :
    ((store.write collection now previous document).2.tree collection.name).find? stored.id.octets
      = some stored.toOctets := by
  obtain ⟨checked, unique, events, -, -, hafter, -⟩ := exists_put_of_write h
  rw [hafter, find?_put, if_pos ⟨rfl, rfl⟩]

/-- Where one document was put, its collection holds what is read of it under its identifier. -/
theorem holds_of_find?_eq {other : Store} {place : String} {document : Document}
    (hfind : ∀ name key, (other.tree name).find? key =
      if name = place ∧ key = document.id.octets then some document.toOctets
      else (store.tree name).find? key) (name : String) (found : Document) :
    other.Holds name found ↔
      if name = place ∧ found.id = document.id then
        Document.ofOctets document.toOctets = .ok found
      else store.Holds name found := by
  unfold Holds
  simp only [hfind]
  by_cases hname : name = place
  · by_cases hid : found.id = document.id
    · simp [hname, hid]
    · have hoctets : ¬ found.id.octets = document.id.octets := fun h => hid (ObjectId.ext_octets h)
      simp [hid, hoctets]
  · simp [hname]

end Store

/-! ### The fields of a write -/

namespace Collection

theorem distinct_stamp (collection : Collection) (now : Nat) (previous : Option Document)
    {fields : List (String × Value)} (h : Entries.Distinct fields) :
    Entries.Distinct (collection.stamp now previous fields) := by
  unfold stamp
  split
  · exact Entries.distinct_write (Entries.distinct_write h _ _) _ _
  · exact h

theorem wellFormed_stamp (collection : Collection) (now : Nat) {previous : Option Document}
    {fields : List (String × Value)} (hdistinct : Entries.Distinct fields)
    (hvalues : ∀ field ∈ fields, field.2.WellFormed)
    (hprevious : ∀ document, previous = some document → document.WellFormed) :
    Entries.Distinct (collection.stamp now previous fields) ∧
      ∀ field ∈ collection.stamp now previous fields, field.2.WellFormed := by
  refine ⟨distinct_stamp collection now previous hdistinct, ?_⟩
  unfold stamp
  split
  · have hcreated : (((previous.bind (·.get? createdAt))).getD
        (Value.number (Number.ofInt now))).WellFormed := by
      cases hfound : previous.bind (·.get? createdAt) with
      | none => trivial
      | some value =>
          obtain ⟨document, rfl, hvalue⟩ := Option.bind_eq_some_iff.1 hfound
          exact (hprevious document rfl).values _ (Entries.mem_of_find? hvalue)
    intro field hmem
    rcases Entries.mem_write hmem with rfl | hmem
    · trivial
    · rcases Entries.mem_write hmem with rfl | hmem
      · exact hcreated
      · exact hvalues field hmem
  · exact hvalues

theorem check_eq_ok_iff {collection : Collection} {fields checked : List (String × Value)} :
    collection.check fields = .ok checked ↔
      Validation.validate collection.patterns collection.schema.fields fields = .ok checked := by
  unfold check
  cases Validation.validate collection.patterns collection.schema.fields fields <;> simp

/-- The document made of checked fields. -/
theorem checked_of_check {collection : Collection} {declared : Fields} {id : ObjectId}
    {fields checked : List (String × Value)} (hdefinition : declared.WellFormed)
    (hfields : collection.schema.fields = declared)
    (hpatterns : Patterns.ofFields declared = .ok collection.patterns)
    (hdistinct : Entries.Distinct fields) (hvalues : ∀ field ∈ fields, field.2.WellFormed)
    (h : collection.check fields = .ok checked) :
    (Document.ofFields id checked).Checked declared := by
  have hvalidate := check_eq_ok_iff.1 h
  rw [hfields] at hvalidate
  obtain ⟨hdistinct, hwell⟩ := Validation.wellFormed_of_checkFields hdefinition.each
    (Validation.distinct_keepDeclared declared hdistinct)
    (Validation.wellFormed_keepDeclared declared (Value.wellFormedMembers_iff.2 hvalues)) hvalidate
  refine ⟨Document.wellFormed_ofFields id (Value.wellFormedMembers_iff.1 hwell), ?_, ?_⟩
  · rw [Document.ofFields_eq]
  · refine ⟨collection.patterns, checked, hpatterns,
      Validation.conforms_of_validate hdefinition hvalidate, ?_⟩
    rw [Document.ofFields_of_distinct hdistinct]

end Collection

/-! ### Insertions and updates -/

namespace Store

/-- A collection that has no entry under an identifier holds no document of it. -/
theorem not_holds_of_find? {name : String} {id : ObjectId}
    (h : (store.tree name).find? id.octets = none) {document : Document} (hid : document.id = id) :
    ¬ store.Holds name document := by
  intro h
  obtain ⟨octets, hfind, -⟩ := h
  rw [hid, h] at hfind
  cases hfind

@[simp] theorem reportEach_nil (store : Store) : store.reportEach [] = store := by
  simp [reportEach]

/-- An insertion is a write in the place of no document, if the identifier is not taken. -/
theorem insert_of_not_has {collection : Collection} (now : Nat) {document : Document}
    (h : (store.tree collection.name).has document.id.octets = false) :
    ∃ events, store.insert collection now document =
      ((store.write collection now none document).1,
        (store.write collection now none document).2.reportEach events) := by
  unfold insert
  rw [h]
  cases store.write collection now none document with
  | mk result after =>
      cases result with
      | error error => exact ⟨[], by simp⟩
      | ok stored => exact ⟨_, rfl⟩

/-- An update is a write in the place of the document found. -/
theorem update_of_find {collection : Collection} (now : Nat) {document previous : Document}
    (h : store.find collection document.id = .ok (some previous)) :
    ∃ events, store.update collection now document =
      ((store.write collection now (some previous) document).1.map some,
        (store.write collection now (some previous) document).2.reportEach events) := by
  unfold update
  simp only [h]
  cases store.write collection now (some previous) document with
  | mk result after =>
      cases result with
      | error error => exact ⟨[], by simp [Except.map]⟩
      | ok stored => exact ⟨_, rfl⟩

/-- A document that was inserted was written in the place of no document. -/
theorem exists_write_of_insert {collection : Collection} {now : Nat} {document stored : Document}
    (h : (store.insert collection now document).1 = .ok stored) :
    (store.write collection now none document).1 = .ok stored ∧
      ∃ events, (store.insert collection now document).2
        = (store.write collection now none document).2.reportEach events := by
  cases htaken : (store.tree collection.name).has document.id.octets with
  | true =>
      unfold Store.insert at h
      rw [htaken] at h
      cases h
  | false =>
      obtain ⟨events, hinsert⟩ := insert_of_not_has now htaken
      rw [hinsert] at h ⊢
      exact ⟨h, events, rfl⟩

/-- A document that was inserted has an identifier under which nothing stood. -/
theorem find_of_insert {collection : Collection} {now : Nat} {document stored : Document}
    (h : (store.insert collection now document).1 = .ok stored) :
    store.find collection document.id = .ok none := by
  cases htaken : (store.tree collection.name).has document.id.octets with
  | true =>
      unfold Store.insert at h
      rw [htaken] at h
      cases h
  | false =>
      have hfind : (store.tree collection.name).find? document.id.octets = none := by
        simpa [SortedMap.has] using htaken
      unfold Store.find
      rw [hfind]

/-- A document that was updated was written in the place of the document found. -/
theorem exists_write_of_update {collection : Collection} {now : Nat} {document stored : Document}
    (h : (store.update collection now document).1 = .ok (some stored)) :
    ∃ previous, store.find collection document.id = .ok (some previous) ∧
      (store.write collection now (some previous) document).1 = .ok stored ∧
      ∃ events, (store.update collection now document).2
        = (store.write collection now (some previous) document).2.reportEach events := by
  cases hfind : store.find collection document.id with
  | error error =>
      unfold Store.update at h
      rw [hfind] at h
      cases h
  | ok found =>
      cases found with
      | none =>
          unfold Store.update at h
          rw [hfind] at h
          cases h
      | some previous =>
          obtain ⟨events, hupdate⟩ := update_of_find now hfind
          rw [hupdate] at h ⊢
          obtain ⟨other, hother, heq⟩ := map_eq_ok_iff.1 h
          cases heq
          exact ⟨previous, rfl, hother, events, rfl⟩

/-- Choosing an identifier at most draws one from the generator. -/
theorem exists_chooseId_eq (store : Store) (now : Nat) (members : List (String × Json)) :
    ∃ generator, (store.chooseId now members).2 = { store with generator } := by
  unfold chooseId
  split
  · exact ⟨store.generator, rfl⟩
  · split
    · exact ⟨store.generator, rfl⟩
    · exact ⟨store.generator, rfl⟩
  · exact ⟨_, rfl⟩

/-- A document that was inserted as JSON was inserted as the document of its members, after an
identifier was chosen. -/
theorem exists_insert_of_insertJson {collection : Collection} {now : Nat} {json : Json}
    {stored : Document} (h : (store.insertJson collection now json).1 = .ok stored) :
    ∃ members id generator, json = .object members ∧
      (({ store with generator } : Store).insert collection now
        (Document.ofFields id (Value.membersOfJson members))).1 = .ok stored ∧
      (store.insertJson collection now json).2 = (({ store with generator } : Store).insert collection
        now (Document.ofFields id (Value.membersOfJson members))).2 := by
  unfold Store.insertJson at h ⊢
  cases json with
  | object members =>
      obtain ⟨generator, hgenerator⟩ := exists_chooseId_eq store now members
      simp only at h ⊢
      cases hchosen : store.chooseId now members with
      | mk result after =>
          rw [hchosen] at h hgenerator
          obtain rfl : after = { store with generator } := hgenerator
          cases result with
          | error error => cases h
          | ok id => exact ⟨members, id, generator, rfl, h, rfl⟩
  | _ => cases h

/-- What a conforming store finds under an identifier is the document it holds. -/
theorem Conforming.find_eq (hstore : store.Conforming definition good) {collection : Collection}
    {name : String} (hregistered : Registered definition name collection) (id : ObjectId) :
    ∃ found, store.find collection id = .ok found ∧
      ∀ document, found = some document ↔ store.Holds name document ∧ document.id = id := by
  unfold Store.find
  rw [hregistered.name_eq]
  cases hfind : (store.tree name).find? id.octets with
  | none =>
      refine ⟨none, rfl, fun document => ?_⟩
      constructor
      · intro h
        cases h
      · intro h
        obtain ⟨hold, hid⟩ := h
        exact absurd hold (not_holds_of_find? hfind hid)
  | some octets =>
      obtain ⟨document, hold, hkey, hread⟩ := hstore.exists_holds hfind
      have hid : document.id = id := (ObjectId.ext_octets hkey).symm
      refine ⟨some document, ?_, fun other => ?_⟩
      · simp only [readDocument, hread]
        rfl
      · constructor
        · intro h
          obtain ⟨⟩ := h
          exact ⟨hold, hid⟩
        · intro h
          obtain ⟨hother, hid'⟩ := h
          rw [hold.unique hother (hid.trans hid'.symm)]

/-! ### Deletions -/

theorem find?_erased (store : Store) (name other : String) (key key' : List UInt8) :
    ((store.setTree name ((store.tree name).erase key)).tree other).find? key' =
      if other = name ∧ key' = key then none else (store.tree other).find? key' := by
  rw [tree_setTree]
  by_cases hname : name = other
  · subst hname
    rw [if_pos rfl, SortedMap.find?_erase]
    by_cases hkey : key = key'
    · simp [hkey]
    · have hkey' : ¬ key' = key := fun h => hkey h.symm
      simp [hkey, hkey']
  · have hname' : ¬ other = name := fun h => hname h.symm
    simp [hname, hname']

/-- After an entry was erased, its collection holds no document of its identifier. -/
theorem holds_erased (name : String) (id : ObjectId) (other : String) (document : Document) :
    (store.setTree name ((store.tree name).erase id.octets)).Holds other document ↔
      if other = name ∧ document.id = id then False else store.Holds other document := by
  unfold Holds
  simp only [find?_erased]
  by_cases hname : other = name
  · by_cases hid : document.id = id
    · simp [hname, hid]
    · have hoctets : ¬ document.id.octets = id.octets := fun h => hid (ObjectId.ext_octets h)
      simp [hid, hoctets]
  · simp [hname]

/-- What a deletion does when there is a document. -/
theorem delete_of_find? (collection : Collection) {id : ObjectId} {octets : List UInt8}
    {removed : Document} (hfind : (store.tree collection.name).find? id.octets = some octets)
    (hread : Document.ofOctets octets = .ok removed) :
    ∃ events, store.delete collection id = (.ok true,
      ({ store.setTree collection.name ((store.tree collection.name).erase id.octets) with
        unique := store.unique.releaseEach id (collection.uniqueKeys removed) } : Store).reportEach
          events) := by
  unfold delete
  simp only [hfind, readDocument, hread]
  exact ⟨_, rfl⟩

end Store

end TypedCollections
