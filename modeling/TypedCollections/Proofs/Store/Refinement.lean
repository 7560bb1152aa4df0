import TypedCollections.Proofs.Store.Catalog
import TypedCollections.Proofs.Store.Owners
import TypedCollections.Proofs.Store.Shelves
/-!
# Stores answer as shelves do

A store shows shelves that have the same collections registered and the same documents under the
same identifiers. A request to a consistent store is answered by a rule of the shelves it shows, and
the store afterwards shows the shelves that the rule leaves. What the rules say of equal values is
what the unique index says of equal texts.
-/

namespace TypedCollections

variable {definition : String → Fields} {store : Store} {shelves : Shelves}

/-- What is asked of a registration so that the store can be opened again: the entry that the
catalog writes is read back. -/
def Request.Recorded : Request → Prop
  | register now name schema => (CatalogEntry.ofSchema name schema now).Readable
  | _ => True

namespace Collection

theorem prepare?_eq_some_iff {collection : Collection} {now : Nat} {previous : Option Document}
    {document stored : Document} :
    collection.prepare? now previous document = some stored ↔
      ∃ checked, collection.check (collection.stamp now previous document.storedFields)
        = .ok checked ∧ stored = Document.ofFields document.id checked := by
  unfold prepare?
  cases collection.check (collection.stamp now previous document.storedFields) <;>
    simp [eq_comm]

/-- The document prepared is one made of checked fields. -/
theorem checked_of_prepare? {collection : Collection} {name : String} {now : Nat}
    {previous : Option Document} {document stored : Document}
    (hdefinition : (definition name).WellFormed)
    (hregistered : Registered definition name collection) (hdocument : document.WellFormed)
    (hprevious : ∀ other, previous = some other → other.WellFormed)
    (h : collection.prepare? now previous document = some stored) :
    stored.Checked (definition name) := by
  obtain ⟨hdistinct, hvalues⟩ := Document.wellFormed_storedFields hdocument
  obtain ⟨hdistinct, hvalues⟩ := wellFormed_stamp collection now hdistinct hvalues hprevious
  obtain ⟨checked, hcheck, rfl⟩ := prepare?_eq_some_iff.1 h
  exact checked_of_check hdefinition hregistered.fields_eq hregistered.patterns_eq hdistinct hvalues
    hcheck

end Collection

namespace Store

/-- The shelves have the store's collections and documents, and its catalog can be read. -/
structure Shows (store : Store) (shelves : Shelves) : Prop where
  registry_eq : store.registry = shelves.collections
  find?_iff : ∀ name id document, (shelves.shelf name).find? id = some document ↔
    store.Holds name document ∧ document.id = id
  readable : store.catalog.Readable

/-! ### What is held is what is shown -/

theorem Shows.find?_eq_none_iff (hshows : store.Shows shelves) (hsound : store.Consistent definition)
    {name : String} {id : ObjectId} :
    (shelves.shelf name).find? id = none ↔ (store.tree name).find? id.octets = none := by
  constructor
  · intro hnone
    cases hfind : (store.tree name).find? id.octets with
    | none => rfl
    | some octets =>
        obtain ⟨document, hold, hkey, -⟩ := hsound.exists_holds hfind
        have hid : document.id = id := (ObjectId.ext_octets hkey).symm
        rw [(hshows.find?_iff name id document).2 ⟨hold, hid⟩] at hnone
        cases hnone
  · intro hnone
    cases hfind : (shelves.shelf name).find? id with
    | none => rfl
    | some document =>
        obtain ⟨hold, hid⟩ := (hshows.find?_iff name id document).1 hfind
        exact absurd hold (not_holds_of_find? hnone hid)

/-- What a collection finds is what stands on its shelf. -/
theorem Shows.find_eq (hshows : store.Shows shelves) (hsound : store.Consistent definition)
    {collection : Collection} {name : String} (hregistered : Registered definition name collection)
    (id : ObjectId) : store.find collection id = .ok ((shelves.shelf name).find? id) := by
  obtain ⟨found, hfind, hfound⟩ := hsound.find_eq hregistered id
  have heq : found = (shelves.shelf name).find? id := by
    ext document
    rw [hfound, hshows.find?_iff]
  rw [hfind, heq]

/-- The octets of a document on a shelf stand under its identifier. -/
theorem Shows.find?_toOctets (hshows : store.Shows shelves) (hsound : store.Consistent definition)
    {name : String} {id : ObjectId} {document : Document}
    (h : (shelves.shelf name).find? id = some document) :
    (store.tree name).find? id.octets = some document.toOctets ∧
      Document.ofOctets document.toOctets = .ok document := by
  obtain ⟨hold, rfl⟩ := (hshows.find?_iff name id document).1 h
  obtain ⟨written, hkeeps, rfl⟩ := hsound.exists_of_holds hold
  have hread := Document.ofOctets_of_checked hkeeps.checked hkeeps.storable
  rw [Document.toOctets_reread]
  exact ⟨hkeeps.find, hread⟩

/-- A tree lists the octets of the documents on the shelf, in the same order. -/
theorem Shows.entries_eq (hshows : store.Shows shelves) (hsound : store.Consistent definition)
    (name : String) :
    (store.tree name).entries
      = (shelves.shelf name).documents.entries.map fun entry =>
          (entry.1.octets, entry.2.toOctets) := by
  have hsorted : ((shelves.shelf name).documents.entries.map fun entry =>
      (entry.1.octets, entry.2.toOctets)).Pairwise fun a b => compare a.1 b.1 = .lt :=
    List.pairwise_map.2 (shelves.shelf name).documents.sorted
  have htree : store.tree name = ⟨_, hsorted⟩ := by
    apply SortedMap.ext_find?
    intro key
    ext octets
    rw [SortedMap.find?_eq_some_iff (m := ⟨_, hsorted⟩), List.mem_map]
    constructor
    · intro hfind
      obtain ⟨document, hold, rfl, hread⟩ := hsound.exists_holds hfind
      have hshelf := (hshows.find?_iff name document.id document).2 ⟨hold, rfl⟩
      have hoctets := (hshows.find?_toOctets hsound hshelf).1
      rw [hfind] at hoctets
      refine ⟨(document.id, document), SortedMap.find?_eq_some_iff.1 hshelf, ?_⟩
      rw [Option.some.inj hoctets]
    · intro h
      obtain ⟨⟨id, document⟩, hmem, heq⟩ := h
      have hshelf : (shelves.shelf name).find? id = some document :=
        SortedMap.find?_eq_some_iff.2 hmem
      rw [← (Prod.mk.inj heq).1, ← (Prod.mk.inj heq).2]
      exact (hshows.find?_toOctets hsound hshelf).1
  rw [htree]

theorem readEach_map {documents : List Document}
    (h : ∀ document ∈ documents, Document.ofOctets document.toOctets = .ok document) :
    readEach (documents.map Document.toOctets) = .ok documents := by
  induction documents with
  | nil => rfl
  | cons document rest ih =>
      rw [List.map_cons, readEach, readDocument, h document (List.mem_cons_self ..)]
      simp only
      rw [ih fun other hmem => h other (List.mem_cons_of_mem _ hmem)]
      rfl

/-- What a collection lists is what stands on its shelf, in the order of the identifiers. -/
theorem Shows.findAll_eq (hshows : store.Shows shelves) (hsound : store.Consistent definition)
    {collection : Collection} {name : String} (hname : collection.name = name) :
    store.findAll collection = .ok (shelves.shelf name).documents.values := by
  have hvalues : (store.tree name).values
      = (shelves.shelf name).documents.values.map Document.toOctets := by
    unfold SortedMap.values
    rw [hshows.entries_eq hsound]
    simp only [List.map_map, Function.comp_def]
  rw [findAll, hname, hvalues]
  apply readEach_map
  intro document hmem
  obtain ⟨entry, hentry, hdocument⟩ := List.mem_map.1 hmem
  have hshelf : (shelves.shelf name).find? entry.1 = some document := by
    rw [← hdocument]
    exact SortedMap.find?_eq_some_iff.2 hentry
  exact (hshows.find?_toOctets hsound hshelf).2

theorem Shows.count_eq (hshows : store.Shows shelves) (hsound : store.Consistent definition)
    {collection : Collection} {name : String} (hname : collection.name = name) :
    store.count collection = (shelves.shelf name).documents.size := by
  rw [count, hname, SortedMap.size, hshows.entries_eq hsound, List.length_map, SortedMap.size]

/-! ### Unique values -/

/-- No other document owns a key that a document needs, exactly if no other document on the shelf
holds an equal value in a unique field. -/
theorem Shows.free_iff (hshows : store.Shows shelves) (hsound : store.Consistent definition)
    {name : String} {stored : Document} (keys : List UniqueKey) (hplain : '\x00' ∉ name.toList)
    (hchecked : stored.Checked (definition name)) (hstorable : stored.Storable (definition name))
    (hkeys : ∀ key, key ∈ keys ↔ Owns (definition name) name stored key) :
    store.unique.Free stored.id keys ↔
      ¬ (shelves.shelf name).Refuses (definition name) stored := by
  have htexts : ∀ {other field value held}, store.Holds name other →
      IsUnique (definition name) field → stored.get? field = some value → value ≠ .null →
      other.get? field = some held → held ≠ .null →
        (value.toJson.text = held.toJson.text ↔ (value == held) = true) := by
    intro other field value held hold hunique hvalue hnull hheld hnull'
    exact Value.text_eq_iff_same
      ((hchecked.atomic hstorable hunique hvalue).resolve_left hnull)
      ((hsound.atomic hold hunique hheld).resolve_left hnull')
  constructor
  · rintro hfree ⟨other, field, value, held, hshelf, hne, hunique, hvalue, hnull, hheld, hsame⟩
    obtain ⟨hold, -⟩ := (hshows.find?_iff name other.id other).1 hshelf
    have hnull' : held ≠ .null := by
      rintro rfl
      cases value <;> first | exact hnull rfl | cases hsame
    have htext := (htexts hold hunique hvalue hnull hheld hnull').2 hsame
    have howner : store.unique.owner? ⟨name, field, value.toJson.text⟩ = some other.id := by
      rw [UniqueIndex.owner?_eq_some_iff, hsound.exact]
      exact ⟨name, other, _, hold, ⟨field, held, hunique, hheld, hnull', rfl⟩, by rw [htext], rfl⟩
    exact hne (hfree _ ((hkeys _).2 ⟨field, value, hunique, hvalue, hnull, rfl⟩) _ howner)
  · intro hrefuses key hmem owner howner
    have howns := (hkeys key).1 hmem
    rw [UniqueIndex.owner?_eq_some_iff, hsound.exact] at howner
    obtain ⟨name', other, key', hold, howns', hoctets, hid⟩ := howner
    have hkey : key' = key := UniqueKey.octets_injective
      (howns'.plain (hsound.plain_of_holds hold)) (howns.plain hplain) hoctets
    have hname : name' = name := by rw [← howns'.collection_eq, hkey, howns.collection_eq]
    subst hname hkey
    by_contra hne
    obtain ⟨field, value, hunique, hvalue, hnull, hkey⟩ := howns
    obtain ⟨field', held, -, hheld, hnull', hkey'⟩ := howns'
    rw [hkey] at hkey'
    injection hkey' with _ hfield htext
    subst hfield
    have hother : other.id ≠ stored.id := by
      intro h
      rw [← h] at hne
      exact hne (ObjectId.ext_octets hid).symm
    exact hrefuses ⟨other, field, value, held, (hshows.find?_iff _ _ _).2 ⟨hold, rfl⟩, hother,
      hunique, hvalue, hnull, hheld, (htexts hold hunique hvalue hnull hheld hnull').1 htext⟩

/-! ### What changes the shelves -/

/-- What is shown depends on the registered collections, the trees and the catalog only. -/
theorem Shows.congr {other : Store} (hshows : store.Shows shelves)
    (hregistry : other.registry = store.registry) (hdocuments : other.documents = store.documents)
    (hcatalog : other.catalog = store.catalog) : other.Shows shelves := by
  have htree : other.tree = store.tree := by
    funext name
    rw [tree, hdocuments, tree]
  refine ⟨hregistry.trans hshows.registry_eq, ?_, ?_⟩
  · intro name id document
    rw [hshows.find?_iff, Holds, Holds, htree]
  · rw [hcatalog]
    exact hshows.readable

/-- After a document was put, the shelf has what is read back of it. -/
theorem Shows.put (hshows : store.Shows shelves) {collection : Collection} {name : String}
    {document : Document} (hname : collection.name = name)
    (hread : Document.ofOctets document.toOctets = .ok document.reread) :
    (store.put collection document).Shows (shelves.put name document.reread) := by
  refine ⟨hshows.registry_eq, ?_, hshows.readable⟩
  intro other id found
  rw [holds_of_find?_eq (find?_put store collection document), hname, hread, Shelves.find?_put]
  have hreread : document.reread.id = document.id := rfl
  rw [hreread]
  by_cases hplace : other = name ∧ id = document.id
  · obtain ⟨rfl, rfl⟩ := hplace
    rw [if_pos ⟨rfl, rfl⟩]
    constructor
    · intro h
      cases h
      rw [if_pos ⟨rfl, rfl⟩]
      exact ⟨rfl, rfl⟩
    · intro h
      obtain ⟨hfound, hid⟩ := h
      rw [if_pos ⟨rfl, hid⟩] at hfound
      rw [Except.ok.inj hfound]
  · rw [if_neg hplace, hshows.find?_iff]
    apply and_congr_left
    intro hid
    rw [if_neg fun h => hplace ⟨h.1, hid.symm.trans h.2⟩]

/-- After an entry was erased, its document is gone from the shelf. -/
theorem Shows.erase (hshows : store.Shows shelves) (name : String) (id : ObjectId) :
    (store.setTree name ((store.tree name).erase id.octets)).Shows (shelves.remove name id) := by
  refine ⟨hshows.registry_eq, ?_, hshows.readable⟩
  intro other id' found
  rw [holds_erased, Shelves.find?_remove]
  by_cases hplace : other = name ∧ id' = id
  · obtain ⟨rfl, rfl⟩ := hplace
    rw [if_pos ⟨rfl, rfl⟩]
    constructor
    · intro h
      cases h
    · intro h
      obtain ⟨hfound, hid⟩ := h
      rw [if_pos ⟨rfl, hid⟩] at hfound
      exact hfound.elim
  · rw [if_neg hplace, hshows.find?_iff]
    apply and_congr_left
    intro hid
    rw [if_neg fun h => hplace ⟨h.1, hid.symm.trans h.2⟩]

/-! ### Writes -/

/-- What is written is what was prepared. -/
theorem prepare?_of_write {collection : Collection} {now : Nat} {previous : Option Document}
    {document stored : Document} (h : (store.write collection now previous document).1 = .ok stored) :
    collection.prepare? now previous document = some stored := by
  obtain ⟨checked, unique, events, hcheck, hstored, -⟩ := exists_put_of_write h
  exact Collection.prepare?_eq_some_iff.2 ⟨checked, hcheck, hstored⟩

theorem Shows.plain_of_find? (hshows : store.Shows shelves) (hsound : store.Consistent definition)
    {collection : Collection} {name : String}
    (hname : shelves.collections.find? name = some collection) : '\x00' ∉ name.toList :=
  hsound.plain name collection (by rw [collection?, hshows.registry_eq, hname])

/-- A write stores what the shelves accept, and fails exactly if they accept nothing. -/
theorem Shows.write (hshows : store.Shows shelves) (hsound : store.Consistent definition)
    {collection : Collection} {name : String} {now : Nat} {previous : Option Document}
    {document : Document} (hdefinition : (definition name).WellFormed)
    (hregistered : Registered definition name collection)
    (hname : shelves.collections.find? name = some collection) (hdocument : document.WellFormed)
    (hprevious : ∀ other, previous = some other → other.WellFormed)
    (hstorable : ∀ stored, collection.prepare? now previous document = some stored →
      stored.Storable (definition name)) :
    (∃ stored, shelves.Accepts name collection document.id
        (collection.stamp now previous document.storedFields) stored ∧
      (store.write collection now previous document).1 = .ok stored ∧
      (store.write collection now previous document).2.Shows (shelves.put name stored.reread)) ∨
    (∃ error, (∀ stored, ¬ shelves.Accepts name collection document.id
        (collection.stamp now previous document.storedFields) stored) ∧
      (store.write collection now previous document).1 = .error error ∧
      (store.write collection now previous document).2.Shows shelves) := by
  have hprepare : ∀ {checked}, collection.check (collection.stamp now previous document.storedFields)
      = .ok checked → collection.prepare? now previous document
        = some (Document.ofFields document.id checked) :=
    fun hcheck => Collection.prepare?_eq_some_iff.2 ⟨_, hcheck, rfl⟩
  have hchecked : ∀ {checked}, collection.check (collection.stamp now previous document.storedFields)
      = .ok checked → (Document.ofFields document.id checked).Checked (definition name) :=
    fun hcheck => Collection.checked_of_prepare? hdefinition hregistered hdocument hprevious
      (hprepare hcheck)
  have hfree : ∀ {checked}, collection.check (collection.stamp now previous document.storedFields)
      = .ok checked → (store.unique.Free document.id
        (collection.uniqueKeys (Document.ofFields document.id checked)) ↔
          ¬ (shelves.shelf name).Refuses collection.schema.fields
            (Document.ofFields document.id checked)) := by
    intro checked hcheck
    have hiff := hshows.free_iff hsound _ (hshows.plain_of_find? hsound hname)
      (hchecked hcheck) (hstorable _ (hprepare hcheck)) fun key => hregistered.mem_uniqueKeys
    rw [Document.id_ofFields] at hiff
    rw [hregistered.fields_eq]
    exact hiff
  obtain ⟨error, events, hwrite, howned⟩ | ⟨checked, unique, events, hwrite, hcheck, hfree', -⟩ :=
    write_cases store collection now previous document
  · refine .inr ⟨error, ?_, by rw [hwrite], ?_⟩
    · rintro stored ⟨⟨checked, hvalidate, rfl⟩, hrefuses⟩
      have hcheck := Collection.check_eq_ok_iff.2 hvalidate
      exact howned checked hcheck ((hfree hcheck).2 hrefuses)
    · rw [hwrite]
      exact hshows.congr rfl rfl rfl
  · refine .inl ⟨Document.ofFields document.id checked, ?_, by rw [hwrite], ?_⟩
    · exact ⟨⟨checked, Collection.check_eq_ok_iff.1 hcheck, rfl⟩, (hfree hcheck).1 hfree'⟩
    · have hreported : ({ store.reportEach events with unique } : Store).Shows shelves :=
        hshows.congr rfl rfl rfl
      rw [hwrite]
      exact hreported.put hregistered.name_eq
        (Document.ofOctets_of_checked (hchecked hcheck) (hstorable _ (hprepare hcheck)))

theorem Shows.insert (hshows : store.Shows shelves) (hsound : store.Consistent definition)
    {collection : Collection} {name : String} {now : Nat} {document : Document}
    (hdefinition : (definition name).WellFormed)
    (hregistered : Registered definition name collection)
    (hname : shelves.collections.find? name = some collection) (hdocument : document.WellFormed)
    (hstorable : ∀ stored, collection.prepare? now none document = some stored →
      stored.Storable (definition name)) :
    ∃ after, shelves.Serves (.insert name now document)
      (.of .written (store.insert collection now document).1) after ∧
      (store.insert collection now document).2.Shows after := by
  cases habsent : (shelves.shelf name).find? document.id with
  | some held =>
      have htaken : (store.tree collection.name).has document.id.octets = true := by
        rw [hregistered.name_eq, SortedMap.has, (hshows.find?_toOctets hsound habsent).1]
        rfl
      rw [Store.insert, htaken]
      refine ⟨shelves, .insertRefused hname ?_, hshows⟩
      intro hnone
      rw [habsent] at hnone
      cases hnone
  | none =>
      have hfree : (store.tree collection.name).has document.id.octets = false := by
        rw [hregistered.name_eq, SortedMap.has, (hshows.find?_eq_none_iff hsound).1 habsent]
        rfl
      obtain ⟨events, hinsert⟩ := insert_of_not_has now hfree
      rw [hinsert]
      obtain ⟨stored, haccepts, hok, hafter⟩ | ⟨error, hrefused, herror, hafter⟩ :=
        hshows.write hsound hdefinition hregistered hname hdocument (fun _ h => by cases h)
          hstorable
      · rw [hok]
        exact ⟨_, .inserted hname habsent haccepts, hafter.congr rfl rfl rfl⟩
      · rw [herror]
        exact ⟨_, .insertRefused hname fun _ => hrefused, hafter.congr rfl rfl rfl⟩

/-- The identifier chosen is one that the members give. -/
theorem chooseId_cases (store : Store) (now : Nat) (members : List (String × Json)) :
    (∃ id generator, store.chooseId now members = (.ok id, { store with generator }) ∧
      id.GivenBy members) ∨
    ∃ error, store.chooseId now members = (.error error, store) ∧
      ∀ id, ¬ ObjectId.GivenBy members id := by
  unfold chooseId ObjectId.GivenBy
  generalize (Entries.find? members idField).map Value.ofJson = given
  cases given with
  | none => exact .inl ⟨_, _, rfl, trivial⟩
  | some value =>
      cases value with
      | objectId id => exact .inl ⟨id, store.generator, rfl, rfl⟩
      | string text =>
          cases hid : ObjectId.ofHex? text with
          | some id => exact .inl ⟨id, store.generator, by simp only [hid], hid⟩
          | none =>
              refine .inr ⟨.invalidObjectId text, by simp only [hid], fun id h => ?_⟩
              have htext : ObjectId.ofHex? text = some id := h
              rw [hid] at htext
              cases htext
      | _ => exact .inl ⟨_, _, rfl, trivial⟩

theorem Shows.insertJson (hshows : store.Shows shelves) (hsound : store.Consistent definition)
    {collection : Collection} {name : String} {now : Nat} {json : Json}
    (hdefinition : (definition name).WellFormed)
    (hregistered : Registered definition name collection)
    (hname : shelves.collections.find? name = some collection) (hjson : json.WellFormed)
    (hstorable : ∀ members id stored, json = .object members →
      (store.chooseId now members).1 = .ok id →
      collection.prepare? now none (Document.ofFields id (Value.membersOfJson members))
        = some stored → stored.Storable (definition name)) :
    ∃ after, shelves.Serves (.insertJson name now json)
      (.of .written (store.insertJson collection now json).1) after ∧
      (store.insertJson collection now json).2.Shows after := by
  unfold Store.insertJson
  cases json with
  | object members =>
      obtain ⟨id, generator, hchosen, hid⟩ | ⟨error, hchosen, hid⟩ :=
        chooseId_cases store now members
      · have hwell := Document.wellFormed_ofMembers id hjson.2
        have hshows' : ({ store with generator } : Store).Shows shelves := hshows.congr rfl rfl rfl
        have hsound' : ({ store with generator } : Store).Consistent definition :=
          hsound.congr rfl rfl rfl
        have hprepared : ∀ stored, collection.prepare? now none
            (Document.ofFields id (Value.membersOfJson members)) = some stored →
              stored.Storable (definition name) :=
          fun stored => hstorable members id stored rfl (by rw [hchosen])
        obtain ⟨after, hserves, hafter⟩ :=
          hshows'.insert hsound' hdefinition hregistered hname hwell hprepared
        simp only [hchosen]
        exact ⟨after, .insertedJson hid hserves, hafter⟩
      · simp only [hchosen]
        refine ⟨shelves, .jsonRefused hname ?_, hshows⟩
        rintro _ ⟨⟩
        exact hid
  | _ =>
      refine ⟨shelves, .jsonRefused hname ?_, hshows⟩
      intro members h
      cases h

theorem Shows.update (hshows : store.Shows shelves) (hsound : store.Consistent definition)
    {collection : Collection} {name : String} {now : Nat} {document : Document}
    (hdefinition : (definition name).WellFormed)
    (hregistered : Registered definition name collection)
    (hname : shelves.collections.find? name = some collection) (hdocument : document.WellFormed)
    (hstorable : ∀ previous stored, store.find collection document.id = .ok (some previous) →
      collection.prepare? now (some previous) document = some stored →
        stored.Storable (definition name)) :
    ∃ after, shelves.Serves (.update name now document)
      (.of .updated (store.update collection now document).1) after ∧
      (store.update collection now document).2.Shows after := by
  have hfind := hshows.find_eq hsound hregistered document.id
  cases hshelf : (shelves.shelf name).find? document.id with
  | none =>
      rw [hshelf] at hfind
      unfold Store.update
      rw [hfind]
      exact ⟨shelves, .updateAbsent hname hshelf, hshows⟩
  | some previous =>
      rw [hshelf] at hfind
      have hprevious : ∀ other, some previous = some other → other.WellFormed := by
        rintro _ ⟨⟩
        exact hsound.wellFormed_of_holds ((hshows.find?_iff name document.id previous).1 hshelf).1
      obtain ⟨events, hupdate⟩ := update_of_find now hfind
      rw [hupdate]
      obtain ⟨stored, haccepts, hok, hafter⟩ | ⟨error, hrefused, herror, hafter⟩ :=
        hshows.write hsound hdefinition hregistered hname hdocument hprevious
          fun stored => hstorable previous stored hfind
      · rw [hok]
        exact ⟨_, .updated hname hshelf haccepts, hafter.congr rfl rfl rfl⟩
      · rw [herror]
        exact ⟨_, .updateRefused hname hshelf hrefused, hafter.congr rfl rfl rfl⟩

theorem Shows.delete (hshows : store.Shows shelves) (hsound : store.Consistent definition)
    {collection : Collection} {name : String} {id : ObjectId}
    (hregistered : Registered definition name collection)
    (hname : shelves.collections.find? name = some collection) :
    ∃ after, shelves.Serves (.delete name id) (.of .deleted (store.delete collection id).1) after ∧
      (store.delete collection id).2.Shows after := by
  have hserves : shelves.Serves (.delete name id)
      (.deleted ((shelves.shelf name).find? id).isSome) (shelves.remove name id) :=
    .deleted hname
  have hafter := hshows.erase name id
  cases hshelf : (shelves.shelf name).find? id with
  | none =>
      have hfind := (hshows.find?_eq_none_iff hsound).1 hshelf
      have hdelete : store.delete collection id = (.ok false, store) := by
        unfold Store.delete
        simp only [hregistered.name_eq, hfind]
      rw [hshelf] at hserves
      rw [hdelete]
      refine ⟨_, hserves, hshows.registry_eq, ?_, hshows.readable⟩
      -- The erased tree holds what the tree holds, since there was no document to take away.
      intro other id' found
      rw [hafter.find?_iff, holds_erased]
      apply and_congr_left
      intro _
      split
      · rename_i hplace
        rw [hplace.1]
        exact iff_of_false not_false (not_holds_of_find? hfind hplace.2)
      · exact Iff.rfl
  | some removed =>
      obtain ⟨hfind, hread⟩ := hshows.find?_toOctets hsound hshelf
      rw [← hregistered.name_eq] at hfind
      obtain ⟨events, hdelete⟩ := delete_of_find? collection hfind hread
      rw [hshelf] at hserves
      rw [hdelete]
      refine ⟨_, hserves, hafter.congr ?_ ?_ ?_⟩
      · rfl
      · rw [← hregistered.name_eq]
        rfl
      · rfl

theorem Shows.register (hshows : store.Shows shelves) {now : Nat} {name : String} {schema : Schema}
    (hdefinition : schema.fields.WellFormed)
    (hrecorded : (CatalogEntry.ofSchema name schema now).Readable) :
    ∃ after, shelves.Serves (.register now name schema)
      (.of (fun _ => .done) (store.register now name schema).1) after ∧
      (store.register now name schema).2.Shows after := by
  have hrefused : ∀ error, (∀ collection, collection.name = name → collection.schema = schema →
      ¬ shelves.Registers collection) → ∃ after,
        shelves.Serves (.register now name schema) (.failed error) after ∧ store.Shows after :=
    fun error h => ⟨shelves, .registerRefused h, hshows⟩
  unfold Store.register
  by_cases hempty : name = ""
  · rw [if_pos hempty]
    apply hrefused _
    rintro collection rfl - hregisters
    exact hregisters.name_ne hempty
  · rw [if_neg hempty]
    cases hpatterns : Patterns.ofFields schema.fields with
    | error fault =>
        apply hrefused _
        rintro collection - rfl hregisters
        rw [hregisters.patterns] at hpatterns
        cases hpatterns
    | ok patterns =>
        cases htaken : store.hasCollection name with
        | true =>
            apply hrefused _
            rintro collection rfl - hregisters
            have hfree := hregisters.free
            rw [← hshows.registry_eq] at hfree
            rw [hasCollection, SortedMap.has, hfree] at htaken
            cases htaken
        | false =>
            have hfree : shelves.collections.find? name = none := by
              rw [← hshows.registry_eq]
              simpa [hasCollection, SortedMap.has] using htaken
            have hregisters : shelves.Registers ⟨name, store.database, schema, patterns⟩ :=
              ⟨hempty, hfree, hpatterns⟩
            refine ⟨_, .registered hregisters, ?_, hshows.find?_iff, ?_⟩
            · have hregistry := hshows.registry_eq
              simp only [Bool.false_eq_true, if_false, addCollection]
              rw [hregistry]
            · exact hshows.readable.record (Fields.wellFormed_toJson hdefinition) hrecorded

theorem Shows.reopen (hshows : store.Shows shelves) :
    ∃ opened, store.reopen = .ok opened ∧ opened.Shows { shelves with collections := .empty } := by
  obtain ⟨entries, hreopen⟩ := exists_reopen_eq hshows.readable
  exact ⟨_, hreopen, rfl, hshows.find?_iff, hshows.readable⟩

/-- A request to a collection is answered by a rule, if the registered collection answers it so. -/
theorem Shows.on (hshows : store.Shows shelves) (hsound : store.Consistent definition) {name : String}
    {request : Request} (hasks : request.asks? = some name) {ask : Collection → Answer × Store}
    (h : ∀ collection, Registered definition name collection →
      store.collection? name = some collection →
      shelves.collections.find? name = some collection →
        ∃ after, shelves.Serves request (ask collection).1 after ∧ (ask collection).2.Shows after) :
    ∃ after, shelves.Serves request (store.on name ask).1 after ∧
      (store.on name ask).2.Shows after := by
  have hregistry : store.collection? name = shelves.collections.find? name := by
    rw [collection?, hshows.registry_eq]
  unfold Store.on
  cases hfind : store.collection? name with
  | none => exact ⟨shelves, .unregistered hasks (by rw [← hregistry, hfind]), hshows⟩
  | some collection =>
      exact h collection (hsound.registered name collection hfind) hfind
        (by rw [← hregistry, hfind])

/-- Every request is answered by a rule of the shelves that the store shows. -/
theorem Shows.serve (hshows : store.Shows shelves) (hsound : store.Consistent definition)
    (hdefinition : ∀ name, (definition name).WellFormed) {request : Request}
    (hagrees : request.Agrees definition) (hrecorded : request.Recorded)
    (hprepared : ∀ name document, store.prepared? request = some (name, document) →
      document.Storable (definition name)) :
    ∃ after, shelves.Serves request (store.serve request).1 after ∧
      (store.serve request).2.Shows after := by
  cases request with
  | register now name schema =>
      refine hshows.register ?_ hrecorded
      rw [show schema.fields = definition name from hagrees]
      exact hdefinition name
  | insert name now document =>
      apply hshows.on hsound rfl
      intro collection hregistered hfind hname
      apply hshows.insert hsound (hdefinition name) hregistered hname hagrees
      intro stored h
      apply hprepared name stored
      simp [prepared?, hfind, h]
  | insertJson name now json =>
      apply hshows.on hsound rfl
      intro collection hregistered hfind hname
      apply hshows.insertJson hsound (hdefinition name) hregistered hname hagrees
      rintro members id stored rfl hchosen h
      apply hprepared name stored
      simp [prepared?, hfind, hchosen, h]
  | update name now document =>
      apply hshows.on hsound rfl
      intro collection hregistered hfind hname
      apply hshows.update hsound (hdefinition name) hregistered hname hagrees
      intro previous stored hprevious h
      apply hprepared name stored
      simp [prepared?, hfind, hprevious, h]
  | delete name id =>
      exact hshows.on hsound rfl fun collection hregistered _ hname =>
        hshows.delete hsound hregistered hname
  | find name id =>
      apply hshows.on hsound rfl
      intro collection hregistered _ hname
      rw [hshows.find_eq hsound hregistered]
      exact ⟨shelves, .found hname, hshows⟩
  | findAll name =>
      apply hshows.on hsound rfl
      intro collection hregistered _ hname
      rw [hshows.findAll_eq hsound hregistered.name_eq]
      exact ⟨shelves, .listed hname, hshows⟩
  | count name =>
      apply hshows.on hsound rfl
      intro collection hregistered _ hname
      rw [hshows.count_eq hsound hregistered.name_eq]
      exact ⟨shelves, .counted hname, hshows⟩
  | reopen =>
      obtain ⟨opened, hreopen, hopened⟩ := hshows.reopen
      rw [Store.serve, hreopen]
      exact ⟨_, .reopened, hopened⟩

end Store

end TypedCollections
