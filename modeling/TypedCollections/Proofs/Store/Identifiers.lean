import TypedCollections.Proofs.ObjectId.Order
import TypedCollections.Proofs.ObjectId.Text
import TypedCollections.Proofs.Store.Loading
/-!
# Identifiers, their texts and their order

A tree of a store holds documents under the octets of their identifiers. What is listed from it is
therefore in the order of the identifiers, which is the order of their texts. With what is said of
the texts alone, an identifier and its text are the same thing.
-/

namespace TypedCollections

namespace Store

variable {store : Store} {name : String} {stored : List Document}

/-- The documents are those stored under the name, in the order of their identifiers. -/
structure HoldsExactly (store : Store) (name : String) (stored : List Document) : Prop where
  entries_eq : (store.tree name).entries
    = stored.map fun document => (document.id.octets, document.toOctets)
  id_not_mem : ∀ document ∈ stored, idField ∉ Entries.names document.fields
  distinct : ∀ document ∈ stored, Entries.Distinct document.fields

/-- If every item of a list comes from something, so does the list. -/
private theorem exists_map_eq {α β : Type} {f : α → β} {good : α → Prop} {list : List β}
    (h : ∀ item ∈ list, ∃ origin, f origin = item ∧ good origin) :
    ∃ origins : List α, list = origins.map f ∧ ∀ origin ∈ origins, good origin := by
  induction list with
  | nil => exact ⟨[], rfl, List.forall_mem_nil _⟩
  | cons item rest ih =>
      rw [List.forall_mem_cons] at h
      obtain ⟨⟨first, rfl, hfirst⟩, hrest⟩ := h
      obtain ⟨others, rfl, hothers⟩ := ih hrest
      exact ⟨first :: others, rfl, List.forall_mem_cons.2 ⟨hfirst, hothers⟩⟩

/-- A collection holds documents and nothing else. -/
theorem Keyed.exists_holdsExactly (h : store.Keyed) (name : String) :
    ∃ stored, store.HoldsExactly name stored := by
  have hentries : ∀ entry ∈ (store.tree name).entries, ∃ document : Document,
      (document.id.octets, document.toOctets) = entry ∧
        idField ∉ Entries.names document.fields ∧ Entries.Distinct document.fields := by
    rintro ⟨key, octets⟩ hmem
    obtain ⟨document, rfl, rfl, hproper⟩ := h name key octets (SortedMap.find?_eq_some_iff.2 hmem)
    exact ⟨document, rfl, hproper⟩
  obtain ⟨stored, heq, hproper⟩ := exists_map_eq hentries
  exact ⟨stored, heq, fun document hmem => (hproper document hmem).1,
    fun document hmem => (hproper document hmem).2⟩

namespace HoldsExactly

theorem keys_eq (h : store.HoldsExactly name stored) :
    (store.tree name).keys = stored.map fun document => document.id.octets := by
  rw [SortedMap.keys, h.entries_eq, List.map_map, Function.comp_def]

theorem values_eq (h : store.HoldsExactly name stored) :
    (store.tree name).values = stored.map Document.toOctets := by
  rw [SortedMap.values, h.entries_eq, List.map_map, Function.comp_def]

theorem ascending (h : store.HoldsExactly name stored) :
    stored.Pairwise fun a b => compare a.id b.id = .lt := by
  have hsorted := (store.tree name).sorted
  rw [h.entries_eq, List.pairwise_map] at hsorted
  exact hsorted

end HoldsExactly

/-- Documents that are read from the octets of others have their identifiers. -/
theorem ids_of_readEach {listed : List Document}
    (hid : ∀ document ∈ stored, idField ∉ Entries.names document.fields)
    (hdistinct : ∀ document ∈ stored, Entries.Distinct document.fields)
    (h : readEach (stored.map Document.toOctets) = .ok listed) :
    listed.map Document.id = stored.map Document.id := by
  induction stored generalizing listed with
  | nil =>
      cases h
      rfl
  | cons document rest ih =>
      rw [List.forall_mem_cons] at hid hdistinct
      rw [List.map_cons, readEach] at h
      split at h
      · cases h
      · rename_i first hfirst
        obtain ⟨others, hothers, rfl⟩ := map_eq_ok_iff.1 h
        rw [List.map_cons, List.map_cons, ih hid.2 hdistinct.2 hothers,
          Document.id_of_ofOctets_toOctets hid.1 hdistinct.1 (readDocument_eq_ok_iff.1 hfirst)]

/-- The documents of a collection are listed in the order of the keys. -/
theorem Keyed.ids_of_findAll (h : store.Keyed) {collection : Collection} {listed : List Document}
    (hlisted : store.findAll collection = .ok listed) :
    (store.tree collection.name).keys = listed.map (fun document => document.id.octets) ∧
      listed.Pairwise fun a b => compare a.id b.id = .lt := by
  obtain ⟨stored, hstored⟩ := h.exists_holdsExactly collection.name
  rw [findAll, hstored.values_eq] at hlisted
  have hids := ids_of_readEach hstored.id_not_mem hstored.distinct hlisted
  have hascending : (listed.map Document.id).Pairwise fun a b => compare a b = .lt := by
    rw [hids, List.pairwise_map]
    exact hstored.ascending
  refine ⟨?_, List.pairwise_map.1 hascending⟩
  have hoctets := congrArg (List.map ObjectId.octets) hids
  rw [List.map_map, List.map_map] at hoctets
  exact hstored.keys_eq.trans hoctets.symm

end Store

namespace ObjectId

/-- An identifier and its text are the same thing, told apart from other texts by parsing and by a
pattern, and in the same order. -/
structure TextForms (pattern : Pattern) : Prop where
  parses_iff : ∀ text, (∃ id, parse text = .ok id) ↔ IsHexText text
  matches_iff : ∀ text, pattern.isMatch text = true ↔ IsHexText text
  refuses : ∀ text, ¬ IsHexText text → parse text = .error (.invalidObjectId text)
  parse_hex : ∀ id, parse id.hex = .ok id
  hex_of_parse : ∀ text id, parse text = .ok id → id.hex = text
  timestamp : ∀ id : ObjectId, id.timestamp = hexNumber (id.hex.toList.take 8)
  ordered : ∀ a b : ObjectId, compare a b = compare a.hex b.hex
  /-- Whatever was done to a store, its documents are listed in the order of the keys. -/
  listed : ∀ database generator steps (store : Store) collection documents,
    store = (Store.fresh database generator).performAll steps →
      store.findAll collection = .ok documents →
        (store.tree collection.name).keys = documents.map (fun document => document.id.octets) ∧
          documents.Pairwise fun a b => compare a.id.hex b.id.hex = .lt

/-- The texts that are parsed as identifiers are those that the pattern of descriptions matches, and
stand for identifiers in every respect. -/
theorem text_forms_of_identifiers :
    ∃ pattern, Pattern.read objectIdPattern = .ok pattern ∧ TextForms pattern := by
  refine ⟨textPattern, read_objectIdPattern, fun text => exists_parse_iff,
    fun text => isMatch_textPattern_iff, fun text => parse_of_not_isHexText,
    fun id => parse_eq_ok_iff.2 rfl, fun text id => parse_eq_ok_iff.1, timestamp_eq_hexNumber,
    compare_eq_compare_hex, ?_⟩
  rintro database generator steps _ collection documents rfl hlisted
  have hkeyed := (Store.keyed_fresh database generator).performAll steps
  obtain ⟨hkeys, hascending⟩ := hkeyed.ids_of_findAll hlisted
  refine ⟨hkeys, hascending.imp fun {a b} h => ?_⟩
  rw [← compare_eq_compare_hex]
  exact h

end ObjectId

end TypedCollections
