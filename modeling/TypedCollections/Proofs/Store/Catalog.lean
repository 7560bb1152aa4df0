import TypedCollections.Proofs.Definition.Printed
import TypedCollections.Proofs.Utf8
import TypedCollections.Store.Basic
/-!
# Reading the catalog

The entry of a schema is read back from its octets, if its text nests within the reader's limit and
its numbers are read back. A store whose catalog was written so can be opened again: it then has
the documents and the index it was closed with, and no collection is registered.
-/

namespace TypedCollections

namespace CatalogEntry

/-- What is asked of an entry so that its text is read back. -/
structure Readable (entry : CatalogEntry) : Prop where
  registeredAt_lt : entry.registeredAt < 1 <<< 64
  legible : entry.toJson.Legible
  depth_le : entry.toJson.depth ≤ Json.nestingLimit

private theorem wellFormed_strings (texts : List String) :
    Json.WellFormedList (texts.map .string) := by
  induction texts with
  | nil => trivial
  | cons text rest ih => exact ⟨trivial, ih⟩

private theorem mapM_string? (texts : List String) :
    texts.mapM (Json.string? ∘ Json.string) = some texts := by
  induction texts with
  | nil => rfl
  | cons text rest ih => simp [ih, Json.string?]

theorem wellFormed_toJson {entry : CatalogEntry} (hdefinition : entry.definition.WellFormed)
    (h : entry.Readable) : entry.toJson.WellFormed := by
  refine ⟨?_, trivial, hdefinition, wellFormed_strings _, trivial, trivial, ?_, trivial⟩
  · simp [Entries.Distinct, Entries.names]
  · have hlt := h.registeredAt_lt
    constructor <;> omega

/-- The parts of an entry are found in a JSON form like that of an entry. -/
theorem ofRaw?_object (entry : CatalogEntry) (definition registeredAt : Json) :
    ofRaw? (.object [("name", .string entry.name), ("schema", definition),
        ("expandable", .array (entry.expandable.map .string)),
        ("timestamps", .bool entry.timestamps), ("fingerprint", .string entry.fingerprint),
        ("registeredAt", registeredAt)])
      = registeredAt.settle.nat?.map fun time =>
          { entry with definition := definition.settle, registeredAt := time } := by
  have hparts : partNames.mapM (soleMember?
      [("name", .string entry.name), ("schema", definition),
        ("expandable", .array (entry.expandable.map .string)),
        ("timestamps", .bool entry.timestamps), ("fingerprint", .string entry.fingerprint),
        ("registeredAt", registeredAt)])
      = some [.string entry.name, definition, .array (entry.expandable.map .string),
          .bool entry.timestamps, .string entry.fingerprint, registeredAt] := by
    simp [partNames, soleMember?]
  have hexpandable : Json.settle (.array (entry.expandable.map .string))
      = .array (entry.expandable.map .string) :=
    Json.settle_eq_self (wellFormed_strings entry.expandable)
  rw [ofRaw?, hparts]
  simp only [Option.bind_some, List.map_cons, List.map_nil, hexpandable]
  simp only [ofParts?, Json.settle, Json.string?, Json.array?, Json.bool?, Option.bind_eq_bind,
    Option.bind_some, List.mapM_map, mapM_string?]
  cases registeredAt.settle.nat? <;> rfl

/-- The parts of an entry are found in its JSON form. -/
theorem ofRaw?_toJson {entry : CatalogEntry} (hdefinition : entry.definition.WellFormed) :
    ofRaw? entry.toJson = some entry := by
  rw [toJson, ofRaw?_object, Json.settle_eq_self hdefinition]
  simp [Json.settle, Json.nat?, Json.ofNat]

/-- An entry is read back from its octets. -/
theorem ofOctets?_text {entry : CatalogEntry} (hdefinition : entry.definition.WellFormed)
    (h : entry.Readable) : ofOctets? (Utf8.encode entry.text) = some entry := by
  have hraw : Json.readRaw ⟨Json.nestingLimit, some partNames⟩ entry.text = .ok entry.toJson :=
    Json.readRaw_text _ (wellFormed_toJson hdefinition h) h.legible h.depth_le
  rw [ofOctets?, Utf8.decode?_encode]
  simp only [Option.bind_some, hraw]
  exact ofRaw?_toJson hdefinition

end CatalogEntry

namespace Catalog

/-- Every entry of the tree can be read. -/
def Readable (catalog : Catalog) : Prop :=
  ∀ octets ∈ catalog.tree.values, ∃ entry, CatalogEntry.ofOctets? octets = some entry

theorem readable_empty : Catalog.empty.Readable := by
  intro octets hmem
  cases hmem

/-- One more entry is recorded whose octets can be read. -/
theorem Readable.record_of_read {catalog : Catalog} {entry found : CatalogEntry}
    (hcatalog : catalog.Readable)
    (hread : CatalogEntry.ofOctets? (Utf8.encode entry.text) = some found) :
    (catalog.record entry).Readable := by
  intro octets hmem
  obtain ⟨held, hheld, rfl⟩ := List.mem_map.1 hmem
  rcases SortedMap.mem_insertEntry hheld with rfl | hheld
  · exact ⟨found, hread⟩
  · exact hcatalog _ (List.mem_map_of_mem hheld)

theorem Readable.record {catalog : Catalog} {entry : CatalogEntry} (hcatalog : catalog.Readable)
    (hdefinition : entry.definition.WellFormed) (hentry : entry.Readable) :
    (catalog.record entry).Readable :=
  hcatalog.record_of_read (CatalogEntry.ofOctets?_text hdefinition hentry)

private theorem exists_readEntries_eq {values : List (List UInt8)}
    (h : ∀ octets ∈ values, ∃ entry, CatalogEntry.ofOctets? octets = some entry)
    (entries : SortedMap String CatalogEntry) :
    ∃ result, readEntries entries values = .ok result := by
  induction values generalizing entries with
  | nil => exact ⟨entries, rfl⟩
  | cons octets rest ih =>
      obtain ⟨entry, hentry⟩ := h octets (List.mem_cons_self ..)
      obtain ⟨result, hresult⟩ :=
        ih (fun other hmem => h other (List.mem_cons_of_mem _ hmem))
          (entries.insert entry.name entry)
      refine ⟨result, ?_⟩
      rw [readEntries, hentry]
      exact hresult

theorem Readable.exists_ofTree_eq {catalog : Catalog} (h : catalog.Readable) :
    ∃ entries, ofTree catalog.tree = .ok ⟨catalog.tree, entries⟩ := by
  obtain ⟨entries, hentries⟩ := exists_readEntries_eq h .empty
  refine ⟨entries, ?_⟩
  rw [ofTree, hentries]
  rfl

end Catalog

namespace Store

/-- A store whose catalog can be read is opened again on what it was closed with. -/
theorem exists_reopen_eq {store : Store} (h : store.catalog.Readable) :
    ∃ entries, store.reopen = .ok { store with
      recovered := true
      catalog := ⟨store.catalog.tree, entries⟩
      registry := .empty
      log := store.log ++ [.opened store.database true entries.size] } := by
  obtain ⟨entries, hentries⟩ := h.exists_ofTree_eq
  refine ⟨entries, ?_⟩
  rw [reopen, reopenOn, ofArchive, archive, hentries]
  rfl

end Store

end TypedCollections
