import TypedCollections.Proofs.Json.Shape
import TypedCollections.Proofs.Json.Unambiguous
import TypedCollections.Proofs.Store.Catalog
/-!
# What a catalog recalls

An entry that was written down and is read again is the entry recorded, except for the numbers in its
definition: they are read again as well. It is read at all only if its text nests within the reader's
limit. So a catalog opened on a tree that holds the texts of entries under their names has, under each
name, the entry that the octets there are read as.
-/

namespace TypedCollections

namespace CatalogEntry

/-- What an entry is read as: everything is kept but the numbers in the definition. -/
structure Recalls (entry found : CatalogEntry) : Prop where
  name : found.name = entry.name
  definition : ∃ raw, entry.definition.reread? = some raw ∧ found.definition = raw.settle
  expandable : found.expandable = entry.expandable
  timestamps : found.timestamps = entry.timestamps
  fingerprint : found.fingerprint = entry.fingerprint

private theorem rereadList?_strings (texts : List String) :
    Json.rereadList? (texts.map .string) = some (texts.map .string) := by
  induction texts with
  | nil => rfl
  | cons text rest ih =>
      exact Json.rereadList?_cons_eq_some_iff.2 ⟨_, _, rfl, ih, rfl⟩

/-- The JSON form of an entry that is read again has its definition and its time read again. -/
private theorem exists_reread?_toJson {entry : CatalogEntry} {raw : Json}
    (h : entry.toJson.reread? = some raw) :
    ∃ definition registeredAt, entry.definition.reread? = some definition ∧
      (Json.ofNat entry.registeredAt).reread? = some registeredAt ∧
      raw = .object [("name", .string entry.name), ("schema", definition),
        ("expandable", .array (entry.expandable.map .string)),
        ("timestamps", .bool entry.timestamps), ("fingerprint", .string entry.fingerprint),
        ("registeredAt", registeredAt)] := by
  simp only [toJson, Json.reread?, Json.rereadMembers?, rereadList?_strings, Option.map_some,
    Option.bind_some] at h
  cases hdefinition : entry.definition.reread? with
  | none =>
      rw [hdefinition] at h
      cases h
  | some definition =>
      cases hregisteredAt : (Json.ofNat entry.registeredAt).reread? with
      | none =>
          rw [hdefinition, hregisteredAt] at h
          cases h
      | some registeredAt =>
          rw [hdefinition, hregisteredAt] at h
          cases h
          exact ⟨definition, registeredAt, rfl, rfl, rfl⟩

private theorem attends_parts {name : String} (h : name ∈ partNames)
    (before : List (String × Json)) :
    Json.Rules.Attends ⟨Json.nestingLimit, some partNames⟩ [.member before name] := by
  intro inner
  simp [Json.Rules.skims, h]

private theorem readRaw_text_eq_ok_iff {entry : CatalogEntry} {raw : Json} :
    Json.readRaw ⟨Json.nestingLimit, some partNames⟩ entry.text = .ok raw ↔
      entry.toJson.depth ≤ Json.nestingLimit ∧ entry.toJson.reread? = some raw :=
  Json.readRaw_object_eq_ok_iff (fun _ hname before => attends_parts hname before) rfl

/-- What is read from the text of an entry, and when anything is. -/
theorem ofOctets?_text_eq_some_iff {entry found : CatalogEntry} :
    ofOctets? (Utf8.encode entry.text) = some found ↔
      entry.toJson.depth ≤ Json.nestingLimit ∧
        ∃ definition registeredAt time, entry.definition.reread? = some definition ∧
          (Json.ofNat entry.registeredAt).reread? = some registeredAt ∧
          registeredAt.settle.nat? = some time ∧
          found = { entry with definition := definition.settle, registeredAt := time } := by
  rw [ofOctets?, Utf8.decode?_encode, Option.bind_some]
  constructor
  · intro h
    cases hread : Json.readRaw ⟨Json.nestingLimit, some partNames⟩ entry.text with
    | error stop =>
        rw [hread] at h
        cases h
    | ok raw =>
        rw [hread] at h
        obtain ⟨hdepth, hreread⟩ := readRaw_text_eq_ok_iff.1 hread
        obtain ⟨definition, registeredAt, hdefinition, hregisteredAt, rfl⟩ :=
          exists_reread?_toJson hreread
        simp only [ofRaw?_object] at h
        obtain ⟨time, htime, rfl⟩ := Option.map_eq_some_iff.1 h
        exact ⟨hdepth, definition, registeredAt, time, hdefinition, hregisteredAt, htime, rfl⟩
  · intro h
    obtain ⟨hdepth, definition, registeredAt, time, hdefinition, hregisteredAt, htime, rfl⟩ := h
    have hreread : entry.toJson.reread? = some (.object
        [("name", .string entry.name), ("schema", definition),
          ("expandable", .array (entry.expandable.map .string)),
          ("timestamps", .bool entry.timestamps), ("fingerprint", .string entry.fingerprint),
          ("registeredAt", registeredAt)]) := by
      simp [toJson, Json.reread?, Json.rereadMembers?, rereadList?_strings, hdefinition,
        hregisteredAt]
    rw [readRaw_text_eq_ok_iff.2 ⟨hdepth, hreread⟩]
    simp only [ofRaw?_object, htime, Option.map_some]

theorem recalls_of_ofOctets? {entry found : CatalogEntry}
    (h : ofOctets? (Utf8.encode entry.text) = some found) : entry.Recalls found := by
  obtain ⟨-, definition, _, _, hdefinition, -, -, rfl⟩ := ofOctets?_text_eq_some_iff.1 h
  exact ⟨rfl, ⟨definition, hdefinition, rfl⟩, rfl, rfl, rfl⟩

private theorem legible_strings (texts : List String) : Json.LegibleList (texts.map .string) := by
  induction texts with
  | nil => trivial
  | cons text rest ih => exact ⟨trivial, ih⟩

private theorem depth_strings (texts : List String) : Json.depthList (texts.map .string) = 0 := by
  induction texts with
  | nil => rfl
  | cons text rest ih =>
      show max 0 (Json.depthList (rest.map .string)) = 0
      rw [ih]
      rfl

private theorem legible_toJson_iff {entry : CatalogEntry} :
    entry.toJson.Legible ↔ entry.definition.Legible :=
  ⟨fun h => h.2.1, fun h => ⟨trivial, h, legible_strings _, trivial, trivial, trivial, trivial⟩⟩

/-- An entry is an object around its definition. -/
theorem depth_toJson_le_iff {entry : CatalogEntry} :
    entry.toJson.depth ≤ Json.nestingLimit ↔ entry.definition.depth < Json.nestingLimit := by
  simp only [toJson, Json.depth, Json.depthMembers, Json.ofNat, depth_strings, Json.nestingLimit]
  omega

/-- Only the definition of an entry decides whether its text is read back. -/
theorem readable_iff {entry : CatalogEntry} (htime : entry.registeredAt < 1 <<< 64) :
    entry.Readable ↔ entry.definition.Legible ∧ entry.definition.depth < Json.nestingLimit := by
  rw [← legible_toJson_iff, ← depth_toJson_le_iff]
  exact ⟨fun h => ⟨h.legible, h.depth_le⟩, fun h => ⟨htime, h.1, h.2⟩⟩

/-- An entry is read from its own octets exactly if its text can be read back. -/
theorem ofOctets?_text_eq_self_iff {entry : CatalogEntry} (hdefinition : entry.definition.WellFormed)
    (htime : entry.registeredAt < 1 <<< 64) :
    ofOctets? (Utf8.encode entry.text) = some entry ↔ entry.Readable := by
  refine ⟨fun h => ⟨htime, ?_, ?_⟩, ofOctets?_text hdefinition⟩
  · obtain ⟨-, raw, _, _, hraw, -, -, heq⟩ := ofOctets?_text_eq_some_iff.1 h
    have hsettle : raw.settle = entry.definition := (congrArg definition heq).symm
    exact legible_toJson_iff.2 ((Json.reread?_settle_iff hdefinition).1 ⟨raw, hraw, hsettle⟩)
  · exact (ofOctets?_text_eq_some_iff.1 h).1

/-- Entries with the same text are the same entry. -/
theorem text_inj {a b : CatalogEntry} (h : a.text = b.text) : a = b := by
  have hjson : a.toJson = b.toJson := Json.text_inj h
  simp only [toJson, Json.ofNat, Json.object.injEq, List.cons.injEq, Prod.mk.injEq, true_and,
    Json.string.injEq, Json.array.injEq, Json.bool.injEq, Json.number.injEq, Numeral.integer.injEq,
    and_true, Int.natCast_inj] at hjson
  obtain ⟨hname, hdefinition, hexpandable, htimestamps, hfingerprint, htime⟩ := hjson
  have hstrings : Function.Injective Json.string := fun _ _ heq => Json.string.inj heq
  have hexpandable := (List.map_inj_right fun _ _ heq => hstrings heq).1 hexpandable
  obtain ⟨name, definition, expandable, timestamps, fingerprint, registeredAt⟩ := a
  obtain ⟨name', definition', expandable', timestamps', fingerprint', registeredAt'⟩ := b
  cases hname
  cases hdefinition
  cases hexpandable
  cases htimestamps
  cases hfingerprint
  cases htime
  rfl

end CatalogEntry

namespace Catalog

/-- The tree holds texts of entries, each under its name. -/
def Written (tree : Tree) : Prop :=
  ∀ key octets, tree.find? key = some octets → ∃ entry : CatalogEntry,
    key = Utf8.encode entry.name ∧ octets = Utf8.encode entry.text

theorem written_empty : Written .empty := by
  intro key octets h
  cases h

theorem Written.record {catalog : Catalog} (h : Written catalog.tree) (entry : CatalogEntry) :
    Written (catalog.record entry).tree := by
  intro key octets hfind
  rw [Catalog.record, SortedMap.find?_insert] at hfind
  split at hfind
  · rename_i heq
    cases hfind
    exact ⟨entry, heq.symm, rfl⟩
  · exact h key octets hfind

/-- Reading entries one after the other, each from octets under its name: what is found under a name
was read from the octets under it, or it was there before. -/
private theorem find?_readEntries {list : List (List UInt8 × List UInt8)}
    {entries result : SortedMap String CatalogEntry} (hkeys : (list.map Prod.fst).Nodup)
    (hnames : ∀ item ∈ list, ∀ entry, CatalogEntry.ofOctets? item.2 = some entry →
      Utf8.encode entry.name = item.1)
    (h : readEntries entries (list.map Prod.snd) = .ok result) :
    (∀ item ∈ list, ∃ entry, CatalogEntry.ofOctets? item.2 = some entry) ∧
    ∀ name entry, result.find? name = some entry ↔
      (∃ octets, (Utf8.encode name, octets) ∈ list ∧ CatalogEntry.ofOctets? octets = some entry) ∨
      (Utf8.encode name ∉ list.map Prod.fst ∧ entries.find? name = some entry) := by
  induction list generalizing entries with
  | nil =>
      cases h
      simp
  | cons item rest ih =>
      obtain ⟨key, octets⟩ := item
      rw [List.map_cons, readEntries] at h
      cases hread : CatalogEntry.ofOctets? octets with
      | none =>
          rw [hread] at h
          cases h
      | some first =>
          rw [hread] at h
          have hkey : Utf8.encode first.name = key :=
            hnames (key, octets) (List.mem_cons_self ..) first hread
          rw [List.map_cons, List.nodup_cons] at hkeys
          obtain ⟨hread', hfind⟩ :=
            ih hkeys.2 (fun item hmem => hnames item (List.mem_cons_of_mem _ hmem)) h
          refine ⟨?_, fun name entry => ?_⟩
          · intro item hmem
            rcases List.mem_cons.1 hmem with rfl | hmem
            · exact ⟨first, hread⟩
            · exact hread' item hmem
          · rw [hfind, SortedMap.find?_insert]
            by_cases hname : first.name = name
            · subst hname
              have hnot : ∀ octets', (Utf8.encode first.name, octets') ∉ rest := fun octets' hmem =>
                hkeys.1 (List.mem_map.2 ⟨_, hmem, hkey⟩)
              simp [← hkey, hread, hnot]
            · have hne : Utf8.encode name ≠ key := fun heq =>
                hname (Utf8.encode_injective (hkey.trans heq.symm))
              simp [hname, hne]

/-- A catalog opened on a tree that holds the texts of entries has, under each name, the entry that
the octets there are read as. All of them are read. -/
theorem find?_ofTree {tree : Tree} {catalog : Catalog} (hwritten : Written tree)
    (h : ofTree tree = .ok catalog) :
    catalog.tree = tree ∧
      (∀ name, catalog.find? name = (tree.find? (Utf8.encode name)).bind CatalogEntry.ofOctets?) ∧
      ∀ key octets, tree.find? key = some octets →
        ∃ entry, CatalogEntry.ofOctets? octets = some entry := by
  unfold ofTree at h
  obtain ⟨entries, hentries, rfl⟩ := map_eq_ok_iff.1 h
  have hkeys : (tree.entries.map Prod.fst).Nodup := by
    apply List.pairwise_map.2
    refine tree.sorted.imp fun hlt heq => ?_
    rw [heq] at hlt
    exact absurd (hlt.symm.trans Std.ReflCmp.compare_self) (by decide)
  have hnames : ∀ item ∈ tree.entries, ∀ entry, CatalogEntry.ofOctets? item.2 = some entry →
      Utf8.encode entry.name = item.1 := by
    intro item hmem entry hentry
    obtain ⟨recorded, hkey, hoctets⟩ := hwritten item.1 item.2 (SortedMap.find?_eq_some_iff.2 hmem)
    rw [hoctets] at hentry
    rw [hkey, (CatalogEntry.recalls_of_ofOctets? hentry).name]
  obtain ⟨hread, hfind⟩ := find?_readEntries hkeys hnames hentries
  refine ⟨rfl, fun name => ?_, fun key octets hoctets => ?_⟩
  · apply Option.ext
    intro entry
    rw [Option.bind_eq_some_iff]
    constructor
    · intro hentry
      obtain ⟨octets, hmem, hentry⟩ | ⟨-, hnone⟩ := (hfind name entry).1 hentry
      · exact ⟨octets, SortedMap.find?_eq_some_iff.2 hmem, hentry⟩
      · cases hnone
    · intro hentry
      obtain ⟨octets, hmem, hentry⟩ := hentry
      exact (hfind name entry).2 (.inl ⟨octets, SortedMap.find?_eq_some_iff.1 hmem, hentry⟩)
  · exact hread (key, octets) (SortedMap.find?_eq_some_iff.1 hoctets)

end Catalog

namespace Store

/-- A store is opened again on the catalog of its tree, with nothing registered. -/
theorem reopen_eq_ok_iff {store opened : Store} :
    store.reopen = .ok opened ↔ ∃ catalog, Catalog.ofTree store.catalog.tree = .ok catalog ∧
      opened = { store with
        recovered := true
        catalog
        registry := .empty
        log := store.log ++ [.opened store.database true catalog.size] } := by
  rw [reopen, reopenOn, ofArchive, archive]
  cases hcatalog : Catalog.ofTree store.catalog.tree with
  | error error => simp [Except.map]
  | ok catalog => simp [Except.map, eq_comm]

end Store

end TypedCollections
