import TypedCollections.Store.Writing
/-!
# Registering and opening again

Registering a collection fails and leaves the store as it is, or it adds the collection under a name
that was free. Opening the store again keeps the documents and the index, and no collection is
registered any more.
-/

namespace TypedCollections

namespace Store

variable {store : Store}

/-- A collection is registered under a free name, if its patterns can be read. -/
theorem register_eq {name : String} {schema : Schema} {patterns : Patterns} (now : Nat)
    (hname : name ≠ "") (hpatterns : Patterns.ofFields schema.fields = .ok patterns)
    (hfresh : store.hasCollection name = false) :
    store.register now name schema = (.ok ⟨name, store.database, schema, patterns⟩,
      store.addCollection now ⟨name, store.database, schema, patterns⟩) := by
  unfold Store.register
  rw [if_neg hname, hpatterns, hfresh]
  rfl

/-- Registering fails and leaves the store as it is, or it adds a collection under a free name. -/
theorem register_cases (store : Store) (now : Nat) (name : String) (schema : Schema) :
    (∃ error, store.register now name schema = (.error error, store)) ∨
    ∃ patterns, name ≠ "" ∧ Patterns.ofFields schema.fields = .ok patterns ∧
      store.hasCollection name = false ∧
      store.register now name schema = (.ok ⟨name, store.database, schema, patterns⟩,
        store.addCollection now ⟨name, store.database, schema, patterns⟩) := by
  by_cases hname : name = ""
  · exact .inl ⟨_, if_pos hname⟩
  · cases hpatterns : Patterns.ofFields schema.fields with
    | error fault =>
        refine .inl ⟨.invalidSchema fault, ?_⟩
        rw [Store.register, if_neg hname, hpatterns]
    | ok patterns =>
        cases hfree : store.hasCollection name with
        | true =>
            refine .inl ⟨.duplicateRegistration name, ?_⟩
            rw [Store.register, if_neg hname, hpatterns, hfree]
            rfl
        | false => exact .inr ⟨patterns, hname, rfl, rfl, register_eq now hname hpatterns hfree⟩

/-- Registering leaves the documents and the index alone, and registers at most one collection. -/
theorem register_spec (store : Store) (now : Nat) (name : String) (schema : Schema) :
    (store.register now name schema).2.documents = store.documents ∧
      (store.register now name schema).2.unique = store.unique ∧
      ∀ other collection, (store.register now name schema).2.collection? other = some collection →
        store.collection? other = some collection ∨
          other = name ∧ collection.name = name ∧ collection.schema = schema ∧
            Patterns.ofFields schema.fields = .ok collection.patterns := by
  obtain ⟨error, heq⟩ | ⟨patterns, -, hpatterns, -, heq⟩ := register_cases store now name schema
  · rw [heq]
    exact ⟨rfl, rfl, fun _ _ h => .inl h⟩
  · rw [heq]
    refine ⟨rfl, rfl, fun other collection h => ?_⟩
    have hfind : (store.registry.insert name ⟨name, store.database, schema, patterns⟩).find? other
        = some collection := h
    rw [SortedMap.find?_insert] at hfind
    split at hfind
    · rename_i heq
      cases hfind
      exact .inr ⟨heq.symm, rfl, rfl, hpatterns⟩
    · exact .inl hfind

theorem collection?_addCollection (store : Store) (now : Nat) (collection : Collection) :
    (store.addCollection now collection).collection? collection.name = some collection := by
  show (store.registry.insert collection.name collection).find? collection.name = _
  rw [SortedMap.find?_insert, if_pos rfl]

@[simp] theorem hasCollection_report (store : Store) (event : Event) (name : String) :
    (store.report event).hasCollection name = store.hasCollection name := rfl

theorem hasCollection_addCollection (store : Store) (now : Nat) (collection : Collection)
    (name : String) :
    (store.addCollection now collection).hasCollection name
      = (decide (collection.name = name) || store.hasCollection name) := by
  show (store.registry.insert collection.name collection).has name = _
  unfold SortedMap.has
  rw [SortedMap.find?_insert]
  by_cases h : collection.name = name <;> simp [h, hasCollection, SortedMap.has]

/-- Opening again leaves the documents and the index alone, and no collection is registered. -/
theorem reopen_spec {opened : Store} (h : store.reopen = .ok opened) :
    opened.documents = store.documents ∧ opened.unique = store.unique ∧
      ∀ name, opened.collection? name = none := by
  unfold Store.reopen reopenOn ofArchive at h
  cases hcatalog : Catalog.ofTree store.archive.catalog with
  | error error =>
      rw [hcatalog] at h
      cases h
  | ok catalog =>
      rw [hcatalog] at h
      cases h
      exact ⟨rfl, rfl, fun _ => rfl⟩

end Store

end TypedCollections
