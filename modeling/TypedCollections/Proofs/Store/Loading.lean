import TypedCollections.Proofs.Store.Expansion
import TypedCollections.Proofs.Store.Histories
/-!
# Loading documents

In every store that was made by steps, a document stands under its own identifier, whatever is read
back of its fields. Expanding fields of a document changes these fields only, and each of them holds
what its reference loads.
-/

namespace TypedCollections

namespace Store

variable {store : Store} {collection target : Collection}

/-! ### Identifiers -/

/-- Every entry of a tree is the octets of a document under its identifier. -/
def Keyed (store : Store) : Prop :=
  ∀ name key octets, (store.tree name).find? key = some octets → ∃ document : Document,
    key = document.id.octets ∧ octets = document.toOctets ∧
      idField ∉ Entries.names document.fields ∧ Entries.Distinct document.fields

theorem keyed_fresh (database : String) (generator : ObjectId.Generator) :
    (fresh database generator).Keyed :=
  fun name key octets h => by cases h

theorem Keyed.congr {other : Store} (hstore : store.Keyed)
    (hdocuments : other.documents = store.documents) : other.Keyed := by
  intro name key octets h
  rw [tree, hdocuments] at h
  exact hstore name key octets h

theorem Keyed.perform (hstore : store.Keyed) (step : Step) : (store.perform step).Keyed := by
  generalize hother : store.perform step = other
  have houtcome : Outcome store step other := hother ▸ outcome_of_perform store step
  cases houtcome with
  | registers h => exact hstore.congr h.documents
  | reopens _ h => exact hstore.congr h.documents
  | writes _ _ h =>
      obtain ⟨collection, -, ⟨now, previous, checked, -, -, rfl⟩, -, hfind⟩ := h.exists_makes
      intro name key octets hentry
      rw [hfind] at hentry
      split at hentry
      · rename_i hplace
        exact ⟨_, hplace.2, (Option.some.inj hentry).symm, Document.id_not_mem_ofFields _ _,
          Document.distinct_ofFields _ _⟩
      · exact hstore name key octets hentry
  | deletes h =>
      intro name key octets hentry
      exact hstore name key octets (h.find? hentry)

theorem Keyed.performAll (hstore : store.Keyed) (steps : List Step) :
    (store.performAll steps).Keyed := by
  induction steps generalizing store with
  | nil => exact hstore
  | cons step rest ih => exact ih (hstore.perform step)

/-- What is found under an identifier has this identifier. -/
theorem Keyed.id_of_find (hstore : store.Keyed) {id : ObjectId} {found : Document}
    (h : store.find collection id = .ok (some found)) : found.id = id := by
  obtain ⟨octets, htree, hread⟩ := ofOctets_of_find h
  obtain ⟨document, hkey, rfl, hid, hdistinct⟩ := hstore _ _ _ htree
  rw [Document.id_of_ofOctets_toOctets hid hdistinct hread]
  exact (ObjectId.ext_octets hkey).symm

/-- No document that is found has a field called `_id`. -/
theorem id_not_mem_of_find {id : ObjectId} {found : Document}
    (h : store.find collection id = .ok (some found)) :
    idField ∉ Entries.names found.fields := by
  obtain ⟨octets, -, hread⟩ := ofOctets_of_find h
  exact Document.id_not_mem_of_ofOctets hread

/-- A collection holds an identifier exactly if something stands under it. -/
theorem has_of_find {id : ObjectId} {found? : Option Document}
    (h : store.find collection id = .ok found?) :
    (store.tree collection.name).has id.octets = found?.isSome := by
  unfold SortedMap.has
  unfold find at h
  cases htree : (store.tree collection.name).find? id.octets with
  | none =>
      rw [htree] at h
      cases h
      rfl
  | some octets =>
      rw [htree] at h
      obtain ⟨document, -, rfl⟩ := map_eq_ok_iff.1 h
      rfl

end Store

/-! ### Expanded fields -/

namespace Document

theorem isPopulated_populate {document : Document} (h : document.Arranged) {name : String}
    {value : Value} (hvalue : document.get? name = some value) (loaded : Value) (other : String) :
    (document.populate name loaded).isPopulated other
      = (decide (other = name) || document.isPopulated other) := by
  unfold isPopulated
  rw [populatedKeys?_populate h hvalue]
  by_cases hother : other = name <;> simp [hother]

theorem get?_populate (document : Document) (name : String) (loaded : Value) (other : String) :
    (document.populate name loaded).get? other
      = if name = other then some loaded else document.get? other :=
  Entries.find?_write document.fields name other loaded

theorem names_populate {document : Document} {name : String} {value : Value}
    (hvalue : document.get? name = some value) (loaded : Value) :
    Entries.names (document.populate name loaded).fields = Entries.names document.fields := by
  show Entries.names (Entries.write document.fields name loaded) = _
  rw [Entries.names_write, if_pos]
  exact Entries.mem_names_iff.2 ⟨value, hvalue⟩

end Document

namespace Store

variable {store : Store} {collection target : Collection}

/-- What expanding fields of a document does: only these fields change, what is expanded already
stays as it is, and any other field holds what its reference loads, if it loads anything. -/
structure Expands (store : Store) (collection : Collection) (names : List String)
    (document expanded : Document) : Prop where
  id : expanded.id = document.id
  names_eq : Entries.names expanded.fields = Entries.names document.fields
  other : ∀ name, name ∉ names ∨ document.isPopulated name = true →
    expanded.isPopulated name = document.isPopulated name ∧
      expanded.get? name = document.get? name
  field : ∀ name ∈ names, document.isPopulated name = false → ∃ targetName target loaded?,
    collection.reference? name = some targetName ∧ store.collection? targetName = some target ∧
      store.loadReference collection target name (document.get? name) = .ok loaded? ∧
      expanded.isPopulated name = loaded?.isSome ∧
      expanded.get? name = loaded?.or (document.get? name)

theorem Expands.refl (document : Document) : store.Expands collection [] document document :=
  ⟨rfl, rfl, fun _ _ => ⟨rfl, rfl⟩, fun name hmem => by cases hmem⟩

theorem expands_of_populate {document expanded : Document} {name : String}
    (hdocument : document.Arranged) (h : store.populate collection document name = .ok expanded) :
    store.Expands collection [name] document expanded := by
  obtain ⟨targetName, target, hreference, htarget, ⟨hpopulated, rfl⟩ |
    ⟨hpopulated, loaded?, hloaded, rfl⟩⟩ := exists_of_populate h
  · refine ⟨rfl, rfl, fun _ _ => ⟨rfl, rfl⟩, fun other hmem hother => ?_⟩
    cases List.mem_singleton.1 hmem
    rw [hpopulated] at hother
    cases hother
  · cases loaded? with
    | none =>
        refine ⟨rfl, rfl, fun _ _ => ⟨rfl, rfl⟩, fun other hmem _ => ?_⟩
        cases List.mem_singleton.1 hmem
        exact ⟨targetName, target, none, hreference, htarget, hloaded, hpopulated, rfl⟩
    | some loaded =>
        obtain ⟨value, hvalue, -⟩ := regular_of_loadReference hloaded
        refine ⟨rfl, Document.names_populate hvalue loaded, fun other hother => ?_,
          fun other hmem _ => ?_⟩
        · have hne : other ≠ name := by
            rintro rfl
            rcases hother with hother | hother
            · exact hother (List.mem_singleton_self _)
            · rw [hpopulated] at hother
              cases hother
          simp [Document.isPopulated_populate hdocument hvalue, Document.get?_populate, hne,
            Ne.symm hne]
        · cases List.mem_singleton.1 hmem
          exact ⟨targetName, target, some loaded, hreference, htarget, hloaded,
            by simp [Document.isPopulated_populate hdocument hvalue],
            by simp [Document.get?_populate]⟩

theorem Expands.trans {name : String} {rest : List String} {document next expanded : Document}
    (hfirst : store.Expands collection [name] document next)
    (hrest : store.Expands collection rest next expanded) :
    store.Expands collection (name :: rest) document expanded := by
  refine ⟨hrest.id.trans hfirst.id, hrest.names_eq.trans hfirst.names_eq, ?_, ?_⟩
  · intro other hother
    have hnext := hfirst.other other (hother.imp_left fun h hmem => h (by simp_all))
    have hexpanded := hrest.other other (hother.imp (fun h hmem => h (by simp [hmem]))
      (hnext.1.trans ·))
    exact ⟨hexpanded.1.trans hnext.1, hexpanded.2.trans hnext.2⟩
  · intro other hmem hpopulated
    by_cases hname : other = name
    · subst hname
      obtain ⟨targetName, target, loaded?, hreference, htarget, hloaded, hnext, hvalue⟩ :=
        hfirst.field other (List.mem_singleton_self _) hpopulated
      cases loaded? with
      | some loaded =>
          obtain ⟨hstays, hget⟩ := hrest.other other (.inr hnext)
          exact ⟨targetName, target, some loaded, hreference, htarget, hloaded,
            hstays.trans hnext, hget.trans hvalue⟩
      | none =>
          have hvalue : next.get? other = document.get? other := hvalue
          by_cases hagain : other ∈ rest
          · rw [← hvalue]
            exact hrest.field other hagain hnext
          · obtain ⟨hstays, hget⟩ := hrest.other other (.inl hagain)
            exact ⟨targetName, target, none, hreference, htarget, hloaded, hstays.trans hnext,
              hget.trans hvalue⟩
    · have hmem : other ∈ rest := (List.mem_cons.1 hmem).resolve_left hname
      obtain ⟨hstays, hvalue⟩ := hfirst.other other (.inl (by simpa using hname))
      rw [← hvalue]
      exact hrest.field other hmem (hstays.trans hpopulated)

theorem expands_of_populateEach {document expanded : Document} {names : List String}
    (hdocument : document.Regular)
    (h : store.populateEach collection document names = .ok expanded) :
    store.Expands collection names document expanded := by
  induction names generalizing document with
  | nil =>
      cases h
      exact .refl expanded
  | cons name rest ih =>
      rw [populateEach] at h
      split at h
      · cases h
      · rename_i next hnext
        exact (expands_of_populate hdocument.arranged hnext).trans
          (ih (regular_of_populate hdocument hnext) h)

/-- A document that is found with expanded fields is the document found, with these fields
expanded. -/
theorem expands_of_findExpanded {id : ObjectId} {names : List String} {found expanded : Document}
    (hfind : store.find collection id = .ok (some found))
    (h : store.findExpanded collection id names = .ok (some expanded)) :
    store.Expands collection names found expanded := by
  unfold findExpanded at h
  rw [hfind] at h
  obtain ⟨document, hdocument, heq⟩ := map_eq_ok_iff.1 h
  cases heq
  exact expands_of_populateEach (regular_of_find hfind) hdocument

/-- No field of a document that was found is expanded. -/
theorem isPopulated_of_find {id : ObjectId} {found : Document}
    (h : store.find collection id = .ok (some found)) (name : String) :
    found.isPopulated name = false := by
  obtain ⟨octets, -, hread⟩ := ofOctets_of_find h
  exact Document.isPopulated_of_ofOctets hread name

end Store

end TypedCollections
