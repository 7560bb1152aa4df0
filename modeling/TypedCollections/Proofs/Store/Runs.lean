import TypedCollections.Proofs.Store.Histories
/-!
# Runs keep a store consistent

A store that starts without content conforms and is consistent, and every request keeps it so. What
a request can do to the trees and to the registered collections is enough for the first, and nothing
is asked of names. That the index stays exact is a second invariant on top: a write exchanges the
keys of the document found for those of the document written, and a deletion releases those of the
document deleted.
-/

namespace TypedCollections

variable {definition : String → Fields} {good : String → Document → Prop}

/-- What a request registers has the fields of its name. -/
theorem Request.Agrees.registered {request : Request} (hagrees : request.Agrees definition)
    {name : String} {collection : Collection} (hname : collection.name = name)
    (haccepts : (Step.request request).Accepts name collection.schema)
    (hpatterns : Patterns.ofFields collection.schema.fields = .ok collection.patterns) :
    Registered definition name collection := by
  cases request with
  | register now given schema =>
      obtain ⟨rfl, hschema⟩ := haccepts
      have hfields : collection.schema.fields = definition given := by
        rw [← hschema]
        exact hagrees
      exact ⟨hname, hfields, hfields ▸ hpatterns⟩
  | _ => exact haccepts.elim

namespace Store

variable {store other : Store}

/-! ### Conforming stores -/

theorem conforming_fresh (definition : String → Fields) (good : String → Document → Prop)
    (database : String) (generator : ObjectId.Generator) :
    (fresh database generator).Conforming definition good := by
  constructor
  · intro name collection h
    cases h
  · intro name key octets h
    cases h

/-- A document that is made for a registered collection is made of checked fields. -/
theorem Conforming.checked_of_makes (hstore : store.Conforming definition good) {name : String}
    {collection : Collection} {given stored : Document} (hdefinition : (definition name).WellFormed)
    (hregistered : Registered definition name collection) (hgiven : given.WellFormed)
    (h : store.Makes collection given stored) : stored.Checked (definition name) := by
  obtain ⟨now, previous, checked, hprevious, hcheck, rfl⟩ := h
  obtain ⟨found, hfind, hfound⟩ := hstore.find_eq hregistered given.id
  rw [hfind] at hprevious
  obtain rfl := Except.ok.inj hprevious
  obtain ⟨hdistinct, hvalues⟩ := Document.wellFormed_storedFields hgiven
  obtain ⟨hdistinct, hvalues⟩ := Collection.wellFormed_stamp collection now hdistinct hvalues
    fun before hbefore => hstore.wellFormed_of_holds ((hfound before).1 hbefore).1
  exact Collection.checked_of_check hdefinition hregistered.fields_eq hregistered.patterns_eq
    hdistinct hvalues hcheck

theorem Conforming.serve (hstore : store.Conforming definition good)
    (hdefinition : ∀ name, (definition name).WellFormed) {request : Request}
    (hagrees : request.Agrees definition)
    (hgood : ∀ name document, (name, document) ∈ request.written (store.serve request).1 →
      document.Storable (definition name) ∧ good name document) :
    (store.serve request).2.Conforming definition good := by
  have hregistered : (store.perform (.request request)).Enrolls (Registered definition) :=
    Enrolls.perform hstore.registered fun _ _ => hagrees.registered
  have houtcome := outcome_of_serve store request
  rw [perform] at hregistered
  generalize (store.serve request).2 = other at hregistered houtcome ⊢
  cases houtcome with
  | registers h => exact hstore.congr hregistered h.documents
  | reopens _ h => exact hstore.congr hregistered h.documents
  | writes hwritten hgiven h =>
      obtain ⟨collection, hfind, hmakes, -, hentries⟩ := h.exists_makes
      have hcollection := hstore.registered _ collection hfind
      have hchecked := hstore.checked_of_makes (hdefinition _) hcollection
        (hgiven (hagrees.proper hdefinition)) hmakes
      obtain ⟨hstorable, hgood⟩ := hgood _ _ hwritten
      refine hstore.extend hregistered fun wanted key octets hentry => ?_
      rw [hentries, hcollection.name_eq] at hentry
      split at hentry
      · rename_i hplace
        obtain ⟨rfl, rfl⟩ := hplace
        exact .inr ⟨_, hchecked, hstorable, hgood, rfl, (Option.some.inj hentry).symm⟩
      · exact .inl hentry
  | deletes h => exact hstore.extend hregistered fun _ _ _ hentry => .inl (h.find? hentry)

/-- Every run keeps a store conforming. -/
theorem Conforming.run (hstore : store.Conforming definition good)
    (hdefinition : ∀ name, (definition name).WellFormed) {requests : List Request}
    (hagrees : ∀ request ∈ requests, request.Agrees definition)
    (hgood : ∀ name document, (name, document) ∈ store.written requests →
      document.Storable (definition name) ∧ good name document) :
    (store.run requests).Conforming definition good := by
  induction requests generalizing store with
  | nil => exact hstore
  | cons request rest ih =>
      rw [List.forall_mem_cons] at hagrees
      have hserved := hstore.serve hdefinition hagrees.1 fun name document hmem =>
        hgood name document (List.mem_append_left _ hmem)
      exact ih hserved hagrees.2 fun name document hmem =>
        hgood name document (List.mem_append_right _ hmem)

/-! ### The unique index -/

theorem consistent_fresh (definition : String → Fields) (database : String)
    (generator : ObjectId.Generator) : (fresh database generator).Consistent definition := by
  refine ⟨conforming_fresh definition _ database generator, ?_, ?_⟩
  · intro name collection h
    cases h
  · intro octets value
    constructor
    · intro h
      cases h
    · intro h
      obtain ⟨name, document, key, ⟨stored, hfind, -⟩, -⟩ := h
      cases hfind

/-- The keys of the document found are those that the documents held under the identifier need. -/
theorem Consistent.mem_uniqueKeys_found (hstore : store.Consistent definition) {name : String}
    {collection : Collection} (hregistered : Registered definition name collection) {id : ObjectId}
    {previous : Option Document} (hprevious : store.find collection id = .ok previous)
    (key : UniqueKey) :
    key ∈ (previous.map collection.uniqueKeys).getD [] ↔ ∃ document, store.Holds name document ∧
      document.id = id ∧ Owns (definition name) name document key := by
  obtain ⟨found, hfind, hfound⟩ := hstore.find_eq hregistered id
  rw [hfind] at hprevious
  obtain rfl := Except.ok.inj hprevious
  have hmem : key ∈ (found.map collection.uniqueKeys).getD [] ↔
      ∃ document, found = some document ∧ Owns (definition name) name document key := by
    cases found with
    | none => simp
    | some document => simp [hregistered.mem_uniqueKeys]
  simp only [hmem, hfound, and_assoc]

/-- A write replaces the documents held under the identifier by the one that is read back, and their
keys by those of the document written. -/
theorem Consistent.replaces_written (hstore : store.Consistent definition) {name : String}
    {collection : Collection} (hcollection : store.collection? name = some collection)
    {stored : Document} (hchecked : stored.Checked (definition name))
    (hstorable : stored.Storable (definition name)) {previous : Option Document}
    (hprevious : store.find collection stored.id = .ok previous)
    (hentries : ∀ wanted key, (other.tree wanted).find? key =
      if wanted = collection.name ∧ key = stored.id.octets then some stored.toOctets
      else (store.tree wanted).find? key) :
    UniqueIndex.Replaces definition store.Holds other.Holds name stored.id (some stored.reread)
      ((previous.map collection.uniqueKeys).getD []) (collection.uniqueKeys stored) := by
  have hregistered := hstore.registered name collection hcollection
  have hread := Document.ofOctets_of_checked hchecked hstorable
  refine ⟨fun _ _ hold => hstore.plain_of_holds hold, hstore.plain name collection hcollection, ?_,
    ?_, hstore.mem_uniqueKeys_found hregistered hprevious, ?_⟩
  · intro wanted document
    rw [holds_of_find?_eq hentries, hregistered.name_eq, hread]
    by_cases hplace : wanted = name ∧ document.id = stored.id
    · rw [if_pos hplace, if_pos hplace]
      simp
    · rw [if_neg hplace, if_neg hplace]
  · rintro document ⟨⟩
    rfl
  · intro key
    rw [hregistered.mem_uniqueKeys, ← hchecked.owns_reread hstorable]
    simp

/-- A write keeps the index exact: the document written needs the keys that it claims, and those of
the document found are released. -/
theorem Consistent.exact_of_writes (hstore : store.Consistent definition) {name : String}
    {given stored : Document} (h : store.WritesTo name given stored other)
    (hchecked : stored.Checked (definition name)) (hstorable : stored.Storable (definition name)) :
    other.unique.Exact definition other.Holds := by
  obtain ⟨collection, hcollection, -, -, hentries⟩ := h.exists_makes
  obtain ⟨same, drawn, now, previous, events, hfind, hdrawn, hprevious, hwrite, hother⟩ := h
  obtain rfl : collection = same := Option.some.inj (hcollection.symm.trans hfind)
  obtain ⟨checked, unique, reported, -, hstored, hafter, hfree, hexchange⟩ :=
    exists_put_of_write hwrite
  have hid : stored.id = given.id := by rw [hstored, Document.id_ofFields]
  have hunique : other.unique = unique := by
    rw [hother, hafter]
    rfl
  rw [hdrawn.unique] at hfree hexchange
  rw [← hid] at hprevious hfree hexchange
  have hindex :=
    (UniqueIndex.exchange_of_free ((previous.map collection.uniqueKeys).getD []) hfree).2
  rw [hexchange] at hindex
  rw [hunique]
  exact hstore.exact.replace
    (hstore.replaces_written hfind hchecked hstorable hprevious hentries) hfree hindex

/-- A deletion replaces the document held under the identifier by none, and its keys by none. -/
theorem Consistent.replaces_erased (hstore : store.Consistent definition) {name : String}
    {collection : Collection} (hcollection : store.collection? name = some collection)
    {removed : Document} (hold : store.Holds name removed) :
    UniqueIndex.Replaces definition store.Holds
      (store.setTree name ((store.tree name).erase removed.id.octets)).Holds name removed.id none
      (collection.uniqueKeys removed) [] := by
  refine ⟨fun _ _ hold => hstore.plain_of_holds hold, hstore.plain name _ hcollection, ?_, ?_, ?_,
    ?_⟩
  · intro wanted document
    simp only [reduceCtorEq]
    exact holds_erased name removed.id wanted document
  · intro document h
    cases h
  · intro key
    rw [(hstore.registered name collection hcollection).mem_uniqueKeys]
    constructor
    · intro howns
      exact ⟨removed, hold, rfl, howns⟩
    · intro h
      obtain ⟨document, hheld, hid, howns⟩ := h
      rw [hold.unique hheld hid.symm]
      exact howns
  · simp

/-- A deletion keeps the index exact: the keys of the document deleted are released. -/
theorem Consistent.exact_of_deletes (hstore : store.Consistent definition)
    (h : store.Deletes other) : other.unique.Exact definition other.Holds := by
  obtain ⟨name, collection, id, hcollection, rfl⟩ := h
  have hname := (hstore.registered name collection hcollection).name_eq
  cases hfind : (store.tree name).find? id.octets with
  | none =>
      unfold Store.delete
      simp only [hname, hfind]
      exact hstore.exact
  | some octets =>
      obtain ⟨removed, hold, hkey, hread⟩ := hstore.exists_holds hfind
      obtain rfl : id = removed.id := ObjectId.ext_octets hkey
      obtain ⟨events, hdelete⟩ := delete_of_find? collection (by rw [hname, hfind]) hread
      rw [hdelete, hname]
      have hfree : store.unique.Free removed.id [] := fun key hmem => by cases hmem
      apply hstore.exact.replace (hstore.replaces_erased hcollection hold) hfree
      intro octets
      show (store.unique.releaseEach removed.id (collection.uniqueKeys removed)).tree.find? octets = _
      simp [UniqueIndex.find?_releaseEach, UniqueIndex.Among]

/-- Only registered collections are written into. -/
theorem exists_collection?_of_written {request : Request} {name : String} {document : Document}
    (h : (name, document) ∈ request.written (store.serve request).1) :
    ∃ collection, store.collection? name = some collection := by
  cases hfind : store.collection? name with
  | some collection => exact ⟨collection, rfl⟩
  | none =>
      unfold Request.written at h
      split at h
      · rename_i written hanswer
        obtain ⟨asked, hasked, heq⟩ := Option.map_eq_some_iff.1 (Option.mem_toList.1 h)
        cases heq
        cases request with
        | insert _ now given =>
            cases hasked
            simp [serve, on, hfind] at hanswer
        | insertJson _ now json =>
            cases hasked
            simp [serve, on, hfind] at hanswer
        | update _ now given =>
            cases hasked
            simp [serve, on, hfind] at hanswer
        | _ => cases hasked
      · cases h

theorem Consistent.serve (hstore : store.Consistent definition)
    (hdefinition : ∀ name, (definition name).WellFormed) {request : Request}
    (hagrees : request.Agrees definition) (hplain : request.Plain)
    (hstorable : ∀ name document, (name, document) ∈ request.written (store.serve request).1 →
      document.Storable (definition name)) :
    (store.serve request).2.Consistent definition := by
  have hplain : (Step.request request).Plain := hplain
  have hnames : (store.perform (.request request)).Enrolls fun name _ => '\x00' ∉ name.toList :=
    Enrolls.perform hstore.plain fun _ _ _ haccepts _ => hplain.of_accepts haccepts
  refine ⟨hstore.toConforming.serve hdefinition hagrees fun name document hmem => ?_, hnames, ?_⟩
  · obtain ⟨collection, hfind⟩ := exists_collection?_of_written hmem
    exact ⟨hstorable name document hmem, hstore.plain name collection hfind⟩
  · have houtcome := outcome_of_serve store request
    generalize (store.serve request).2 = other at houtcome ⊢
    cases houtcome with
    | registers h =>
        rw [h.unique, holds_congr h.documents]
        exact hstore.exact
    | reopens _ h =>
        rw [h.unique, holds_congr h.documents]
        exact hstore.exact
    | writes hwritten hgiven h =>
        obtain ⟨collection, hfind, hmakes, -⟩ := h.exists_makes
        have hchecked := hstore.checked_of_makes (hdefinition _) (hstore.registered _ _ hfind)
          (hgiven (hagrees.proper hdefinition)) hmakes
        exact hstore.exact_of_writes h hchecked (hstorable _ _ hwritten)
    | deletes h => exact hstore.exact_of_deletes h

/-- Every run keeps a store consistent. -/
theorem Consistent.run (hstore : store.Consistent definition)
    (hdefinition : ∀ name, (definition name).WellFormed) {requests : List Request}
    (hagrees : ∀ request ∈ requests, request.Agrees definition ∧ request.Plain)
    (hstorable : ∀ name document, (name, document) ∈ store.written requests →
      document.Storable (definition name)) :
    (store.run requests).Consistent definition := by
  induction requests generalizing store with
  | nil => exact hstore
  | cons request rest ih =>
      rw [List.forall_mem_cons] at hagrees
      have hserved := hstore.serve hdefinition hagrees.1.1 hagrees.1.2 fun name document hmem =>
        hstorable name document (List.mem_append_left _ hmem)
      exact ih hserved hagrees.2 fun name document hmem =>
        hstorable name document (List.mem_append_right _ hmem)

end Store

end TypedCollections
