import TypedCollections.Proofs.Store.Expansion
import TypedCollections.Proofs.Store.Rechecking
/-!
# Saving back

A document that is loaded, with some of its references expanded, and saved as it is leaves the store
as it was: the check gives back what it gave before, the document owns its unique values already, and
the octets written are those that stood there. Where time stamps are kept, the time of the update is
all that may differ.
-/

namespace TypedCollections

namespace Store

variable {store : Store} {collection : Collection}

/-! ### Loading with expanded references -/

/-- Expanding fields one after the other, if that succeeds, is a sequence of expansions. -/
theorem expandEach_of_populateEach {document expanded : Document} {names : List String}
    (h : store.populateEach collection document names = .ok expanded) :
    expanded = expandEach document (names.map fun name => ⟨store, collection, name⟩) := by
  induction names generalizing document with
  | nil =>
      cases h
      rfl
  | cons name rest ih =>
      rw [populateEach] at h
      cases hpopulate : store.populate collection document name with
      | error error =>
          rw [hpopulate] at h
          cases h
      | ok next =>
          rw [hpopulate] at h
          have hnext : (store.populateInPlace collection document name).2 = next := by
            rw [populateInPlace, hpopulate]
          rw [ih h, List.map_cons, expandEach, expandEach, List.foldl_cons, hnext]

/-- A document that is loaded with expanded references is saved as the document found. -/
theorem update_of_findExpanded {id : ObjectId} {names : List String} {loaded : Document}
    (h : store.findExpanded collection id names = .ok (some loaded)) (now : Nat) :
    ∃ found, store.find collection id = .ok (some found) ∧
      store.update collection now loaded = store.update collection now found := by
  unfold findExpanded at h
  split at h
  · cases h
  · cases h
  · rename_i found hfind
    obtain ⟨expanded, hexpanded, heq⟩ := map_eq_ok_iff.1 h
    cases heq
    obtain ⟨hid, hfields⟩ := stored_expandEach (regular_of_find hfind)
      (names.map fun name => ⟨store, collection, name⟩)
    rw [← expandEach_of_populateEach hexpanded] at hid hfields
    exact ⟨found, hfind, update_of_stored_eq hid hfields now⟩

end Store

/-! ### The fields of an update -/

namespace Writing.Retained

open Validation

variable {writing : Writing} {collection : Collection} {now : Nat}

/-- The declared fields of an update of what was read back are those that were read back, but for the
time of the update. -/
theorem find?_stamped
    (h : writing.Retained collection.schema.fields collection.schema.timestamps) (now : Nat)
    {name : String} (hname : collection.schema.timestamps = true → name ≠ updatedAt)
    (hdeclared : name ∈ Entries.names collection.schema.fields) :
    Entries.find? (keepDeclared collection.schema.fields
        (collection.stamp now (some writing.document.reread) writing.document.reread.fields)) name
      = Entries.find? writing.document.reread.fields name := by
  rw [find?_keepDeclared hdeclared]
  cases htimestamps : collection.schema.timestamps with
  | false => rw [Collection.stamp, htimestamps, if_neg Bool.false_ne_true]
  | true =>
      rw [htimestamps] at h
      rw [Collection.find?_stamp htimestamps, if_neg (hname htimestamps).symm]
      split
      · rename_i hcreated
        subst hcreated
        obtain ⟨number, hnumber⟩ := h.exists_stamp hdeclared (.inl rfl)
        have hget : writing.document.reread.get? createdAt = some (.number number) := hnumber
        rw [Option.bind_some, hget, hnumber]
        rfl
      · rfl

/-- What the check of an update gives back: the names in their order, and the values, but for the
time of the update. -/
theorem resaved {checked : List (String × Value)}
    (h : writing.Retained collection.schema.fields collection.schema.timestamps)
    (hdefinition : collection.schema.fields.WellFormed)
    (hunmarked : FieldType.UnmarkedFields collection.schema.fields)
    (hpatterns : Patterns.ofFields collection.schema.fields = .ok collection.patterns)
    (hcheck : collection.check (collection.stamp now (some writing.document.reread)
      writing.document.reread.fields) = .ok checked) (id : ObjectId) :
    Entries.names (Document.ofFields id checked).fields
        = Entries.names writing.document.reread.fields ∧
      ∀ name, (collection.schema.timestamps = true → name ≠ updatedAt) →
        (Document.ofFields id checked).get? name = writing.document.reread.get? name := by
  obtain ⟨hnames, hget⟩ := h.rechecked hdefinition hunmarked hpatterns
    (h.names_stamped rfl now (some writing.document.reread)) (Collection.check_eq_ok_iff.1 hcheck) id
  refine ⟨hnames, fun name hname => hget name fun field hmem hid => ?_⟩
  have hdeclared : name ∈ Entries.names collection.schema.fields := List.mem_map_of_mem hmem
  exact h.checkSlot_of_find?_eq hunmarked hpatterns hmem hid (h.find?_stamped now hname hdeclared)

/-- Without time stamps, what was read back passes the check and is given back. -/
theorem exists_resaved
    (h : writing.Retained collection.schema.fields collection.schema.timestamps)
    (htimestamps : collection.schema.timestamps = false)
    (hdefinition : collection.schema.fields.WellFormed)
    (hunmarked : FieldType.UnmarkedFields collection.schema.fields)
    (hpatterns : Patterns.ofFields collection.schema.fields = .ok collection.patterns) (now : Nat) :
    ∃ checked, collection.check (collection.stamp now (some writing.document.reread)
        writing.document.reread.fields) = .ok checked ∧
      Document.ofFields writing.document.id checked = writing.document.reread := by
  have hnever : ∀ name, collection.schema.timestamps = true → name ≠ updatedAt := fun name h => by
    rw [htimestamps] at h
    cases h
  obtain ⟨checked, hchecked⟩ := h.exists_rechecked hdefinition hpatterns
    (h.names_stamped rfl now (some writing.document.reread)) fun name field hmem hname =>
      have hdeclared : name ∈ Entries.names collection.schema.fields := List.mem_map_of_mem hmem
      let ⟨passed, hpassed, _⟩ := h.checkSlot_of_find?_eq hunmarked hpatterns hmem hname
        (h.find?_stamped now (hnever name) hdeclared)
      ⟨passed, hpassed⟩
  have hcheck := Collection.check_eq_ok_iff.2 hchecked
  obtain ⟨hnames, hget⟩ :=
    h.resaved hdefinition hunmarked hpatterns hcheck writing.document.id
  refine ⟨checked, hcheck, ?_⟩
  have hfields : (Document.ofFields writing.document.id checked).fields
      = writing.document.reread.fields :=
    Entries.ext_find? hnames (Document.distinct_ofFields _ _) fun name _ => hget name (hnever name)
  rw [Document.ofFields_eq] at hfields ⊢
  exact congrArg (fun fields => (⟨writing.document.id, fields, []⟩ : Document)) hfields

end Writing.Retained

/-! ### The store after an update -/

namespace Store

variable {store : Store} {name : String} {fields : Fields} {timestamps : Bool}
  {writing : Writing} {collection : Collection}

/-- No other document owns a key that a document owns. -/
theorem Owned.free {keys : List UniqueKey} (howned : store.Owned name writing)
    (hkeys : ∀ key ∈ keys, Owns writing.fields name writing.document key) :
    store.unique.Free writing.document.id keys := by
  intro key hmem owner howner
  rw [UniqueIndex.owner?_eq_some_iff, howned.owner key (hkeys key hmem)] at howner
  exact (ObjectId.ext_octets (Option.some.inj howner)).symm

/-- Exchanging the keys that a document owns for themselves changes nothing. -/
theorem Owned.exchange_self {keys : List UniqueKey} (howned : store.Owned name writing)
    (hkeys : ∀ key ∈ keys, Owns writing.fields name writing.document key) :
    store.unique.exchange writing.document.id keys keys = (.ok (), store.unique) := by
  obtain ⟨hok, hfind⟩ := UniqueIndex.exchange_of_free keys (howned.free hkeys)
  have hsame : (store.unique.exchange writing.document.id keys keys).2.tree = store.unique.tree := by
    apply SortedMap.ext_find?
    intro octets
    rw [hfind]
    by_cases hamong : UniqueIndex.Among octets keys
    · obtain ⟨key, hmem, rfl⟩ := hamong
      rw [if_pos ⟨key, hmem, rfl⟩, howned.owner key (hkeys key hmem)]
    · rw [if_neg hamong, if_neg fun h => hamong h.1]
  exact Prod.ext hok (congrArg UniqueIndex.mk hsame)

/-- Putting a document where its octets stand changes nothing. -/
theorem sameContent_put {document : Document}
    (h : (store.tree collection.name).find? document.id.octets = some document.toOctets) :
    store.SameContent (store.put collection document) := by
  refine ⟨rfl, rfl, ?_, rfl, rfl, rfl⟩
  have htree : (store.tree collection.name).insert document.id.octets document.toOctets
      = store.tree collection.name := by
    apply SortedMap.ext_find?
    intro key
    rw [SortedMap.find?_insert]
    split
    · rename_i hkey
      rw [← hkey, h]
    · rfl
  show store.documents.insert collection.name
    ((store.tree collection.name).insert document.id.octets document.toOctets) = store.documents
  rw [htree]
  apply SortedMap.ext_find?
  intro name
  rw [SortedMap.find?_insert]
  split
  · rename_i hname
    subst hname
    cases hfound : store.documents.find? collection.name with
    | none =>
        rw [tree, hfound] at h
        cases h
    | some tree => rw [Store.tree, hfound, Option.getD_some]
  · rfl

/-- Saving back what was found, where no time stamps are kept, gives it back and leaves the store as
it was. -/
theorem update_found {ledger : Ledger}
    (hstore : store.Retains name collection.schema.fields collection.schema.timestamps ledger)
    (hcollection : store.collection? name = some collection)
    (hunmarked : FieldType.UnmarkedFields collection.schema.fields)
    (htimestamps : collection.schema.timestamps = false) {id : ObjectId} {found : Document}
    (hfind : store.find collection id = .ok (some found)) (now : Nat) :
    (store.update collection now found).1 = .ok (some found) ∧
      store.SameContent (store.update collection now found).2 := by
  have hindexed := hstore.recorded.indexed name collection hcollection
  have hpatterns := hstore.patterns name collection hcollection
  obtain ⟨writing, hretained, howned, rfl, rfl, htree⟩ := hstore.of_find hindexed.name_eq hfind
  obtain ⟨checked, hcheck, hstored⟩ :=
    hretained.exists_resaved htimestamps hindexed.wellFormed hunmarked hpatterns now
  have hkeys : ∀ key ∈ collection.uniqueKeys writing.document.reread,
      Owns writing.fields name writing.document key := by
    intro key hmem
    have howns := Collection.mem_uniqueKeys.1 hmem
    rw [hindexed.name_eq] at howns
    rw [hretained.fields_eq]
    exact (hretained.produced.checked.owns_reread hretained.storable).1 howns
  have hfind' : store.find collection writing.document.reread.id
      = .ok (some writing.document.reread) := hfind
  obtain ⟨events, hupdate⟩ := update_of_find now hfind'
  rw [← Document.storedFields_reread] at hcheck
  have hstored' : Document.ofFields writing.document.reread.id checked = writing.document.reread :=
    hstored
  have hfree : store.unique.Free writing.document.reread.id
      (collection.uniqueKeys (Document.ofFields writing.document.reread.id checked)) := by
    rw [hstored']
    exact howned.free hkeys
  obtain ⟨unique, events', hwrite, hexchange⟩ := exists_write_of_check hcheck hfree
  rw [hstored'] at hwrite hexchange
  have hunique : unique = store.unique :=
    (Prod.mk.inj (hexchange.symm.trans (howned.exchange_self hkeys))).2
  rw [hupdate, hwrite, hunique]
  refine ⟨rfl, ?_⟩
  have hput : (store.reportEach events').SameContent
      ((store.reportEach events').put collection writing.document.reread) := by
    apply sameContent_put
    rw [hindexed.name_eq, Document.toOctets_reread]
    exact htree
  exact ((sameContent_reportEach store events').trans hput).trans (sameContent_reportEach _ events)

/-- Saving back what was found, where time stamps are kept, changes nothing but the time of the
update, if it succeeds. -/
theorem updated_found {ledger : Ledger}
    (hstore : store.Retains name collection.schema.fields collection.schema.timestamps ledger)
    (hcollection : store.collection? name = some collection)
    (hunmarked : FieldType.UnmarkedFields collection.schema.fields) {id : ObjectId}
    {found stored : Document} (hfind : store.find collection id = .ok (some found)) {now : Nat}
    (hupdate : (store.update collection now found).1 = .ok (some stored)) :
    stored.id = found.id ∧ stored.populated = found.populated ∧
      Entries.names stored.fields = Entries.names found.fields ∧
      ∀ field, (collection.schema.timestamps = true → field ≠ updatedAt) →
        stored.get? field = found.get? field := by
  have hindexed := hstore.recorded.indexed name collection hcollection
  have hpatterns := hstore.patterns name collection hcollection
  obtain ⟨writing, hretained, -, rfl, rfl, -⟩ := hstore.of_find hindexed.name_eq hfind
  have hfind' : store.find collection writing.document.reread.id
      = .ok (some writing.document.reread) := hfind
  obtain ⟨previous, hprevious, hwrite, -⟩ := exists_write_of_update hupdate
  rw [hfind'] at hprevious
  cases hprevious
  obtain ⟨checked, unique, events, hcheck, rfl, -⟩ := exists_put_of_write hwrite
  rw [Document.storedFields_reread] at hcheck
  obtain ⟨hnames, hget⟩ := hretained.resaved hindexed.wellFormed hunmarked hpatterns hcheck
    writing.document.reread.id
  exact ⟨Document.id_ofFields _ _, by rw [Document.ofFields_eq]; rfl, hnames, hget⟩

/-- In every session, a document that is loaded with any references expanded and saved as it is: where
no time stamps are kept, the update gives back what is found under the identifier and leaves the
store as it was; where they are kept, an update that succeeds gives back and writes a document that
differs from the one found at most in the time of the update. -/
theorem saving_back_unmodified (database : String) (generator : ObjectId.Generator)
    {steps : List Step} (hsteps : ∀ step ∈ steps, step.Proper ∧ step.Plain ∧ step.InSession)
    {store : Store} (hstore : (fresh database generator).performAll steps = store) {name : String}
    {collection : Collection} (hcollection : store.collection? name = some collection)
    (hunmarked : FieldType.UnmarkedFields collection.schema.fields)
    (hwritten : ∀ document, (name, document) ∈ (fresh database generator).writtenIn steps →
      document.Readable ∧ document.Finite)
    {id : ObjectId} {names : List String} {loaded : Document}
    (hloaded : store.findExpanded collection id names = .ok (some loaded)) (now : Nat) :
    ∃ found, store.find collection id = .ok (some found) ∧
      (collection.schema.timestamps = false →
        (store.update collection now loaded).1 = .ok (some found) ∧
          store.SameContent (store.update collection now loaded).2) ∧
      (collection.schema.timestamps = true → ∀ stored,
        (store.update collection now loaded).1 = .ok (some stored) →
          stored.id = found.id ∧ stored.populated = found.populated ∧
          Entries.names stored.fields = Entries.names found.fields ∧
          (∀ field, field ≠ updatedAt → stored.get? field = found.get? field) ∧
          ((store.update collection now loaded).2.tree name).find? id.octets
            = some stored.toOctets) := by
  subst hstore
  obtain ⟨ledger, hretains⟩ := (retains_fresh database generator).performAll
    (fun step hmem => (hsteps step hmem).imp_right And.left)
    (alwaysRegisters_of_inSession (fun step hmem => (hsteps step hmem).2.2) hcollection) hwritten
  obtain ⟨found, hfind, hupdate⟩ := update_of_findExpanded hloaded now
  rw [hupdate]
  refine ⟨found, hfind, fun htimestamps => ?_, fun htimestamps stored hstored => ?_⟩
  · exact update_found hretains hcollection hunmarked htimestamps hfind now
  · obtain ⟨hid, hpopulated, hnames, hget⟩ :=
      updated_found hretains hcollection hunmarked hfind hstored
    refine ⟨hid, hpopulated, hnames, fun field hfield => hget field fun _ => hfield, ?_⟩
    have hname := (hretains.recorded.indexed name collection hcollection).name_eq
    obtain ⟨writing, -, -, rfl, rfl, -⟩ := hretains.of_find hname hfind
    obtain ⟨previous, -, hwrite, events, hafter⟩ := exists_write_of_update hstored
    rw [hafter, ← hname, ← show stored.id = writing.document.id from hid]
    exact find?_of_write hwrite

end Store

/-! ### A team that is saved back -/

namespace Sample

/-- The members are written, then a team of the first of them and of one who never was there. -/
def teamSteps : List Step :=
  .request (.register 0 "teams" teams.schema) ::
    (requests.map .request ++ [.request (.insert "teams" 0 team)])

/-- Whether a document lists two people and has nothing else. -/
def isTeam : Document → Bool
  | ⟨_, [(name, .array [.objectId _, .objectId _])], []⟩ => name == "people"
  | _ => false

theorem readable_of_isTeam {document : Document} (h : isTeam document = true) :
    document.Readable ∧ document.Finite := by
  unfold isTeam at h
  split at h
  · refine ⟨⟨?_, ?_⟩, ?_⟩
    · simp [Document.toJson, Document.toMembers, Value.membersToJson, Value.listToJson, Value.toJson,
        ObjectId.toJson, Json.depth, Json.depthList, Json.depthMembers, Json.nestingLimit]
    · simp [Document.toJson, Document.toMembers, Value.membersToJson, Value.listToJson, Value.toJson,
        ObjectId.toJson, Json.Legible, Json.LegibleList, Json.LegibleMembers]
    · exact ⟨⟨trivial, trivial, trivial⟩, trivial⟩
  · cases h

theorem wellFormed_teams : Fields.WellFormed teams.schema.fields := by
  constructor
  · simp [teams, Entries.Distinct, Entries.names]
  · simp [teams, FieldType.WellFormedFields, FieldType.WellFormedField, FieldType.WellFormed,
      Json.WellFormedMembers]

theorem proper_teamSteps : ∀ step ∈ teamSteps, step.Proper ∧ step.Plain ∧ step.InSession := by
  have hrequest : ∀ request ∈ requests,
      request.Proper ∧ request.Plain ∧ (Step.request request).InSession := by
    intro request hmem
    obtain ⟨hagrees, hplain⟩ := agrees_requests request hmem
    refine ⟨hagrees.proper fun _ => wellFormed_members, hplain, ?_⟩
    simp only [requests, List.mem_cons, List.not_mem_nil, or_false] at hmem
    rcases hmem with rfl | rfl | rfl | rfl | rfl <;> trivial
  intro step hmem
  simp only [teamSteps, List.mem_cons, List.mem_append, List.mem_map, List.not_mem_nil,
    or_false] at hmem
  rcases hmem with rfl | ⟨request, hmem, rfl⟩ | rfl
  · exact ⟨wellFormed_teams, (by decide : '\x00' ∉ "teams".toList), trivial⟩
  · exact hrequest request hmem
  · exact ⟨wellFormed_team, trivial, trivial⟩

theorem collection?_teamSteps :
    ((Store.fresh "db" generator).performAll teamSteps).collection? "teams" = some teams := by
  rw [teamSteps, Store.performAll]
  apply Store.collection?_performAll
  · exact fun step hmem => (proper_teamSteps step (List.mem_cons_of_mem _ hmem)).2.2
  · exact Store.collection?_perform_register 0 (by decide) rfl rfl

theorem isTeam_of_written {document : Document}
    (h : ("teams", document) ∈ (Store.fresh "db" generator).writtenIn teamSteps) :
    isTeam document = true := by
  have hall : ((Store.fresh "db" generator).writtenIn teamSteps).all
      (fun written => written.1 != "teams" || isTeam written.2) = true := by
    decide +kernel
  simpa using List.all_eq_true.1 hall _ h

end Sample

namespace Store

theorem saving_back_expanded_team :
    ∃ store loaded, (fresh "db" Sample.generator).performAll Sample.teamSteps = store ∧
      store.findExpanded Sample.teams (Sample.ident 7) ["people"] = .ok (some loaded) ∧
      loaded.isPopulated "people" = true ∧
      (∃ found, store.find Sample.teams (Sample.ident 7) = .ok (some found) ∧
        (store.update Sample.teams 0 loaded).1 = .ok (some found)) ∧
      store.SameContent (store.update Sample.teams 0 loaded).2 := by
  have hany : (((fresh "db" Sample.generator).performAll Sample.teamSteps).findExpanded Sample.teams
      (Sample.ident 7) ["people"]).toOption.join.any (·.isPopulated "people") = true := by
    decide +kernel
  obtain ⟨loaded, hloaded, hpopulated⟩ := Sample.exists_of_any_join hany
  obtain ⟨found, hfind, hupdate, -⟩ := saving_back_unmodified "db" Sample.generator
    Sample.proper_teamSteps rfl Sample.collection?_teamSteps ⟨trivial, trivial⟩
    (fun document hmem => Sample.readable_of_isTeam (Sample.isTeam_of_written hmem)) hloaded 0
  obtain ⟨hstored, hsame⟩ := hupdate rfl
  exact ⟨_, loaded, rfl, hloaded, hpopulated, ⟨found, hfind, hstored⟩, hsame⟩

end Store

end TypedCollections
