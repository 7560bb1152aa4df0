import TypedCollections.Proofs.Store.Catalog
import TypedCollections.Proofs.Store.Ledger
import TypedCollections.Proofs.Store.Owners
/-!
# Sessions that register other fields

A collection may be registered with other fields from session to session, and registering neither
reads its documents nor changes the index. What every run keeps is that a document owns the values
of the fields that were unique when it was last written. So a value that is written to a unique
field differs from those of all other documents that were last written while the field was unique.
-/

namespace TypedCollections

namespace Store

variable {store : Store} {ledger : Ledger} {name : String} {collection : Collection} {now : Nat}

/-- A collection that is registered under a name, whatever its fields are. -/
structure Admitted (name : String) (collection : Collection) : Prop where
  name_eq : collection.name = name
  wellFormed : collection.schema.fields.WellFormed

/-- A collection whose keys in the unique index are told apart from those of all others: the name it
is registered under has no null character. -/
structure Indexed (name : String) (collection : Collection) : Prop
    extends Admitted name collection where
  plain : '\x00' ∉ name.toList

/-- The document written owns the values of the fields that were unique when it was written. -/
structure Owned (store : Store) (name : String) (writing : Writing) : Prop where
  plain : '\x00' ∉ name.toList
  id_not_mem : idField ∉ Entries.names writing.document.fields
  distinct : Entries.Distinct writing.document.fields
  scalar : ∀ field value, IsUnique writing.fields field →
    writing.document.get? field = some value → value = .null ∨ value.Scalar
  owner : ∀ key, Owns writing.fields name writing.document key →
    store.unique.tree.find? key.octets = some writing.document.id.octets

/-- Every entry of a tree is what was last written there, and owns its unique values. -/
structure Recorded (store : Store) (ledger : Ledger) : Prop where
  indexed : ∀ name collection, store.collection? name = some collection → Indexed name collection
  entries : ∀ name key octets, (store.tree name).find? key = some octets →
    ∃ writing, ledger name writing.document.id = some writing ∧ key = writing.document.id.octets ∧
      octets = writing.document.toOctets ∧ store.Owned name writing

theorem recorded_fresh (database : String) (generator : ObjectId.Generator) (ledger : Ledger) :
    (fresh database generator).Recorded ledger := by
  constructor
  · intro name collection h
    cases h
  · intro name key octets h
    cases h

/-! ### Requests that write no document -/

theorem Recorded.congr {other : Store} (hstore : store.Recorded ledger)
    (hindexed : ∀ name collection, other.collection? name = some collection →
      Indexed name collection)
    (hdocuments : other.documents = store.documents) (hunique : other.unique = store.unique) :
    other.Recorded ledger := by
  refine ⟨hindexed, ?_⟩
  intro name key octets h
  have htree : other.tree name = store.tree name := by rw [tree, hdocuments, tree]
  rw [htree] at h
  obtain ⟨writing, hledger, hkey, hoctets, howned⟩ := hstore.entries name key octets h
  refine ⟨writing, hledger, hkey, hoctets, { howned with owner := ?_ }⟩
  rw [hunique]
  exact howned.owner

theorem Recorded.of_sameContent {other : Store} (hstore : store.Recorded ledger)
    (hsame : store.SameContent other) : other.Recorded ledger := by
  refine hstore.congr ?_ hsame.documents hsame.unique
  intro name collection hfind
  rw [collection?, hsame.registry] at hfind
  exact hstore.indexed name collection hfind

theorem Recorded.register (hstore : store.Recorded ledger) {schema : Schema}
    (hplain : '\x00' ∉ name.toList) (hfields : schema.fields.WellFormed) :
    (store.register now name schema).2.Recorded ledger := by
  obtain ⟨hdocuments, hunique, hcollections⟩ := register_spec store now name schema
  refine hstore.congr (fun other collection h => ?_) hdocuments hunique
  rcases hcollections other collection h with hold | ⟨rfl, hname, rfl, -⟩
  · exact hstore.indexed other collection hold
  · exact ⟨⟨hname, hfields⟩, hplain⟩

theorem Recorded.reopen {opened : Store} (hstore : store.Recorded ledger)
    (h : store.reopen = .ok opened) : opened.Recorded ledger := by
  obtain ⟨hdocuments, hunique, hnone⟩ := reopen_spec h
  refine hstore.congr (fun name collection hfind => ?_) hdocuments hunique
  rw [hnone] at hfind
  cases hfind

/-! ### Writes and deletions -/

theorem keysOf_uniqueKeys (hindexed : Indexed name collection) (document : Document) :
    UniqueIndex.KeysOf name (collection.uniqueKeys document) := by
  intro key hmem
  have howns := Collection.mem_uniqueKeys.1 hmem
  rw [hindexed.name_eq] at howns
  exact ⟨howns.plain hindexed.plain, howns.collection_eq⟩

/-- What another document owns, and every document of another collection, it still owns after an
exchange of keys. -/
theorem Owned.exchange {writing : Writing} {other : String} {id : ObjectId} {after : Store}
    {before needed : List UniqueKey} (howned : store.Owned other writing)
    (hbefore : UniqueIndex.KeysOf name before) (hneeded : UniqueIndex.KeysOf name needed)
    (hfree : store.unique.Free id needed)
    (hfind : ∀ octets, after.unique.tree.find? octets =
      if UniqueIndex.Among octets needed then some id.octets
      else if UniqueIndex.Among octets before ∧ store.unique.tree.find? octets = some id.octets
      then none
      else store.unique.tree.find? octets)
    (hplace : ¬ (other = name ∧ writing.document.id = id)) : after.Owned other writing := by
  refine { howned with owner := fun key howns => ?_ }
  have howner := howned.owner key howns
  obtain ⟨hnow, hreleased⟩ := UniqueIndex.not_among_of_owned hbefore hneeded hfree
    (howns.plain howned.plain) howner (by rw [howns.collection_eq]; exact hplace)
  rw [hfind, if_neg hnow, if_neg hreleased, howner]

/-- What a check gives back under a unique field is null, a scalar or an identifier. -/
theorem scalar_of_check {fields checked : List (String × Value)} (id : ObjectId)
    (hadmitted : Admitted name collection) (hdistinct : Entries.Distinct fields)
    (hcheck : collection.check fields = .ok checked) {field : String} {value : Value}
    (hunique : IsUnique collection.schema.fields field)
    (hvalue : (Document.ofFields id checked).get? field = some value) :
    value = .null ∨ value.Scalar := by
  have hvalidate := Collection.check_eq_ok_iff.1 hcheck
  have hchecked : Entries.Distinct checked := Validation.distinct_of_checkFields
    (Validation.distinct_keepDeclared collection.schema.fields hdistinct) hvalidate
  have hconforms := Validation.conforms_of_validate hadmitted.wellFormed hvalidate
  obtain ⟨declared, hmem, hdeclared⟩ := hunique
  have hfind := Document.find?_of_get?_ofFields hchecked hvalue
  rcases Validation.null_or_fits_of_mem hconforms.fits hmem hfind with hnull | hfits
  · exact .inl hnull
  · exact .inr (Validation.scalar_of_fitsField hdeclared hfits)

/-- After a write, the document written owns its unique values and what else was recorded is left
alone. -/
theorem Recorded.write (hstore : store.Recorded ledger) (hindexed : Indexed name collection)
    {previous : Option Document} {document stored : Document} (hdocument : document.WellFormed)
    (hwrite : (store.write collection now previous document).1 = .ok stored) :
    (store.write collection now previous document).2.Recorded
      (ledger.note (some (name, ⟨stored, collection.schema.fields⟩))) := by
  obtain ⟨checked, unique, events, hcheck, rfl, hafter, hfree, hexchange⟩ :=
    exists_put_of_write hwrite
  rw [hafter]
  have hindex := (UniqueIndex.exchange_of_free ((previous.map collection.uniqueKeys).getD [])
    hfree).2
  rw [hexchange] at hindex
  have hbefore : UniqueIndex.KeysOf name ((previous.map collection.uniqueKeys).getD []) := by
    cases previous with
    | none => exact fun key hmem => by cases hmem
    | some other => exact keysOf_uniqueKeys hindexed other
  refine ⟨hstore.indexed, ?_⟩
  intro other key octets hfind
  rw [find?_put, hindexed.name_eq, Document.id_ofFields] at hfind
  by_cases hplace : other = name ∧ key = document.id.octets
  · rw [if_pos hplace] at hfind
    obtain ⟨rfl, rfl⟩ := hplace
    refine ⟨⟨Document.ofFields document.id checked, collection.schema.fields⟩,
      Ledger.note_self .., by rw [Document.id_ofFields], (Option.some.inj hfind).symm, ?_⟩
    refine ⟨hindexed.plain, Document.id_not_mem_ofFields _ _, Document.distinct_ofFields _ _,
      ?_, ?_⟩
    · intro field value hunique hvalue
      have hdistinct := Collection.distinct_stamp collection now previous
        (Document.wellFormed_storedFields hdocument).1
      exact scalar_of_check document.id hindexed.toAdmitted hdistinct hcheck hunique hvalue
    · intro key howns
      rw [← hindexed.name_eq] at howns
      have hamong : UniqueIndex.Among key.octets
          (collection.uniqueKeys (Document.ofFields document.id checked)) :=
        ⟨key, Collection.mem_uniqueKeys.2 howns, rfl⟩
      show unique.tree.find? key.octets = _
      rw [hindex, if_pos hamong, Document.id_ofFields]
  · rw [if_neg hplace] at hfind
    obtain ⟨writing, hledger, rfl, hoctets, howned⟩ := hstore.entries other key octets hfind
    have hother : ¬ (other = name ∧ writing.document.id = document.id) :=
      fun h => hplace ⟨h.1, by rw [h.2]⟩
    refine ⟨writing, ?_, rfl, hoctets, ?_⟩
    · rw [Ledger.note_of_other (by rw [Document.id_ofFields]; exact hother), hledger]
    · exact howned.exchange hbefore (keysOf_uniqueKeys hindexed _) hfree hindex hother

theorem Recorded.erase {id : ObjectId} (hstore : store.Recorded ledger) {unique : UniqueIndex}
    (howned : ∀ other writing, ¬ (other = name ∧ writing.document.id = id) →
      store.Owned other writing → ({ store with unique } : Store).Owned other writing) :
    ({ store.setTree name ((store.tree name).erase id.octets) with unique } : Store).Recorded
      ledger := by
  refine ⟨hstore.indexed, ?_⟩
  intro other key octets hfind
  have hfind : ((store.setTree name ((store.tree name).erase id.octets)).tree other).find? key
      = some octets := hfind
  rw [find?_erased] at hfind
  split at hfind
  · cases hfind
  · rename_i hplace
    obtain ⟨writing, hledger, rfl, hoctets, hold⟩ := hstore.entries other key octets hfind
    have hother : ¬ (other = name ∧ writing.document.id = id) := fun h => hplace ⟨h.1, by rw [h.2]⟩
    exact ⟨writing, hledger, rfl, hoctets, { howned other writing hother hold with }⟩

theorem Recorded.delete {id : ObjectId} (hstore : store.Recorded ledger)
    (hindexed : Indexed name collection) : (store.delete collection id).2.Recorded ledger := by
  have hname := hindexed.name_eq
  cases hfind : (store.tree collection.name).find? id.octets with
  | none =>
      unfold Store.delete
      simp only [hfind]
      exact hstore
  | some octets =>
      cases hread : Document.ofOctets octets with
      | error fault =>
          -- The entry is gone although the keys it holds in the index are not released.
          unfold Store.delete
          simp only [hfind, readDocument, hread]
          exact hstore.erase fun _ _ _ howned => howned
      | ok removed =>
          obtain ⟨events, hdelete⟩ := delete_of_find? collection hfind hread
          rw [hdelete, hname]
          have hneeded : UniqueIndex.KeysOf name [] := fun key hmem => by cases hmem
          have hfree : store.unique.Free id [] := fun key hmem => by cases hmem
          refine (hstore.erase fun other writing hother howned => ?_).of_sameContent
            (sameContent_reportEach _ events)
          refine howned.exchange (keysOf_uniqueKeys hindexed removed) hneeded hfree ?_ hother
          intro octets
          simp [UniqueIndex.find?_releaseEach, UniqueIndex.Among]

/-! ### Runs -/

private theorem writing?_eq_none {request : Request} (h : request.writes? = none) :
    store.writing? request = none := by
  rw [writing?, h]
  rfl

private theorem Recorded.on (hstore : store.Recorded ledger) {ask : Collection → Answer × Store}
    (h : ∀ collection, Indexed name collection → (ask collection).2.Recorded ledger) :
    (store.on name ask).2.Recorded ledger := by
  unfold Store.on
  cases hfind : store.collection? name with
  | none => exact hstore
  | some collection => exact h collection (hstore.indexed name collection hfind)

/-- A request that writes keeps what is recorded, with what it wrote. -/
private theorem Recorded.serve_of_writes (hstore : store.Recorded ledger) {request : Request}
    (hwrites : request.writes?.isSome = true) (hproper : request.Proper) :
    (store.serve request).2.Recorded (ledger.note (store.writing? request)) := by
  obtain ⟨hnone, hsame⟩ | ⟨name, ⟨stored, fields⟩, hwriting, collection, drawn, now, previous,
    document, events, hfind, rfl, hdrawn, hdocument, hwrite, hafter⟩ :=
    writesAtMostOnce store hwrites hproper
  · rw [hnone]
    exact hstore.of_sameContent hsame
  · rw [hwriting, hafter]
    exact ((hstore.of_sameContent hdrawn).write (hstore.indexed name collection hfind) hdocument
      hwrite).of_sameContent (sameContent_reportEach _ events)

theorem Recorded.serve (hstore : store.Recorded ledger) {request : Request}
    (hproper : request.Proper) (hplain : request.Plain) :
    (store.serve request).2.Recorded (ledger.note (store.writing? request)) := by
  cases hwrites : request.writes? with
  | some name => exact hstore.serve_of_writes (by rw [hwrites]; rfl) hproper
  | none =>
      rw [writing?_eq_none hwrites]
      show (store.serve request).2.Recorded ledger
      cases request with
      | register now name schema => exact hstore.register hplain hproper
      | delete name id => exact hstore.on fun collection hindexed => hstore.delete hindexed
      | find name id => exact hstore.on fun _ _ => hstore
      | findAll name => exact hstore.on fun _ _ => hstore
      | count name => exact hstore.on fun _ _ => hstore
      | reopen =>
          unfold Store.serve
          cases hreopen : store.reopen with
          | error error => exact hstore
          | ok opened => exact hstore.reopen hreopen
      | _ => cases hwrites

/-- Whatever the fields are that collections are registered with, after every run the entries of the
trees are what was last written there, and own their unique values. -/
theorem Recorded.run (hstore : store.Recorded ledger) {requests : List Request}
    (hrequests : ∀ request ∈ requests, request.Proper ∧ request.Plain) :
    (store.run requests).Recorded (store.ledger ledger requests) := by
  induction requests generalizing store ledger with
  | nil => exact hstore
  | cons request rest ih =>
      rw [List.forall_mem_cons] at hrequests
      exact ih (hstore.serve hrequests.1.1 hrequests.1.2) hrequests.2

/-- What a request writes stands in its collection afterwards. -/
theorem Recorded.find?_of_writing? (hstore : store.Recorded ledger) {request : Request}
    (hproper : request.Proper) {writing : Writing}
    (hwriting : store.writing? request = some (name, writing)) :
    ((store.serve request).2.tree name).find? writing.document.id.octets
      = some writing.document.toOctets := by
  have hwrites : request.writes?.isSome = true := by
    cases hnone : request.writes? with
    | none =>
        rw [writing?_eq_none hnone] at hwriting
        cases hwriting
    | some asked => rfl
  obtain ⟨hnone, -⟩ | ⟨other, written, hsome, collection, drawn, now, previous, document, events,
    hfind, -, -, -, hwrite, hafter⟩ := writesAtMostOnce store hwrites hproper
  · rw [hwriting] at hnone
    cases hnone
  · rw [hwriting] at hsome
    cases hsome
    have hstands := find?_of_write hwrite
    rw [(hstore.indexed name collection hfind).name_eq] at hstands
    rw [hafter]
    exact hstands

/-! ### Values of unique fields -/

/-- Two documents that own their values hold different values in a field that was unique when either
was last written. -/
theorem Owned.unequal {writing other : Writing} (howned : store.Owned name writing)
    (hother : store.Owned name other) (hid : other.document.id ≠ writing.document.id)
    {field : String} (hunique : IsUnique writing.fields field)
    (hunique' : IsUnique other.fields field) {value held : Value}
    (hvalue : writing.document.get? field = some value) (hnull : value ≠ .null)
    (hheld : other.document.get? field = some held) :
    (value == held) = false ∧ (value == held.reread) = false := by
  have hscalar : value.Scalar := (howned.scalar field value hunique hvalue).resolve_left hnull
  -- Whatever is equal to the value is written as the value is, and its key has one owner only.
  have hdiffers : ∀ seen : Value, seen.toJson = held.toJson → (held = .null → seen = .null) →
      (value == seen) = false := by
    intro seen hjson hseen
    by_contra hsame
    have hsame : value.same seen = true := eq_true_of_ne_false hsame
    have htext : value.toJson = held.toJson := (hscalar.toJson_eq_of_same hsame).trans hjson
    have hheld' : held ≠ .null := by
      intro h
      rw [hseen h] at hsame
      cases value with
      | null => exact hnull rfl
      | _ => cases hsame
    have howner := howned.owner _ ⟨field, value, hunique, hvalue, hnull, rfl⟩
    have howner' := hother.owner _ ⟨field, held, hunique', hheld, hheld', rfl⟩
    rw [htext, howner'] at howner
    exact hid (ObjectId.ext_octets (Option.some.inj howner))
  refine ⟨hdiffers held rfl id, hdiffers held.reread (Value.toJson_reread held) ?_⟩
  rintro rfl
  rfl

/-- After a document was written into a collection, its value in a unique field differs from that of
every other document of the collection that was last written while the field was unique, whatever
the fields were in other sessions. -/
theorem unequal_of_writing (database : String) (generator : ObjectId.Generator)
    (requests : List Request)
    (hrequests : ∀ request ∈ requests, request.Proper ∧ request.Plain) (request : Request)
    (hrequest : request.Proper ∧ request.Plain) (name : String) (writing : Writing)
    (hwriting : ((fresh database generator).run requests).writing? request = some (name, writing)) :
    ((((fresh database generator).run requests).serve request).2.tree name).find?
        writing.document.id.octets = some writing.document.toOctets ∧
      ∀ id octets, id ≠ writing.document.id →
        ((((fresh database generator).run requests).serve request).2.tree name).find? id.octets
          = some octets →
        ∃ other, (fresh database generator).ledger .empty requests name id = some other ∧
          other.document.id = id ∧ octets = other.document.toOctets ∧
          (∀ field value held, IsUnique writing.fields field → IsUnique other.fields field →
            writing.document.get? field = some value → value ≠ .null →
            other.document.get? field = some held →
              (value == held) = false ∧ (value == held.reread) = false) ∧
          (Json.read other.document.text = .ok other.document.toJson →
            Document.ofOctets octets = .ok other.document.reread) := by
  have hstore := (recorded_fresh database generator .empty).run hrequests
  have hafter := hstore.serve hrequest.1 hrequest.2
  have hstands := hstore.find?_of_writing? hrequest.1 hwriting
  rw [hwriting] at hafter
  refine ⟨hstands, ?_⟩
  intro id octets hid hentry
  obtain ⟨written, hwritten, hkey, -, howned⟩ := hafter.entries name _ _ hstands
  rw [← ObjectId.ext_octets hkey, Ledger.note_self] at hwritten
  obtain rfl : writing = written := Option.some.inj hwritten
  obtain ⟨other, hledger, hkey, hoctets, hother⟩ := hafter.entries name _ _ hentry
  obtain rfl : id = other.document.id := ObjectId.ext_octets hkey
  rw [Ledger.note_of_other fun h => hid h.2] at hledger
  refine ⟨other, hledger, rfl, hoctets, ?_, ?_⟩
  · intro field value held hunique hunique' hvalue hnull hheld
    exact howned.unequal hother hid hunique hunique' hvalue hnull hheld
  · intro hread
    rw [hoctets]
    exact Document.ofOctets_of_read hother.id_not_mem hother.distinct hread

theorem unequal_of_sample_writing :
    ∃ writing other, ((fresh "db" Sample.generator).run (Sample.requests.take 4)).writing?
        (.insert "members" 0 (Sample.member 2 "ann")) = some ("members", writing) ∧
      (fresh "db" Sample.generator).ledger .empty (Sample.requests.take 4) "members"
        (Sample.ident 1) = some other ∧
      (Sample.member 1 "bob").toOctets = other.document.toOctets ∧
      ∀ field value held, IsUnique writing.fields field → IsUnique other.fields field →
        writing.document.get? field = some value → value ≠ .null →
        other.document.get? field = some held →
          (value == held) = false ∧ (value == held.reread) = false := by
  have hwritten : (((fresh "db" Sample.generator).run (Sample.requests.take 4)).writing?
      (.insert "members" 0 (Sample.member 2 "ann"))).map
          (fun entry => (entry.1, entry.2.document.id))
        = some ("members", Sample.ident 2) := by
    decide +kernel
  have hentry : ((((fresh "db" Sample.generator).run (Sample.requests.take 4)).serve
      (.insert "members" 0 (Sample.member 2 "ann"))).2.tree "members").find? (Sample.ident 1).octets
        = some (Sample.member 1 "bob").toOctets := by
    decide +kernel
  have hproper : ∀ request ∈ Sample.requests, request.Proper ∧ request.Plain := fun request hmem =>
    (Sample.agrees_requests request hmem).imp_left fun h =>
      h.proper fun _ => Sample.wellFormed_members
  obtain ⟨⟨name, writing⟩, hwriting, hid⟩ := Option.map_eq_some_iff.1 hwritten
  obtain ⟨rfl, hid⟩ := Prod.mk.inj hid
  obtain ⟨-, hothers⟩ := unequal_of_writing "db" Sample.generator (Sample.requests.take 4)
    (fun request hmem => hproper request (List.mem_of_mem_take hmem))
    (.insert "members" 0 (Sample.member 2 "ann")) (hproper _ (by simp [Sample.requests])) _ writing
    hwriting
  obtain ⟨other, hledger, -, hoctets, hunequal, -⟩ := hothers (Sample.ident 1) _
    (by rw [hid]; decide) hentry
  exact ⟨writing, other, hwriting, hledger, hoctets, hunequal⟩

/-! ### Values that are written twice -/

/-- A request leaves the document that it writes with a value in a unique field that another
document of the collection holds there, too. -/
def Repeats (store : Store) (request : Request) : Prop :=
  ∃ name writing field value id octets other held,
    store.writing? request = some (name, writing) ∧ IsUnique writing.fields field ∧
      writing.document.get? field = some value ∧ value ≠ .null ∧ id ≠ writing.document.id ∧
      ((store.serve request).2.tree name).find? id.octets = some octets ∧
      Document.ofOctets octets = .ok other ∧ other.get? field = some held ∧ (value == held) = true

/-- What an insertion does depends on the documents and the index only. -/
theorem insert_congr {other : Store} (hdocuments : other.documents = store.documents)
    (hunique : other.unique = store.unique) (collection : Collection) (now : Nat)
    (document : Document) :
    (other.insert collection now document).1 = (store.insert collection now document).1 ∧
      (other.insert collection now document).2.documents
        = (store.insert collection now document).2.documents := by
  have htree : ∀ name, other.tree name = store.tree name := by
    intro name
    rw [tree, hdocuments, tree]
  unfold Store.insert Store.write
  simp only [htree, reportEach, hunique]
  split
  · exact ⟨rfl, hdocuments⟩
  · cases collection.check (collection.stamp now none document.storedFields) with
    | error error => exact ⟨rfl, hdocuments⟩
    | ok checked =>
        simp only
        cases store.unique.exchange (Document.ofFields document.id checked).id
          ((Option.map collection.uniqueKeys none).getD [])
          (collection.uniqueKeys (Document.ofFields document.id checked)) with
        | mk result unique =>
            cases result with
            | error error => exact ⟨rfl, hdocuments⟩
            | ok done => simp [put, setTree, report, tree, hdocuments]

theorem serve_insert {collection : Collection} (hfind : store.collection? name = some collection)
    (now : Nat) (document : Document) :
    store.serve (.insert name now document)
      = (.of .written (store.insert collection now document).1,
          (store.insert collection now document).2) := by
  simp only [serve, Store.on, hfind]

theorem writing?_insert {collection : Collection} (hfind : store.collection? name = some collection)
    (now : Nat) (document : Document) :
    store.writing? (.insert name now document)
      = match (store.insert collection now document).1 with
        | .ok stored => some (name, ⟨stored, collection.schema.fields⟩)
        | .error _ => none := by
  rw [writing?, serve_insert hfind, Request.writes?, Option.bind_some, hfind, Option.bind_some]
  cases (store.insert collection now document).1 <;> rfl

/-- What an insertion leaves depends on the documents, the index and the registered collections. -/
theorem Repeats.congr {other : Store} {document : Document}
    (h : store.Repeats (.insert name now document)) (hdocuments : other.documents = store.documents)
    (hunique : other.unique = store.unique) (hregistry : other.registry = store.registry) :
    other.Repeats (.insert name now document) := by
  obtain ⟨asked, writing, field, value, id, octets, found, held, hwriting, hunique', hvalue, hnull,
    hid, hentry, hfound⟩ := h
  have hcollection : other.collection? name = store.collection? name := by
    rw [collection?, hregistry, collection?]
  cases hfind : store.collection? name with
  | none =>
      rw [writing?, Request.writes?, Option.bind_some, hfind] at hwriting
      cases hwriting
  | some collection =>
      rw [hfind] at hcollection
      obtain ⟨hresult, hafter⟩ := insert_congr hdocuments hunique collection now document
      have hsame : other.writing? (.insert name now document)
          = store.writing? (.insert name now document) := by
        rw [writing?_insert hcollection, writing?_insert hfind, hresult]
      refine ⟨asked, writing, field, value, id, octets, found, held, hsame.trans hwriting, hunique',
        hvalue, hnull, hid, ?_, hfound⟩
      rw [serve_insert hfind] at hentry
      rw [serve_insert hcollection, tree, hafter]
      exact hentry

theorem serve_reopen {opened : Store} (h : store.reopen = .ok opened) :
    (store.serve .reopen).2 = opened := by
  unfold serve
  rw [h]

theorem catalog_insert (store : Store) (collection : Collection) (now : Nat) (document : Document) :
    (store.insert collection now document).2.catalog = store.catalog := by
  cases hresult : (store.insert collection now document).1 with
  | error error => exact (sameContent_of_insert_eq_error hresult).catalog
  | ok stored =>
      obtain ⟨hwrite, events, hafter⟩ := exists_write_of_insert hresult
      rw [hafter]
      obtain ⟨error, events, heq, -⟩ | ⟨checked, unique, events, heq, -⟩ :=
        write_cases store collection now none document
      · rw [heq]
        rfl
      · rw [heq]
        rfl

end Store

namespace Sample

/-- Members whose addresses may be shared. -/
def household : Fields := [("address", { type := .scalar .string, required := true })]

/-- A member is written while addresses may be shared. -/
def firstSession : List Request :=
  [.register 0 "members" { fields := household, timestamps := false },
    .insert "members" 0 (member 1 "ann")]

/-- In the next session the addresses are unique. -/
def nextSession : List Request :=
  [.reopen, .register 0 "members" { fields := members, timestamps := false }]

theorem register_members {store : Store} (hdatabase : store.database = "db")
    (hfresh : store.hasCollection "members" = false) {fields : Fields}
    (hpatterns : Patterns.ofFields fields = .ok []) :
    (store.register 0 "members" { fields, timestamps := false }).2
      = store.addCollection 0 (membersOf fields) := by
  rw [Store.register_eq 0 (by decide) hpatterns hfresh, hdatabase]
  rfl

theorem readable_firstSession :
    ((Store.fresh "db" generator).run firstSession).catalog.Readable := by
  have hentry : (CatalogEntry.ofSchema "members" { fields := household, timestamps := false }
      0).Readable := by
    refine ⟨by simp [CatalogEntry.ofSchema], ?_, ?_⟩
    · simp [CatalogEntry.toJson, CatalogEntry.ofSchema, Json.Legible, Json.LegibleMembers,
        Json.LegibleList, Json.ofNat, Fields.toJson, household, fieldsToMembers, fieldToJson,
        typeMembers, Entries.writeAll]
    · simp [CatalogEntry.toJson, CatalogEntry.ofSchema, Json.depth, Json.depthMembers,
        Json.depthList, Json.ofNat, Fields.toJson, household, fieldsToMembers, fieldToJson,
        typeMembers, Entries.writeAll, Json.nestingLimit]
  have hfields : Fields.WellFormed household := by
    constructor
    · simp [household, Entries.Distinct, Entries.names]
    · simp [household, FieldType.WellFormedFields, FieldType.WellFormedField, FieldType.WellFormed,
        Json.WellFormedMembers]
  have hrun : (Store.fresh "db" generator).run firstSession
      = (((Store.fresh "db" generator).addCollection 0 (membersOf household)).insert
          (membersOf household) 0 (member 1 "ann")).2 := by
    rw [← congrArg Prod.snd
        (Store.serve_insert (Store.collection?_addCollection ..) 0 (member 1 "ann")),
      ← register_members rfl rfl rfl]
    rfl
  rw [hrun, Store.catalog_insert]
  exact Catalog.readable_empty.record (Fields.wellFormed_toJson hfields) hentry

/-- Whether a request leaves a text under a name in the document that it writes and in another
one. -/
def repeats (store : Store) (request : Request) (field : String) (id : ObjectId) : Bool :=
  match store.writing? request with
  | none => false
  | some (name, writing) =>
      writing.fields.any (fun declared => declared.1 == field && Field.isUnique declared.2) &&
        id != writing.document.id &&
        match ((store.serve request).2.tree name).find? id.octets with
        | none => false
        | some octets =>
            match Document.ofOctets octets with
            | .error _ => false
            | .ok other =>
                match writing.document.get? field, other.get? field with
                | some (.string text), some (.string held) => text == held
                | _, _ => false

theorem repeats_of_sample {store : Store} {request : Request} (field : String) (id : ObjectId)
    (h : repeats store request field id = true) : store.Repeats request := by
  unfold repeats at h
  split at h
  · cases h
  · rename_i name writing hwriting
    rw [Bool.and_eq_true, Bool.and_eq_true] at h
    obtain ⟨⟨hunique, hid⟩, h⟩ := h
    split at h
    · cases h
    · rename_i octets hentry
      split at h
      · cases h
      · rename_i other hread
        split at h
        · rename_i text held htext hheld
          obtain ⟨declared, hmem, hdeclared⟩ := List.any_eq_true.1 hunique
          rw [Bool.and_eq_true] at hdeclared
          exact ⟨name, writing, field, _, id, octets, other, _, hwriting,
            ⟨declared.2, eq_of_beq hdeclared.1 ▸ hmem, hdeclared.2⟩, htext, by simp,
            bne_iff_ne.1 hid, hentry, hread, hheld, h⟩
        · cases h

/-- A unique text. -/
def tag : Field :=
  { type := .scalar .string, required := true, options := [("unique", .bool true)] }

/-- The name of one collection goes on where that of the other ends and its field begins. -/
def clash : List Request :=
  [.register 0 "a" { fields := [("b\x00c", tag)], timestamps := false },
    .register 0 "a\x00b" { fields := [("c", tag)], timestamps := false },
    .insert "a" 0 ⟨ident 1, [("b\x00c", .string "x")], []⟩,
    .insert "a\x00b" 0 ⟨ident 1, [("c", .string "x")], []⟩, .delete "a\x00b" (ident 1)]

end Sample

namespace Store

/-- What is repeated once the addresses are unique is repeated after the store was opened again. -/
theorem repeats_nextSession {before : Store} (hreadable : before.catalog.Readable)
    (hdatabase : before.database = "db") {document : Document}
    (hrepeats : ({ before with
        registry := .insert .empty "members" (Sample.membersOf Sample.members) } : Store).Repeats
        (.insert "members" 0 document)) :
    (before.run Sample.nextSession).Repeats (.insert "members" 0 document) := by
  obtain ⟨entries, hreopen⟩ := exists_reopen_eq hreadable
  have hrun : before.run Sample.nextSession = ((before.serve .reopen).2.register 0 "members"
      { fields := Sample.members, timestamps := false }).2 := rfl
  rw [hrun, serve_reopen hreopen, Sample.register_members (by exact hdatabase) (by rfl) (by rfl)]
  exact hrepeats.congr rfl rfl rfl

/-- A value that a document of an earlier session holds is written again once its field is unique,
and a value of one collection is forgotten with a document of another one whose name goes on with a
null character. -/
theorem repeats_of_sample_runs :
    ((fresh "db" Sample.generator).run (Sample.firstSession ++ Sample.nextSession)).Repeats
        (.insert "members" 0 (Sample.member 2 "ann")) ∧
      ((fresh "db" Sample.generator).run Sample.clash).Repeats
        (.insert "a" 0 ⟨Sample.ident 2, [("b\x00c", .string "x")], []⟩) := by
  constructor
  · rw [run_append]
    apply repeats_nextSession Sample.readable_firstSession (by decide +kernel)
    exact Sample.repeats_of_sample "address" (Sample.ident 1) (by decide +kernel)
  · exact Sample.repeats_of_sample "b\x00c" (Sample.ident 1) (by decide +kernel)

end Store

end TypedCollections
