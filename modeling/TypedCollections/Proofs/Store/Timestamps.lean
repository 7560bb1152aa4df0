import TypedCollections.Proofs.Number.Rounding
import TypedCollections.Proofs.Store.Origins
import TypedCollections.Proofs.Store.Timetable
/-!
# Time stamps follow the clock

The documents of a collection with time stamps carry the times of the timetable, whatever the
documents given to the requests hold under these names. The fields are written over before the
check, which gives back numbers as they are; and the time of creation is carried on from the octets of
the document before, where it is read back as the number that was written.
-/

namespace TypedCollections

/-! ### Documents with times -/

/-- A schema that keeps time stamps, as it is defined. -/
structure Schema.KeepsTime (schema : Schema) : Prop where
  timestamps : schema.timestamps = true
  fields : ∃ declared, schema.fields = (define declared true).fields

theorem Schema.KeepsTime.stamps_mem {schema : Schema} (h : schema.KeepsTime) :
    createdAt ∈ Entries.names schema.fields ∧ updatedAt ∈ Entries.names schema.fields := by
  obtain ⟨declared, hfields⟩ := h.fields
  rw [hfields]
  exact mem_names_define declared

/-- Entities are registered with time stamps. -/
theorem Entity.Prepared.keepsTime {entity : Entity} {schema : Schema} (h : entity.Prepared schema) :
    schema.KeepsTime := by
  obtain ⟨declared, -, hfields⟩ := h.fields
  exact ⟨h.timestamps, declared, hfields⟩

/-- A number of milliseconds is read back from JSON. -/
theorem Value.reread_ofInt {now : Nat} (h : now < 2 ^ 64) :
    (Value.number (Number.ofInt now)).reread = .number (Number.ofInt now) := by
  have hbits : (now : Int).natAbs ≤ 2 ^ 64 := by
    rw [Int.natAbs_natCast]
    exact h.le
  obtain ⟨finite, hfinite⟩ := Number.exists_ofInt_eq hbits
  rw [hfinite, reread_finite, Number.settled_of_ofInt hfinite]

namespace Document

/-- The time stamps of a document are these times. -/
structure Dated (document : Document) (times : Times) : Prop where
  created : document.get? createdAt = some (.number (Number.ofInt times.created))
  updated : document.get? updatedAt = some (.number (Number.ofInt times.updated))

/-- A document that can be stored with these times. -/
structure Timed (document : Document) (times : Times) : Prop where
  wellFormed : document.WellFormed
  dated : document.Dated times
  created_lt : times.created < 2 ^ 64
  updated_lt : times.updated < 2 ^ 64

theorem Timed.reread {document : Document} {times : Times} (h : document.Timed times) :
    document.reread.Timed times where
  wellFormed := h.wellFormed.reread
  dated :=
    { created := by
        rw [get?_reread, h.dated.created, Option.map_some, Value.reread_ofInt h.created_lt]
      updated := by
        rw [get?_reread, h.dated.updated, Option.map_some, Value.reread_ofInt h.updated_lt] }
  created_lt := h.created_lt
  updated_lt := h.updated_lt

end Document

namespace Store

variable {store : Store} {name : String} {table : Timetable} {collection : Collection} {now : Nat}
  {previous : Option Document} {document stored : Document}

/-- A document that was written has the reading of the clock as its last time, and as its first time
that of the document before, if there was one. -/
theorem timed_of_write (hadmitted : Admitted name collection) (hkeeps : collection.schema.KeepsTime)
    (hdocument : document.WellFormed)
    (hprevious : ∀ before, previous = some before → before.WellFormed)
    {created : Nat}
    (hcreated : (previous.bind (·.get? createdAt)).getD (.number (Number.ofInt now))
      = .number (Number.ofInt created))
    (hrange : created < 2 ^ 64 ∧ now < 2 ^ 64)
    (hwrite : (store.write collection now previous document).1 = .ok stored) :
    stored.id = document.id ∧ stored.Timed ⟨created, now⟩ := by
  obtain ⟨checked, unique, events, hcheck, rfl, -⟩ := exists_put_of_write hwrite
  have hdefinition := hadmitted.wellFormed
  obtain ⟨hdistinct, hvalues⟩ := Document.wellFormed_storedFields hdocument
  obtain ⟨hdistinct, hvalues⟩ :=
    Collection.wellFormed_stamp collection now hdistinct hvalues hprevious
  have hstamp := Collection.find?_stamp hkeeps.timestamps now previous document.storedFields
  obtain ⟨hcreatedAt, hupdatedAt⟩ := hkeeps.stamps_mem
  refine ⟨Document.id_ofFields _ _, ?_, ⟨?_, ?_⟩, hrange.1, hrange.2⟩
  · obtain ⟨-, hwell⟩ := Validation.wellFormed_of_checkFields hdefinition.each
      (Validation.distinct_keepDeclared _ hdistinct)
      (Validation.wellFormed_keepDeclared _ (Value.wellFormedMembers_iff.2 hvalues))
      (Collection.check_eq_ok_iff.1 hcheck)
    exact Document.wellFormed_ofFields _ (Value.wellFormedMembers_iff.1 hwell)
  · refine Collection.get?_of_check hdefinition hdistinct hcheck hcreatedAt (by decide) ?_
    rw [hstamp, if_neg (by decide), if_pos rfl, hcreated]
  · refine Collection.get?_of_check hdefinition hdistinct hcheck hupdatedAt (by decide) ?_
    rw [hstamp, if_pos rfl]

/-! ### Stores that follow a timetable -/

/-- Every entry of the collection is read as a document with the times noted of it, and where times
are noted there is an entry. -/
structure Follows (name : String) (store : Store) (table : Timetable) : Prop where
  entries : ∀ key octets, (store.tree name).find? key = some octets →
    ∃ document times, Document.ofOctets octets = .ok document ∧ key = document.id.octets ∧
      document.Timed times ∧ table name document.id = some times
  noted : ∀ id times, table name id = some times →
    ∃ octets, (store.tree name).find? id.octets = some octets

theorem follows_fresh (name database : String) (generator : ObjectId.Generator) :
    (fresh database generator).Follows name .empty := by
  constructor
  · intro key octets h
    cases h
  · intro id times h
    cases h

namespace Follows

theorem of_tree_eq {other : Store} (hstore : store.Follows name table)
    (htree : other.tree name = store.tree name) : other.Follows name table := by
  constructor
  · rw [htree]
    exact hstore.entries
  · rw [htree]
    exact hstore.noted

theorem congr {other : Store} (hstore : store.Follows name table)
    (hdocuments : other.documents = store.documents) : other.Follows name table :=
  hstore.of_tree_eq (by rw [tree, hdocuments, tree])

/-- A document found has the times noted of its identifier. -/
theorem of_find {id : ObjectId} {found : Document} (hstore : store.Follows name table)
    (hname : collection.name = name) (h : store.find collection id = .ok (some found)) :
    ∃ times, table name id = some times ∧ found.id = id ∧ found.Timed times := by
  unfold find at h
  rw [hname] at h
  cases htree : (store.tree name).find? id.octets with
  | none =>
      rw [htree] at h
      cases h
  | some octets =>
      obtain ⟨document, times, hread, hkey, htimed, hnoted⟩ := hstore.entries _ octets htree
      obtain rfl : id = document.id := ObjectId.ext_octets hkey
      rw [htree] at h
      simp only [readDocument, hread] at h
      cases h
      exact ⟨times, hnoted, rfl, htimed⟩

/-- Where no times are noted nothing is found, and where times are noted a document with them is. -/
theorem find_eq (hstore : store.Follows name table) (hname : collection.name = name)
    (id : ObjectId) :
    (table name id = none → store.find collection id = .ok none) ∧
      ∀ times, table name id = some times → ∃ found,
        store.find collection id = .ok (some found) ∧ found.id = id ∧ found.Dated times := by
  unfold find
  rw [hname]
  cases htree : (store.tree name).find? id.octets with
  | none =>
      refine ⟨fun _ => rfl, fun times hnoted => ?_⟩
      obtain ⟨octets, hfind⟩ := hstore.noted id times hnoted
      rw [htree] at hfind
      cases hfind
  | some octets =>
      obtain ⟨document, times, hread, hkey, htimed, hnoted⟩ := hstore.entries _ octets htree
      obtain rfl : id = document.id := ObjectId.ext_octets hkey
      rw [hnoted]
      simp only [readDocument, hread]
      constructor
      · intro h
        cases h
      · intro times h
        cases h
        exact ⟨document, rfl, rfl, htimed.dated⟩

/-- A document that is put and is read back is noted with its times. -/
theorem put {other : Store} {given : String} {noted : Option Times}
    (hstore : store.Follows name table)
    (hfind : ∀ key, (other.tree name).find? key =
      if name = given ∧ key = stored.id.octets then some stored.toOctets
      else (store.tree name).find? key)
    (hstored : name = given → stored.Readable ∧ ∃ times, noted = some times ∧ stored.Timed times) :
    other.Follows name (table.set given stored.id noted) := by
  constructor
  · intro key octets h
    rw [hfind] at h
    by_cases hplace : name = given ∧ key = stored.id.octets
    · obtain ⟨hreadable, times, hnoted, htimed⟩ := hstored hplace.1
      rw [if_pos hplace] at h
      obtain rfl : stored.toOctets = octets := Option.some.inj h
      exact ⟨stored.reread, times, Document.ofOctets_toOctets htimed.wellFormed hreadable, hplace.2,
        htimed.reread, (if_pos ⟨hplace.1, rfl⟩).trans hnoted⟩
    · rw [if_neg hplace] at h
      obtain ⟨document, times, hread, rfl, htimed, hnoted⟩ := hstore.entries key octets h
      refine ⟨document, times, hread, rfl, htimed, (if_neg ?_).trans hnoted⟩
      exact fun hsame => hplace ⟨hsame.1, by rw [hsame.2]⟩
  · intro id times h
    rw [hfind]
    split
    · exact ⟨_, rfl⟩
    · rename_i hplace
      refine hstore.noted id times ((if_neg ?_).symm.trans h)
      exact fun hsame => hplace ⟨hsame.1, by rw [hsame.2]⟩

/-- A document that is erased is noted no longer. -/
theorem erase {other : Store} {given : String} {id : ObjectId} (hstore : store.Follows name table)
    (hfind : ∀ key, (other.tree name).find? key =
      if name = given ∧ key = id.octets then none else (store.tree name).find? key) :
    other.Follows name (table.set given id none) := by
  constructor
  · intro key octets h
    rw [hfind] at h
    split at h
    · cases h
    · rename_i hplace
      obtain ⟨document, times, hread, rfl, htimed, hnoted⟩ := hstore.entries key octets h
      refine ⟨document, times, hread, rfl, htimed, (if_neg ?_).trans hnoted⟩
      exact fun hsame => hplace ⟨hsame.1, by rw [hsame.2]⟩
  · intro wanted times h
    by_cases hplace : name = given ∧ wanted = id
    · cases (if_pos hplace).symm.trans h
    · obtain ⟨octets, hbefore⟩ := hstore.noted wanted times ((if_neg hplace).symm.trans h)
      refine ⟨octets, (hfind _).trans ((if_neg ?_).trans hbefore)⟩
      exact fun hsame => hplace ⟨hsame.1, ObjectId.ext_octets hsame.2⟩

end Follows

/-! ### Requests -/

/-- A registered collection. If it is that of the name, it keeps time stamps. -/
structure Timely (name other : String) (collection : Collection) : Prop where
  admitted : Admitted other collection
  keepsTime : name = other → collection.schema.KeepsTime

namespace Follows

/-- The document written is noted with its times. -/
theorem write {given : String} {noted : Option Times} (hstore : store.Follows name table)
    (hname : collection.name = given)
    (hwrite : (store.write collection now previous document).1 = .ok stored) (events : List Event)
    (hstored : name = given → stored.Readable ∧ ∃ times, noted = some times ∧ stored.Timed times) :
    ((store.write collection now previous document).2.reportEach events).Follows name
      (table.set given stored.id noted) := by
  obtain ⟨checked, unique, others, -, -, hafter, -⟩ := exists_put_of_write hwrite
  rw [hafter]
  refine hstore.put (fun key => ?_) hstored
  rw [← hname]
  exact find?_put _ collection stored name key

/-- An insertion that succeeds is noted with the reading of the clock. -/
theorem inserted (hstore : store.Follows name table) {given : String}
    (htimely : Timely name given collection) (hdocument : document.WellFormed)
    (hnow : name = given → now < 2 ^ 64) (hreadable : name = given → stored.Readable)
    (hinsert : (store.insert collection now document).1 = .ok stored) :
    (store.insert collection now document).2.Follows name
      (table.set given stored.id (some ⟨now, now⟩)) := by
  obtain ⟨hwrite, events, hafter⟩ := exists_write_of_insert hinsert
  rw [hafter]
  refine hstore.write htimely.admitted.name_eq hwrite events fun hname => ?_
  obtain ⟨-, htimed⟩ := timed_of_write htimely.admitted (htimely.keepsTime hname) hdocument
    (fun _ h => by cases h) rfl ⟨hnow hname, hnow hname⟩ hwrite
  exact ⟨hreadable hname, _, rfl, htimed⟩

theorem insert (hstore : store.Follows name table) {given : String}
    (htimely : Timely name given collection) (hdocument : document.WellFormed)
    (hnow : name = given → now < 2 ^ 64)
    (hreadable : ∀ stored, name = given →
      Answer.of .written (store.insert collection now document).1 = .written stored →
        stored.Readable) :
    (store.insert collection now document).2.Follows name (table.note (.insert given now document)
      (.of .written (store.insert collection now document).1)) := by
  cases hinsert : (store.insert collection now document).1 with
  | error error => exact hstore.congr (sameContent_of_insert_eq_error hinsert).documents
  | ok stored =>
      rw [hinsert] at hreadable
      exact hstore.inserted htimely hdocument hnow (fun hname => hreadable stored hname rfl) hinsert

theorem insertJson (hstore : store.Follows name table) {given : String} {json : Json}
    (htimely : Timely name given collection) (hjson : json.WellFormed)
    (hnow : name = given → now < 2 ^ 64)
    (hreadable : ∀ stored, name = given →
      Answer.of .written (store.insertJson collection now json).1 = .written stored →
        stored.Readable) :
    (store.insertJson collection now json).2.Follows name (table.note (.insertJson given now json)
      (.of .written (store.insertJson collection now json).1)) := by
  cases hinsertJson : (store.insertJson collection now json).1 with
  | error error => exact hstore.congr (sameContent_of_insertJson_eq_error hinsertJson).documents
  | ok stored =>
      rw [hinsertJson] at hreadable
      obtain ⟨members, id, generator, rfl, hinsert, hafter⟩ :=
        exists_insert_of_insertJson hinsertJson
      have hdrawn : ({ store with generator } : Store).Follows name table := hstore.congr rfl
      rw [hafter]
      exact hdrawn.inserted htimely (Document.wellFormed_ofMembers id hjson.2) hnow
        (fun hname => hreadable stored hname rfl) hinsert

/-- A document that was updated has the time of creation that is noted, and the reading of the
clock. -/
theorem timed_of_update (hstore : store.Follows name table) (htimely : Timely name name collection)
    (hdocument : document.WellFormed) (hnow : now < 2 ^ 64)
    (hupdate : (store.update collection now document).1 = .ok (some stored)) :
    ∃ times, table name document.id = some times ∧ stored.id = document.id ∧
      stored.Timed { times with updated := now } := by
  obtain ⟨before, hfind, hwrite, -⟩ := exists_write_of_update hupdate
  obtain ⟨times, hnoted, -, htimed⟩ := hstore.of_find htimely.admitted.name_eq hfind
  refine ⟨times, hnoted, timed_of_write htimely.admitted (htimely.keepsTime rfl) hdocument
    (fun _ h => by cases h; exact htimed.wellFormed) ?_ ⟨htimed.created_lt, hnow⟩ hwrite⟩
  rw [Option.bind_some, htimed.dated.created]
  rfl

/-- An update that succeeds is noted with the reading of the clock. -/
theorem updated (hstore : store.Follows name table) {given : String}
    (htimely : Timely name given collection) (hdocument : document.WellFormed)
    (hnow : name = given → now < 2 ^ 64) (hreadable : name = given → stored.Readable)
    (hupdate : (store.update collection now document).1 = .ok (some stored)) :
    (store.update collection now document).2.Follows name (table.set given stored.id
      ((table given stored.id).map fun times => { times with updated := now })) := by
  obtain ⟨before, -, hwrite, events, hafter⟩ := exists_write_of_update hupdate
  rw [hafter]
  refine hstore.write htimely.admitted.name_eq hwrite events fun hname => ?_
  subst hname
  obtain ⟨times, hnoted, hid, htimed⟩ := hstore.timed_of_update htimely hdocument (hnow rfl) hupdate
  refine ⟨hreadable rfl, _, ?_, htimed⟩
  rw [hid, hnoted]
  rfl

theorem update (hstore : store.Follows name table) {given : String}
    (htimely : Timely name given collection) (hdocument : document.WellFormed)
    (hnow : name = given → now < 2 ^ 64)
    (hreadable : ∀ stored, name = given →
      Answer.of .updated (store.update collection now document).1 = .written stored →
        stored.Readable) :
    (store.update collection now document).2.Follows name (table.note (.update given now document)
      (.of .updated (store.update collection now document).1)) := by
  have hkept : (∀ stored, (store.update collection now document).1 ≠ .ok (some stored)) →
      store.SameContent (store.update collection now document).2 := sameContent_of_update
  cases hupdate : (store.update collection now document).1 with
  | error error => exact hstore.congr (hkept (by rw [hupdate]; simp)).documents
  | ok found =>
      cases found with
      | none => exact hstore.congr (hkept (by rw [hupdate]; simp)).documents
      | some stored =>
          rw [hupdate] at hreadable
          exact hstore.updated htimely hdocument hnow (fun hname => hreadable stored hname rfl)
            hupdate

/-- A deletion is noted. It cannot fail in the collection, where every entry is read. -/
theorem delete (hstore : store.Follows name table) {given : String}
    (hname : collection.name = given) (id : ObjectId) :
    (store.delete collection id).2.Follows name (table.note (.delete given id)
      (.of .deleted (store.delete collection id).1)) := by
  subst hname
  cases htree : (store.tree collection.name).find? id.octets with
  | none =>
      unfold Store.delete
      simp only [htree]
      exact hstore
  | some octets =>
      cases hread : Document.ofOctets octets with
      | ok removed =>
          obtain ⟨events, hdelete⟩ := delete_of_find? collection htree hread
          rw [hdelete]
          exact hstore.erase fun key => find?_erased store collection.name name id.octets key
      | error fault =>
          have hother : name ≠ collection.name := by
            rintro rfl
            obtain ⟨document, -, hdocument, -⟩ := hstore.entries _ octets htree
            rw [hread] at hdocument
            cases hdocument
          unfold Store.delete
          simp only [htree, readDocument, hread]
          refine hstore.of_tree_eq ?_
          rw [tree_setTree, if_neg hother.symm]

private theorem on {asked : Request} {given : String} {ask : Collection → Answer × Store}
    (hstore : store.Follows name table) (hserve : store.serve asked = store.on given ask)
    (hnote : table.note asked .unregistered = table)
    (hask : ∀ collection, store.collection? given = some collection →
      (ask collection).2.Follows name (table.note asked (ask collection).1)) :
    (store.serve asked).2.Follows name (table.note asked (store.serve asked).1) := by
  rw [hserve, Store.on]
  cases hfind : store.collection? given with
  | none =>
      rw [hnote]
      exact hstore
  | some collection => exact hask collection hfind

/-- Every request is noted as the store follows it. -/
theorem serve (hstore : store.Follows name table) (henrolls : store.Enrolls (Timely name))
    {asked : Request} (hproper : asked.Proper)
    (hreading : ∀ now, asked.reading? name = some now → now < 2 ^ 64)
    (hwritten : ∀ document, (name, document) ∈ asked.written (store.serve asked).1 →
      document.Readable) :
    (store.serve asked).2.Follows name (table.note asked (store.serve asked).1) := by
  cases asked with
  | register now given schema =>
      obtain ⟨hdocuments, -⟩ := register_spec store now given schema
      exact hstore.congr hdocuments
  | insert given now document =>
      refine hstore.on rfl rfl fun collection hfind => ?_
      refine hstore.insert (henrolls given collection hfind) hproper
        (fun hname => hreading now (if_pos hname.symm)) ?_
      rintro stored rfl hstored
      exact hwritten stored (mem_written_of_ok rfl rfl hfind hstored)
  | insertJson given now json =>
      refine hstore.on rfl rfl fun collection hfind => ?_
      refine hstore.insertJson (henrolls given collection hfind) hproper
        (fun hname => hreading now (if_pos hname.symm)) ?_
      rintro stored rfl hstored
      exact hwritten stored (mem_written_of_ok rfl rfl hfind hstored)
  | update given now document =>
      refine hstore.on rfl rfl fun collection hfind => ?_
      refine hstore.update (henrolls given collection hfind) hproper
        (fun hname => hreading now (if_pos hname.symm)) ?_
      rintro stored rfl hstored
      exact hwritten stored (mem_written_of_ok rfl rfl hfind hstored)
  | delete given id =>
      refine hstore.on rfl rfl fun collection hfind => ?_
      exact hstore.delete (henrolls given collection hfind).admitted.name_eq id
  | find given id => exact hstore.on rfl rfl fun _ _ => hstore
  | findAll given => exact hstore.on rfl rfl fun _ _ => hstore
  | count given => exact hstore.on rfl rfl fun _ _ => hstore
  | reopen =>
      unfold Store.serve
      cases hreopen : store.reopen with
      | error error => exact hstore
      | ok opened =>
          obtain ⟨hdocuments, -⟩ := reopen_spec hreopen
          exact hstore.congr hdocuments

end Follows

/-! ### Steps -/

/-- Whenever a collection was registered under the name, it kept time stamps. -/
def AlwaysStamps (store : Store) (name : String) : List Step → Prop
  | [] => ∀ collection, store.collection? name = some collection → collection.schema.KeepsTime
  | step :: rest =>
      (∀ collection, store.collection? name = some collection → collection.schema.KeepsTime) ∧
      (store.perform step).AlwaysStamps name rest

theorem AlwaysStamps.keepsTime {steps : List Step} (h : store.AlwaysStamps name steps) :
    ∀ collection, store.collection? name = some collection → collection.schema.KeepsTime := by
  cases steps with
  | nil => exact h
  | cons step rest => exact h.1

theorem AlwaysStamps.timely {steps : List Step} (h : store.AlwaysStamps name steps)
    (hadmitted : store.Enrolls Admitted) : store.Enrolls (Timely name) := by
  intro other collection hfind
  refine ⟨hadmitted other collection hfind, ?_⟩
  rintro rfl
  exact h.keepsTime collection hfind

/-- Time stamps are always kept, if no step may register the name without them. -/
theorem alwaysStamps_of_accepts {steps : List Step}
    (hsteps : ∀ step ∈ steps, ∀ schema, step.Accepts name schema → schema.KeepsTime)
    (hstore : store.Enrolls fun other collection => name = other → collection.schema.KeepsTime) :
    store.AlwaysStamps name steps := by
  have hnow : ∀ collection, store.collection? name = some collection →
      collection.schema.KeepsTime := fun collection hfind => hstore name collection hfind rfl
  induction steps generalizing store with
  | nil => exact hnow
  | cons step rest ih =>
      rw [List.forall_mem_cons] at hsteps
      have hafter := hstore.perform fun other collection _ haccepts _ heq =>
        hsteps.1 collection.schema (heq ▸ haccepts)
      exact ⟨hnow, ih hsteps.2 hafter fun collection hfind => hafter name collection hfind rfl⟩

namespace Follows

theorem perform (hstore : store.Follows name table) (henrolls : store.Enrolls (Timely name))
    {step : Step} (hproper : step.Proper)
    (hreading : ∀ now, step.reading? name = some now → now < 2 ^ 64)
    (hwritten : ∀ document, (name, document) ∈ step.written store → document.Readable) :
    (store.perform step).Follows name (step.note store table) := by
  cases step with
  | request asked => exact hstore.serve henrolls hproper hreading hwritten
  | registerEntity now entity =>
      exact hstore.congr (registers_registerEntity store now entity).documents
  | registerAll now entities =>
      exact hstore.congr (registers_registerAll store now entities).documents

/-- If the collection of the name always keeps time stamps, every history is noted as the store
follows it. -/
theorem performAll {steps : List Step} (hstore : store.Follows name table)
    (hadmitted : store.Enrolls Admitted) (hproper : ∀ step ∈ steps, step.Proper)
    (hstamps : store.AlwaysStamps name steps)
    (hreadings : ∀ now ∈ steps.filterMap (Step.reading? name), now < 2 ^ 64)
    (hwritten : ∀ document, (name, document) ∈ store.writtenIn steps → document.Readable) :
    (store.performAll steps).Follows name (store.timetable table steps) ∧
      (store.performAll steps).Enrolls (Timely name) := by
  induction steps generalizing store table with
  | nil => exact ⟨hstore, hstamps.timely hadmitted⟩
  | cons step rest ih =>
      rw [List.forall_mem_cons] at hproper
      have hreading : ∀ other ∈ step :: rest, ∀ now, other.reading? name = some now → now < 2 ^ 64 :=
        fun other hmem now h => hreadings now (List.mem_filterMap.2 ⟨other, hmem, h⟩)
      have hstep := hstore.perform (hstamps.timely hadmitted) hproper.1
        (hreading step (List.mem_cons_self ..))
        fun document hmem => hwritten document (List.mem_append_left _ hmem)
      have hafter : (store.perform step).Enrolls Admitted :=
        hadmitted.perform fun other collection hname haccepts _ => hproper.1.admitted hname haccepts
      refine ih hstep hafter hproper.2 hstamps.2 (fun now hmem => ?_)
        fun document hmem => hwritten document (List.mem_append_right _ hmem)
      obtain ⟨other, hother, h⟩ := List.mem_filterMap.1 hmem
      exact hreading other (List.mem_cons_of_mem _ hother) now h

end Follows

/-- In every history in which the collection of a name keeps time stamps, the documents stored under
the name are those whose times are noted, with these times as their time stamps. So an update keeps
the time of creation, and no time of creation is after the time of the last write if the readings of
the clock never decrease. Readings have 64 bits, and the documents written are readable. -/
theorem stamps_follow_clock (database : String) (generator : ObjectId.Generator) {steps : List Step}
    (hproper : ∀ step ∈ steps, step.Proper)
    (hstamps : (fresh database generator).AlwaysStamps name steps)
    (hreadings : ∀ now ∈ steps.filterMap (Step.reading? name), now < 2 ^ 64)
    (hstore : (fresh database generator).performAll steps = store)
    (htable : (fresh database generator).timetable .empty steps = table)
    (hwritten : ∀ document, (name, document) ∈ (fresh database generator).writtenIn steps →
      document.Readable) :
    (∀ key octets, (store.tree name).find? key = some octets → ∃ document times,
      Document.ofOctets octets = .ok document ∧ key = document.id.octets ∧
        table name document.id = some times ∧ document.Dated times) ∧
    (∀ collection, store.collection? name = some collection → ∀ id,
      (table name id = none → store.find collection id = .ok none) ∧
        ∀ times, table name id = some times → ∃ found,
          store.find collection id = .ok (some found) ∧ found.id = id ∧ found.Dated times) ∧
    (∀ collection, store.collection? name = some collection → ∀ now given stored,
      now < 2 ^ 64 → given.WellFormed →
        (store.update collection now given).1 = .ok (some stored) → ∃ before,
          store.find collection given.id = .ok (some before) ∧
            stored.get? createdAt = before.get? createdAt ∧
            stored.get? updatedAt = some (.number (Number.ofInt now))) ∧
    ((steps.filterMap (Step.reading? name)).Pairwise (· ≤ ·) →
      ∀ id times, table name id = some times → times.created ≤ times.updated ∧
        (Number.ofInt times.created).AtMost (Number.ofInt times.updated)) := by
  obtain ⟨hfollows, henrolls⟩ := (follows_fresh name database generator).performAll
    (enrolls_fresh database generator) hproper hstamps hreadings hwritten
  rw [hstore, htable] at hfollows
  rw [hstore] at henrolls
  refine ⟨fun key octets h => ?_, fun collection hfind id => ?_, ?_, fun hsorted id times h => ?_⟩
  · obtain ⟨document, times, hread, hkey, htimed, hnoted⟩ := hfollows.entries key octets h
    exact ⟨document, times, hread, hkey, hnoted, htimed.dated⟩
  · exact hfollows.find_eq (henrolls name collection hfind).admitted.name_eq id
  · intro collection hfind now given stored hnow hgiven hupdate
    have htimely := henrolls name collection hfind
    obtain ⟨times, hnoted, -, htimed⟩ := hfollows.timed_of_update htimely hgiven hnow hupdate
    obtain ⟨before, hbefore, -, hdated⟩ :=
      (hfollows.find_eq htimely.admitted.name_eq given.id).2 times hnoted
    exact ⟨before, hbefore, htimed.dated.created.trans hdated.created.symm, htimed.dated.updated⟩
  · have hordered : Timetable.empty.Ordered name (steps.filterMap (Step.reading? name)) :=
      fun _ _ h => by cases h
    have horder : times.created ≤ times.updated :=
      (hordered.timetable hsorted id times (htable ▸ h)).1
    exact ⟨horder, Number.ofInt_atMost horder⟩

end Store

/-! ### A member who is written again -/

namespace Sample

/-- The members with time stamps. A member is inserted with a time of creation of its own and
updated with nulls, and another member is inserted and deleted. -/
def datedSteps : List Step :=
  [.request (.register 0 "members" (Schema.define members true)),
    .request (.insert "members" 5 (Document.ofFields (ident 1)
      [("address", .string "ann"), (createdAt, .number (Number.ofInt 1))])),
    .request (.insert "members" 6 (member 2 "bob")),
    .request (.update "members" 9 (Document.ofFields (ident 1)
      [("address", .string "eve"), (createdAt, .null), (updatedAt, .null)])),
    .request (.delete "members" (ident 2))]

/-- Whether JSON is that of a member with integers as time stamps. -/
def isDated : Json → Bool
  | .object [(_, .object [(_, .string _)]), (_, .string _), (_, .number (.integer _)),
      (_, .number (.integer _))] => true
  | _ => false

theorem readable_of_isDated {document : Document} (h : isDated document.toJson = true) :
    document.Readable := by
  unfold isDated at h
  split at h
  · rename_i hjson
    constructor
    · rw [hjson]
      simp [Json.depth, Json.depthMembers, Json.nestingLimit]
    · rw [hjson]
      simp [Json.Legible, Json.LegibleMembers]
  · cases h

theorem proper_datedSteps : ∀ step ∈ datedSteps, step.Proper := by
  intro step hmem
  simp only [datedSteps, List.mem_cons, List.not_mem_nil, or_false] at hmem
  rcases hmem with rfl | rfl | rfl | rfl | rfl
  · exact Schema.wellFormed_define wellFormed_members true
  · exact Document.wellFormed_ofFields _ (by simp [Value.WellFormed])
  · exact wellFormed_member 2 "bob"
  · exact Document.wellFormed_ofFields _ (by simp [Value.WellFormed])
  · trivial

theorem keepsTime_datedSteps : ∀ step ∈ datedSteps, ∀ schema, step.Accepts "members" schema →
    schema.KeepsTime := by
  intro step hmem schema haccepts
  simp only [datedSteps, List.mem_cons, List.not_mem_nil, or_false] at hmem
  rcases hmem with rfl | rfl | rfl | rfl | rfl
  · obtain ⟨-, rfl⟩ := haccepts
    exact ⟨rfl, members, rfl⟩
  · exact haccepts.elim
  · exact haccepts.elim
  · exact haccepts.elim
  · exact haccepts.elim

/-- What the steps leave: every document that they write is read back, the members are registered,
and the times of the first member are noted. -/
def isNoted (store : Store) (steps : List Step) : Bool :=
  (store.writtenIn steps).all (fun written => isDated written.2.toJson) &&
    ((store.performAll steps).collection? "members").isSome &&
    store.timetable .empty steps "members" (ident 1) == some ⟨5, 9⟩ &&
    store.timetable .empty steps "members" (ident 2) == none

theorem isNoted_datedSteps : isNoted (Store.fresh "db" generator) datedSteps = true := by
  decide +kernel

end Sample

namespace Store

theorem stamps_follow_clock_of_members : ∃ store members found,
    (fresh "db" Sample.generator).performAll Sample.datedSteps = store ∧
      store.collection? "members" = some members ∧
      store.find members (Sample.ident 1) = .ok (some found) ∧ found.Dated ⟨5, 9⟩ ∧
      store.find members (Sample.ident 2) = .ok none ∧
      (Number.ofInt 5).AtMost (Number.ofInt 9) := by
  have hnoted := Sample.isNoted_datedSteps
  simp only [Sample.isNoted, Bool.and_eq_true, beq_iff_eq, List.all_eq_true,
    Option.isSome_iff_exists] at hnoted
  obtain ⟨⟨⟨hwritten, members, hmembers⟩, hfirst⟩, hsecond⟩ := hnoted
  have hreadings : Sample.datedSteps.filterMap (Step.reading? "members") = [5, 6, 9] := by
    decide +kernel
  obtain ⟨-, hfind, -, horder⟩ := stamps_follow_clock "db" Sample.generator
    Sample.proper_datedSteps
    (alwaysStamps_of_accepts Sample.keepsTime_datedSteps (enrolls_fresh "db" Sample.generator))
    (by rw [hreadings]; decide) rfl rfl
    fun document hmem => Sample.readable_of_isDated (hwritten _ hmem)
  obtain ⟨found, hfound, -, hdated⟩ := (hfind members hmembers (Sample.ident 1)).2 _ hfirst
  refine ⟨_, members, found, rfl, hmembers, hfound, hdated,
    (hfind members hmembers (Sample.ident 2)).1 hsecond, ?_⟩
  exact (horder (by rw [hreadings]; decide) _ _ hfirst).2

end Store

end TypedCollections
