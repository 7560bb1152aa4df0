import TypedCollections.Proofs.Entity
import TypedCollections.Proofs.Store.Conforming
import TypedCollections.Proofs.Store.Histories
import TypedCollections.Proofs.Store.Sessions
import TypedCollections.Proofs.Validation.Slots
/-!
# Where stored documents come from

Every document in a tree was once made for a collection that was registered under its name. If the
collection was always registered with the same fields, what is found there is what is read back of
such a document: it conforms, its time stamps are numbers, and it owns its unique values.
-/

namespace TypedCollections

/-! ### Steps -/

/-- Whatever a proper step registers is admitted under its name. -/
theorem Step.Proper.admitted {step : Step} (hproper : step.Proper) {name : String}
    {collection : Collection} (hname : collection.name = name)
    (haccepts : step.Accepts name collection.schema) : Store.Admitted name collection := by
  have hentity : ∀ entity : Entity, Description.WellFormedShape entity.description →
      entity.prepare = .ok collection.schema → Store.Admitted name collection := by
    intro entity hdescription hprepare
    have hcompiled := (Entity.prepared_of_prepare hprepare).compiled hdescription
    exact ⟨hname, hcompiled.wellFormed⟩
  cases step with
  | request request =>
      cases request with
      | register now given schema =>
          obtain ⟨-, rfl⟩ := haccepts
          exact ⟨hname, hproper⟩
      | _ => exact haccepts.elim
  | registerEntity now entity => exact hentity entity hproper haccepts.2
  | registerAll now entities =>
      obtain ⟨entity, hmem, -, hprepare⟩ := haccepts
      exact hentity entity (hproper entity hmem) hprepare

namespace Store

variable {store : Store} {ledger : Ledger}

/-- After a step, every entry still is what was last written there, and what was written in the step
was made for a registered collection. -/
theorem Recorded.perform (hstore : store.Recorded ledger) {step : Step} (hproper : step.Proper)
    (hplain : step.Plain) :
    ∃ after : Ledger, (store.perform step).Recorded after ∧
      ∀ name id writing, after name id = some writing → ledger name id = some writing ∨
        ∃ collection given, store.collection? name = some collection ∧ given.WellFormed ∧
          (name, writing.document) ∈ step.written store ∧
          writing.fields = collection.schema.fields ∧
          store.Makes collection given writing.document := by
  have hindexed : (store.perform step).Enrolls Indexed :=
    Enrolls.perform hstore.indexed fun name collection hname haccepts _ =>
      ⟨hproper.admitted hname haccepts, hplain.of_accepts haccepts⟩
  generalize hother : store.perform step = other at hindexed
  have houtcome : Outcome store step other := hother ▸ outcome_of_perform store step
  cases houtcome with
  | registers h => exact ⟨ledger, hstore.congr hindexed h.documents h.unique, fun _ _ _ => .inl⟩
  | reopens _ h => exact ⟨ledger, hstore.congr hindexed h.documents h.unique, fun _ _ _ => .inl⟩
  | @writes name given stored _ hwritten hgiven h =>
      obtain ⟨collection, hfind, hmakes, -⟩ := h.exists_makes
      obtain ⟨collection', drawn, now, previous, events, hfind', hdrawn, -, hwrite, rfl⟩ := h
      rw [hfind] at hfind'
      cases hfind'
      refine ⟨ledger.note (some (name, ⟨stored, collection.schema.fields⟩)), ?_, ?_⟩
      · exact ((hstore.of_sameContent hdrawn).write (hstore.indexed name collection hfind)
          (hgiven hproper) hwrite).of_sameContent (sameContent_reportEach _ events)
      · intro other id writing hnoted
        by_cases hplace : other = name ∧ id = stored.id
        · obtain ⟨rfl, rfl⟩ := hplace
          rw [Ledger.note_self ledger other ⟨stored, collection.schema.fields⟩] at hnoted
          cases hnoted
          exact .inr ⟨collection, given, hfind, hgiven hproper, hwritten, rfl, hmakes⟩
        · rw [Ledger.note_of_other hplace] at hnoted
          exact .inl hnoted
  | deletes h =>
      obtain ⟨name, collection, id, hfind, rfl⟩ := h
      exact ⟨ledger, hstore.delete (hstore.indexed name collection hfind), fun _ _ _ => .inl⟩

end Store

/-! ### Documents that were made -/

namespace Collection

/-- Time stamps are written over what stood under their names. -/
theorem find?_stamp {collection : Collection} (h : collection.schema.timestamps = true) (now : Nat)
    (previous : Option Document) (fields : List (String × Value)) (name : String) :
    Entries.find? (collection.stamp now previous fields) name =
      if updatedAt = name then some (.number (Number.ofInt now))
      else if createdAt = name then
        some ((previous.bind (·.get? createdAt)).getD (.number (Number.ofInt now)))
      else Entries.find? fields name := by
  unfold stamp
  rw [if_pos h]
  simp only [Entries.find?_write]

theorem find?_stamp_of_ne (collection : Collection) (now : Nat) (previous : Option Document)
    (fields : List (String × Value)) {name : String} (hcreated : createdAt ≠ name)
    (hupdated : updatedAt ≠ name) :
    Entries.find? (collection.stamp now previous fields) name = Entries.find? fields name := by
  unfold stamp
  split
  · rw [Entries.find?_write, if_neg hupdated, Entries.find?_write, if_neg hcreated]
  · rfl

end Collection

namespace Document

/-- A document made for fields, with time stamps or without: its fields passed the check, its time
stamps are numbers, and a field called `_id`, which no document has, passes without a value. -/
structure Produced (fields : Fields) (timestamps : Bool) (document : Document) : Prop where
  checked : document.Checked fields
  stamped : timestamps = true → ∀ name ∈ Entries.names fields,
    name = createdAt ∨ name = updatedAt → ∃ number, document.get? name = some (.number number)
  identifier : ∀ patterns field, Patterns.ofFields fields = .ok patterns → (idField, field) ∈ fields →
    ∃ passed, Validation.checkSlot idField field.required field.options
      (Validation.checkField patterns field) [] = .ok passed

end Document

namespace Collection

variable {collection : Collection} {now : Nat} {previous : Option Document} {given : Document}
  {checked : List (String × Value)}

/-- A number that is given for a declared field is in the document made. -/
theorem get?_of_check {id : ObjectId} {fields : List (String × Value)}
    (hdefinition : collection.schema.fields.WellFormed) (hfields : Entries.Distinct fields)
    (hcheck : collection.check fields = .ok checked) {name : String} {number : Number}
    (hdeclared : name ∈ Entries.names collection.schema.fields) (hname : idField ≠ name)
    (hvalue : Entries.find? fields name = some (.number number)) :
    (Document.ofFields id checked).get? name = some (.number number) := by
  have hvalidate := check_eq_ok_iff.1 hcheck
  obtain ⟨⟨other, field⟩, hmem, heq⟩ := List.mem_map.1 hdeclared
  obtain rfl : other = name := heq
  obtain ⟨passed, hpassed, hfind⟩ :=
    Validation.exists_checkSlot_of_checkFields hdefinition.distinct hvalidate hmem
  have hkept : Entries.find? (Validation.keepDeclared collection.schema.fields fields) other
      = some (.number number) := by
    rw [Validation.find?_keepDeclared hdeclared, hvalue]
  have hslot : Validation.slotValue? other field.options
      (Validation.keepDeclared collection.schema.fields fields) = some (.number number) :=
    Validation.slotValue?_of_find? hkept (by simp)
  have hchecked : Entries.Distinct checked := Validation.distinct_of_checkFields
    (Validation.distinct_keepDeclared collection.schema.fields hfields) hvalidate
  rw [Document.ofFields_of_distinct hchecked, Document.get?, Entries.find?_remove, if_neg hname,
    hfind]
  obtain ⟨value, result, hsome, hcheckField, rfl⟩ | ⟨hnone, -⟩ :=
    Validation.checkSlot_eq_ok_iff.1 hpassed
  · rw [hslot] at hsome
    cases hsome
    rw [Entries.find?_write, if_pos rfl, Validation.checkField_number hcheckField]
  · rw [hslot] at hnone
    cases hnone

/-- What is made of a well-formed document for a collection, in the place of one with numbers as time
stamps, is produced. -/
theorem produced_of_check (hdefinition : collection.schema.fields.WellFormed)
    (hpatterns : Patterns.ofFields collection.schema.fields = .ok collection.patterns)
    (hgiven : given.WellFormed)
    (hprevious : ∀ before, previous = some before → before.WellFormed ∧
      ∀ value, before.get? createdAt = some value → collection.schema.timestamps = true →
        ∃ number, value = .number number)
    (hcheck : collection.check (collection.stamp now previous given.storedFields) = .ok checked) :
    (Document.ofFields given.id checked).Produced collection.schema.fields
      collection.schema.timestamps := by
  obtain ⟨hdistinct, hvalues⟩ := Document.wellFormed_storedFields hgiven
  obtain ⟨hdistinct, hvalues⟩ := wellFormed_stamp collection now hdistinct hvalues
    fun before h => (hprevious before h).1
  refine ⟨checked_of_check hdefinition rfl hpatterns hdistinct hvalues hcheck, ?_, ?_⟩
  · intro htimestamps name hdeclared hname
    have hstamp := find?_stamp htimestamps now previous given.storedFields
    rcases hname with rfl | rfl
    · have hcreated : ∃ number, Entries.find?
          (collection.stamp now previous given.storedFields) createdAt = some (.number number) := by
        rw [hstamp, if_neg (by decide), if_pos rfl]
        cases hfound : previous.bind (·.get? createdAt) with
        | none => exact ⟨_, rfl⟩
        | some value =>
            obtain ⟨before, hbefore, hvalue⟩ := Option.bind_eq_some_iff.1 hfound
            obtain ⟨number, rfl⟩ := (hprevious before hbefore).2 value hvalue htimestamps
            exact ⟨number, rfl⟩
      obtain ⟨number, hnumber⟩ := hcreated
      exact ⟨number, get?_of_check hdefinition hdistinct hcheck hdeclared (by decide) hnumber⟩
    · refine ⟨Number.ofInt now, get?_of_check hdefinition hdistinct hcheck hdeclared (by decide) ?_⟩
      rw [hstamp, if_pos rfl]
  · intro patterns field hsame hmem
    rw [hpatterns] at hsame
    cases hsame
    obtain ⟨passed, hpassed, -⟩ := Validation.exists_checkSlot_of_checkFields hdefinition.distinct
      (check_eq_ok_iff.1 hcheck) hmem
    have hdeclared : idField ∈ Entries.names collection.schema.fields := List.mem_map_of_mem hmem
    have hnone : Entries.find? given.storedFields idField = none := by
      rw [Entries.find?_eq_none_iff, Document.names_storedFields]
      exact hgiven.id_not_mem
    have hfind : Entries.find? [] idField = Entries.find? (Validation.keepDeclared
        collection.schema.fields (collection.stamp now previous given.storedFields)) idField := by
      rw [Validation.find?_keepDeclared hdeclared,
        find?_stamp_of_ne collection now previous _ (by decide) (by decide), hnone]
      rfl
    obtain ⟨passed', hpassed', -⟩ := Validation.checkSlot_congr hfind hpassed
    exact ⟨passed', hpassed'⟩

end Collection

/-! ### Histories with one registration -/

/-- What was written was made for fields, with time stamps or without, and it is read back. -/
structure Writing.Retained (fields : Fields) (timestamps : Bool) (writing : Writing) : Prop where
  fields_eq : writing.fields = fields
  produced : writing.document.Produced fields timestamps
  readable : writing.document.Readable
  finite : writing.document.Finite

namespace Writing.Retained

variable {fields : Fields} {timestamps : Bool} {writing : Writing}

theorem storable (h : writing.Retained fields timestamps) : writing.document.Storable fields :=
  Document.storable_of_finite h.readable h.finite

theorem ofOctets (h : writing.Retained fields timestamps) :
    Document.ofOctets writing.document.toOctets = .ok writing.document.reread :=
  Document.ofOctets_of_checked h.produced.checked h.storable

/-- What is read back of a document with time stamps has a number as its time of creation, if it has
one. -/
theorem created (h : writing.Retained fields true) {value : Value}
    (hvalue : writing.document.reread.get? createdAt = some value) :
    ∃ number, value = .number number := by
  rw [Document.get?_reread] at hvalue
  obtain ⟨before, hbefore, rfl⟩ := Option.map_eq_some_iff.1 hvalue
  obtain ⟨number, hnumber⟩ :=
    h.produced.stamped rfl createdAt (h.produced.checked.mem_names hbefore) (.inl rfl)
  rw [hbefore] at hnumber
  cases hnumber
  obtain ⟨finite, rfl⟩ := Value.finiteMembers_iff.1 h.finite _ (Entries.mem_of_find? hbefore)
  exact ⟨_, Value.reread_finite finite⟩

end Writing.Retained

namespace Store

variable {store : Store} {ledger : Ledger} {name : String} {fields : Fields} {timestamps : Bool}

/-- Every entry is what was last written there, and what was written under the name was made for the
fields. -/
structure Retains (name : String) (fields : Fields) (timestamps : Bool) (store : Store)
    (ledger : Ledger) : Prop where
  recorded : store.Recorded ledger
  patterns : store.Enrolls fun _ collection =>
    Patterns.ofFields collection.schema.fields = .ok collection.patterns
  writings : ∀ id writing, ledger name id = some writing → writing.Retained fields timestamps

theorem retains_fresh (database : String) (generator : ObjectId.Generator) :
    (fresh database generator).Retains name fields timestamps .empty :=
  ⟨recorded_fresh database generator .empty, enrolls_fresh database generator,
    fun _ _ h => by cases h⟩

/-- What is found in the collection is what is read back of what was written there. -/
theorem Retains.of_find {collection : Collection} {id : ObjectId} {found : Document}
    (hstore : store.Retains name fields timestamps ledger) (hname : collection.name = name)
    (h : store.find collection id = .ok (some found)) :
    ∃ writing, writing.Retained fields timestamps ∧ store.Owned name writing ∧
      writing.document.id = id ∧ found = writing.document.reread ∧
      (store.tree name).find? id.octets = some writing.document.toOctets := by
  unfold find at h
  rw [hname] at h
  cases htree : (store.tree name).find? id.octets with
  | none =>
      rw [htree] at h
      cases h
  | some octets =>
      obtain ⟨writing, hledger, hkey, rfl, howned⟩ := hstore.recorded.entries name _ octets htree
      have hretained := hstore.writings _ writing hledger
      rw [htree] at h
      simp only [readDocument, hretained.ofOctets] at h
      cases h
      exact ⟨writing, hretained, howned, (ObjectId.ext_octets hkey).symm, rfl, rfl⟩

theorem Retains.perform (hstore : store.Retains name fields timestamps ledger) {step : Step}
    (hproper : step.Proper) (hplain : step.Plain)
    (hregistered : ∀ collection, store.collection? name = some collection →
      collection.schema.fields = fields ∧ collection.schema.timestamps = timestamps)
    (hwritten : ∀ document, (name, document) ∈ step.written store →
      document.Readable ∧ document.Finite) :
    ∃ after : Ledger, (store.perform step).Retains name fields timestamps after := by
  obtain ⟨after, hrecorded, hnoted⟩ := hstore.recorded.perform hproper hplain
  refine ⟨after, hrecorded, hstore.patterns.perform fun _ _ _ _ h => h, ?_⟩
  intro id writing hwriting
  rcases hnoted name id writing hwriting with hold |
    ⟨collection, given, hfind, hgiven, hmem, hfields, now, previous, checked, hprevious, hcheck,
      hstored⟩
  · exact hstore.writings id writing hold
  · obtain ⟨rfl, rfl⟩ := hregistered collection hfind
    have hindexed := hstore.recorded.indexed name collection hfind
    obtain ⟨hreadable, hfinite⟩ := hwritten _ hmem
    refine ⟨hfields, ?_, hreadable, hfinite⟩
    rw [hstored]
    refine Collection.produced_of_check hindexed.wellFormed (hstore.patterns name collection hfind)
      hgiven (fun before hbefore => ?_) hcheck
    obtain ⟨earlier, hretained, -, -, rfl, -⟩ :=
      hstore.of_find hindexed.name_eq (hbefore ▸ hprevious)
    refine ⟨hretained.produced.checked.wellFormed.reread, fun value hvalue htimestamps => ?_⟩
    rw [htimestamps] at hretained
    exact hretained.created hvalue

/-- If the name was always registered with the same fields, what was written under it was made for
them. -/
theorem Retains.performAll {steps : List Step}
    (hstore : store.Retains name fields timestamps ledger)
    (hsteps : ∀ step ∈ steps, step.Proper ∧ step.Plain)
    (hregistered : store.AlwaysRegisters name fields timestamps steps)
    (hwritten : ∀ document, (name, document) ∈ store.writtenIn steps →
      document.Readable ∧ document.Finite) :
    ∃ after : Ledger, (store.performAll steps).Retains name fields timestamps after := by
  induction steps generalizing store ledger with
  | nil => exact ⟨ledger, hstore⟩
  | cons step rest ih =>
      rw [List.forall_mem_cons] at hsteps
      obtain ⟨after, hafter⟩ := hstore.perform hsteps.1.1 hsteps.1.2 hregistered.1
        fun document hmem => hwritten document (List.mem_append_left _ hmem)
      exact ih hafter hsteps.2 hregistered.2 fun document hmem =>
        hwritten document (List.mem_append_right _ hmem)

end Store

end TypedCollections
