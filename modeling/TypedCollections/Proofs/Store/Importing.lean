import TypedCollections.Proofs.Store.Agreement
import TypedCollections.Proofs.Store.Rechecking
import TypedCollections.Proofs.Validation.Casting
/-!
# Importing renderings

What a collection of an entity renders of a document that was found is read back from its text, and
it can be inserted where neither the identifier nor the unique values of the document are taken. The
check casts the identifiers that are given as text, and what is stored is the document, but for its
time stamps.
-/

namespace TypedCollections

/-! ### The text of a rendering -/

namespace Store

variable {store : Store} {kind : Representation} {collection : Collection} {entity : Entity}
  {document : Document}

/-- A field that is not expanded is rendered in its native form or as text. -/
theorem renderedAs_fieldJson {name : String} (hpopulated : document.isPopulated name = false)
    {value : Value} (hvalue : document.get? name = some value) :
    value.RenderedAs (store.fieldJson kind collection document name value) := by
  rw [fieldJson_of_not_populated hpopulated, Document.referenceText?, hvalue]
  split
  · cases htext : referenceText? (some value) with
    | none => exact value.renderedAs_toJson
    | some text => exact .inr htext
  · exact value.renderedAs_toJson

theorem distinct_renderMembers (hprepared : entity.Prepared collection.schema)
    (hwell : document.WellFormed) :
    Entries.Distinct (store.renderMembers kind collection document) := by
  rw [Entries.Distinct, names_renderMembers hprepared, List.nodup_cons]
  exact ⟨hwell.id_not_mem, hwell.distinct⟩

/-- Every member of a rendered document is its identifier as text or one of its fields. -/
theorem forall_renderMembers (hprepared : entity.Prepared collection.schema)
    (hwell : document.WellFormed) {P : Json → Prop} (hidentifier : P (.string document.id.hex))
    (hfields : ∀ name value, document.get? name = some value →
      P (store.fieldJson kind collection document name value)) :
    ∀ member ∈ store.renderMembers kind collection document, P member.2 := by
  intro member hmem
  have hfind := Entries.find?_eq_of_mem (distinct_renderMembers hprepared hwell) hmem
  rw [find?_renderMembers hprepared hwell.id_not_mem] at hfind
  split at hfind
  · rw [← Option.some.inj hfind]
    exact hidentifier
  · obtain ⟨value, hvalue, heq⟩ := Option.map_eq_some_iff.1 hfind
    rw [← heq]
    exact hfields member.1 value hvalue

/-- The text of a rendered document is read back, if its stored text is and nothing is expanded. -/
theorem read_text_render (hprepared : entity.Prepared collection.schema)
    (hwell : document.WellFormed) (hreadable : document.Readable)
    (hpopulated : ∀ name, document.isPopulated name = false) :
    Json.read (store.render kind collection document).text
      = .ok (store.render kind collection document) := by
  have hrendered : ∀ name value, document.get? name = some value →
      value.RenderedAs (store.fieldJson kind collection document name value) :=
    fun name value hvalue => renderedAs_fieldJson (hpopulated name) hvalue
  apply Json.read_text
  · refine ⟨distinct_renderMembers hprepared hwell, Json.wellFormedMembers_iff.2 ?_⟩
    refine forall_renderMembers hprepared hwell trivial fun name value hvalue => ?_
    exact (hrendered name value hvalue).wellFormed
      (Value.wellFormed_toJson (hwell.values _ (Entries.mem_of_find? hvalue)))
  · refine Json.legibleMembers_iff.2 ?_
    refine forall_renderMembers hprepared hwell trivial fun name value hvalue => ?_
    exact (hrendered name value hvalue).legible (hreadable.legible_field hvalue)
  · have hmembers : Json.depthMembers (store.renderMembers kind collection document)
        ≤ Json.nestingLimit - 1 := by
      refine Json.depthMembers_le_iff.2 ?_
      refine forall_renderMembers (P := fun json => json.depth ≤ Json.nestingLimit - 1) hprepared
        hwell (Nat.zero_le _) fun name value hvalue => ?_
      exact Nat.le_trans (hrendered name value hvalue).depth_le
        (Nat.le_sub_one_of_lt (hreadable.depth_field_lt hvalue))
    exact Nat.add_le_of_le_sub (by decide) hmembers

end Store

/-! ### Documents with rendered fields -/

/-- The document has the identifier and the names of another one, and under each name the value of what
is rendered of the field. -/
structure Document.Mirrors (given document : Document) : Prop where
  id : given.id = document.id
  names_eq : Entries.names given.fields = Entries.names document.fields
  populated : given.populated = []
  field : ∀ name value, document.get? name = some value → ∃ json, value.RenderedAs json ∧
    given.get? name = some (Value.ofJson json)

namespace Store

variable {store : Store} {kind : Representation} {collection : Collection} {entity : Entity}
  {document : Document}

/-- What is made of the members of a rendered document mirrors the document. -/
theorem mirrors_renderMembers (hprepared : entity.Prepared collection.schema)
    (hwell : document.WellFormed) (hpopulated : ∀ name, document.isPopulated name = false) :
    (Document.ofFields document.id
      (Value.membersOfJson (store.renderMembers kind collection document))).Mirrors document := by
  have hdistinct : Entries.Distinct
      (Value.membersOfJson (store.renderMembers kind collection document)) := by
    rw [Entries.Distinct, Value.names_membersOfJson]
    exact distinct_renderMembers hprepared hwell
  rw [Document.ofFields_of_distinct hdistinct]
  refine ⟨rfl, ?_, rfl, fun name value hvalue => ?_⟩
  · rw [Entries.names_remove, Value.names_membersOfJson, names_renderMembers hprepared,
      List.filter_cons_of_neg (by simp), List.filter_eq_self]
    intro name hmem
    rw [bne_iff_ne]
    rintro rfl
    exact hwell.id_not_mem hmem
  · have hid : idField ≠ name := by
      rintro rfl
      exact hwell.id_not_mem (Entries.mem_names_iff.2 ⟨value, hvalue⟩)
    refine ⟨store.fieldJson kind collection document name value,
      renderedAs_fieldJson (hpopulated name) hvalue, ?_⟩
    rw [Document.get?, Entries.find?_remove, if_neg hid, Value.membersOfJson_eq_mapValues,
      Entries.find?_mapValues, find?_renderMembers hprepared hwell.id_not_mem, if_neg hid, hvalue]
    rfl

/-- A rendered document is inserted as what is made of its members, with its identifier. -/
theorem insertJson_render (other : Store) (copy : Collection) (now : Nat)
    (hprepared : entity.Prepared collection.schema) (hwell : document.WellFormed) :
    other.insertJson copy now (store.render kind collection document)
      = other.insert copy now (Document.ofFields document.id
          (Value.membersOfJson (store.renderMembers kind collection document))) := by
  have hfind : Entries.find? (store.renderMembers kind collection document) idField
      = some (.string document.id.hex) := by
    rw [find?_renderMembers hprepared hwell.id_not_mem, if_pos rfl]
  have hchosen : other.chooseId now (store.renderMembers kind collection document)
      = (.ok document.id, other) := by
    rw [chooseId, hfind]
    simp only [Option.map_some, Value.ofJson, ObjectId.ofHex?_hex]
  rw [render, insertJson]
  simp only [hchosen]

end Store

/-! ### The check of a mirrored document -/

namespace Writing.Retained

open Validation

variable {writing : Writing} {fields : Fields} {patterns : Patterns}
  {values : List (String × Value)}

/-- A field that holds what was read back, as it is rendered, is checked to what was read back. -/
theorem checkSlot_of_mirrors {timestamps : Bool} (h : writing.Retained fields timestamps)
    (hunmarked : FieldType.UnmarkedFields fields)
    (hpatterns : Patterns.ofFields fields = .ok patterns) {given : Document}
    (hgiven : given.Mirrors writing.document.reread) {name : String} {field : Field}
    (hmem : (name, field) ∈ fields) (hname : idField ≠ name)
    (hsame : Entries.find? values name = given.get? name) :
    ∃ passed, checkSlot name field.required field.options (checkField patterns field) values
        = .ok passed ∧
      Entries.find? passed name = Entries.find? writing.document.reread.fields name := by
  cases hvalue : writing.document.reread.get? name with
  | none =>
      refine h.checkSlot_of_find?_eq hunmarked hpatterns hmem hname ?_
      have hnone : given.get? name = none := by
        rw [Document.get?, Entries.find?_eq_none_iff, hgiven.names_eq]
        exact Entries.find?_eq_none_iff.1 hvalue
      rw [hsame, hnone]
      exact hvalue.symm
  | some value =>
      obtain ⟨json, hrendered, hget⟩ := hgiven.field name value hvalue
      rw [hget] at hsame
      rcases h.fitsSlot hunmarked hpatterns hmem hname with ⟨other, hother, hfits⟩ | ⟨hmissing, -⟩
      · obtain rfl : value = other := Option.some.inj (hvalue.symm.trans hother)
        have hread : value.reread = value := by
          rw [Document.get?_reread] at hvalue
          obtain ⟨before, -, rfl⟩ := Option.map_eq_some_iff.1 hvalue
          exact before.reread_reread
        have hcheck := checkField_of_renderedAs hrendered hfits hread
        have hnull : Value.ofJson json ≠ .null := by
          intro heq
          rw [heq] at hcheck
          exact checkField_null field value hcheck
        refine ⟨Entries.write values name value, ?_, ?_⟩
        · exact checkSlot_eq_ok_iff.2
            (.inl ⟨_, value, slotValue?_of_find? hsame hnull, hcheck, rfl⟩)
        · rw [Entries.find?_write, if_pos rfl, hother]
      · -- Where the field may do without a value, it has none or null, which is rendered as null.
        obtain rfl := hmissing value hvalue
        rw [hrendered.of_null] at hsame
        exact h.checkSlot_of_find?_eq hunmarked hpatterns hmem hname (hsame.trans hvalue.symm)

/-- A time stamp passes if it is within the bounds of its field. -/
theorem checkSlot_stamp (h : writing.Retained fields true)
    (hunmarked : FieldType.UnmarkedFields fields)
    (hpatterns : Patterns.ofFields fields = .ok patterns) {name : String} {field : Field}
    (hmem : (name, field) ∈ fields) (hname : name = createdAt ∨ name = updatedAt) {number : Number}
    (hnumber : FitsNumber field.options number)
    (hvalue : Entries.find? values name = some (.number number)) :
    checkSlot name field.required field.options (checkField patterns field) values = .ok values := by
  have hdeclared : name ∈ Entries.names fields := List.mem_map_of_mem hmem
  obtain ⟨before, hbefore⟩ := h.exists_stamp hdeclared hname
  have hid : idField ≠ name := by rcases hname with rfl | rfl <;> decide
  rcases h.fitsSlot hunmarked hpatterns hmem hid with ⟨other, hother, hfits⟩ | ⟨hmissing, -⟩
  · rw [hbefore] at hother
    cases hother
    exact checkSlot_of_fitsSlot (fun _ => checkField_of_fits) (not_fitsField_null field)
      (.inl ⟨_, hvalue, fitsField_of_fitsNumber hfits hnumber⟩)
  · cases hmissing _ hbefore

/-- What mirrors a document that was read back passes the check, if its time stamps are within the
bounds of their fields. What is made of it is the document, but for the time stamps, and these are the
time of the insertion. -/
theorem exists_check_of_mirrors {collection : Collection}
    (h : writing.Retained collection.schema.fields collection.schema.timestamps)
    (htimestamps : collection.schema.timestamps = true)
    (hdefinition : collection.schema.fields.WellFormed)
    (hunmarked : FieldType.UnmarkedFields collection.schema.fields)
    (hpatterns : Patterns.ofFields collection.schema.fields = .ok collection.patterns)
    {given : Document} (hgiven : given.Mirrors writing.document.reread) {now : Nat}
    (hstamps : ∀ name field, name = createdAt ∨ name = updatedAt →
      (name, field) ∈ collection.schema.fields →
        FitsNumber field.options (Number.ofInt now)) :
    ∃ checked, collection.check (collection.stamp now none given.storedFields) = .ok checked ∧
      Entries.names (Document.ofFields given.id checked).fields
        = Entries.names writing.document.reread.fields ∧
      (∀ name, name ≠ createdAt → name ≠ updatedAt →
        (Document.ofFields given.id checked).get? name = writing.document.reread.get? name) ∧
      ∀ name ∈ Entries.names collection.schema.fields, name = createdAt ∨ name = updatedAt →
        (Document.ofFields given.id checked).get? name = some (.number (Number.ofInt now)) := by
  rw [Document.storedFields_of_raw hgiven.populated]
  have hnames := h.names_stamped hgiven.names_eq now none
  have hstamp : ∀ name, name = createdAt ∨ name = updatedAt →
      Entries.find? (collection.stamp now none given.fields) name
        = some (.number (Number.ofInt now)) := by
    intro name hname
    rw [Collection.find?_stamp htimestamps]
    rcases hname with rfl | rfl
    · rw [if_neg (by decide), if_pos rfl]
      rfl
    · rw [if_pos rfl]
  have hmirrored : ∀ name field, (name, field) ∈ collection.schema.fields → idField ≠ name →
      name ≠ createdAt → name ≠ updatedAt → ∃ passed,
        checkSlot name field.required field.options (checkField collection.patterns field)
          (keepDeclared collection.schema.fields (collection.stamp now none given.fields))
            = .ok passed ∧
        Entries.find? passed name = Entries.find? writing.document.reread.fields name := by
    intro name field hmem hid hcreated hupdated
    refine h.checkSlot_of_mirrors hunmarked hpatterns hgiven hmem hid ?_
    rw [find?_keepDeclared (List.mem_map_of_mem hmem),
      Collection.find?_stamp_of_ne collection now none _ hcreated.symm hupdated.symm]
    rfl
  obtain ⟨checked, hchecked⟩ := h.exists_rechecked hdefinition hpatterns hnames
    fun name field hmem hid => by
      by_cases hname : name = createdAt ∨ name = updatedAt
      · have hvalue := hstamp name hname
        rw [← find?_keepDeclared (List.mem_map_of_mem hmem)] at hvalue
        rw [htimestamps] at h
        exact ⟨_, h.checkSlot_stamp hunmarked hpatterns hmem hname (hstamps name field hname hmem)
          hvalue⟩
      · rw [not_or] at hname
        obtain ⟨passed, hpassed, -⟩ := hmirrored name field hmem hid hname.1 hname.2
        exact ⟨passed, hpassed⟩
  have hcheck := Collection.check_eq_ok_iff.2 hchecked
  obtain ⟨hsame, hget⟩ := h.rechecked hdefinition hunmarked hpatterns hnames hchecked given.id
  refine ⟨checked, hcheck, hsame, fun name hcreated hupdated => ?_, fun name hdeclared hname => ?_⟩
  · exact hget name fun field hmem hid => hmirrored name field hmem hid hcreated hupdated
  · have hdistinct : Entries.Distinct (collection.stamp now none given.fields) := by
      refine Collection.distinct_stamp collection now none ?_
      rw [Entries.Distinct, hgiven.names_eq]
      exact h.produced.checked.wellFormed.reread.distinct
    exact Collection.get?_of_check hdefinition hdistinct hcheck hdeclared
      (by rcases hname with rfl | rfl <;> decide) (hstamp name hname)

end Writing.Retained

/-! ### Importing -/

namespace Store

/-- An insertion of what passes the check succeeds, if neither the identifier nor a unique value is
taken. -/
theorem insert_of_check {store : Store} {collection : Collection} {now : Nat} {document : Document}
    {checked : List (String × Value)}
    (hnew : (store.tree collection.name).has document.id.octets = false)
    (hcheck : collection.check (collection.stamp now none document.storedFields) = .ok checked)
    (hfree : store.unique.Free document.id
      (collection.uniqueKeys (Document.ofFields document.id checked))) :
    (store.insert collection now document).1 = .ok (Document.ofFields document.id checked) ∧
      ((store.insert collection now document).2.tree collection.name).find? document.id.octets
        = some (Document.ofFields document.id checked).toOctets := by
  obtain ⟨events, hinsert⟩ := insert_of_not_has now hnew
  obtain ⟨unique, events', hwrite, -⟩ := exists_write_of_check hcheck hfree
  have hok : (store.write collection now none document).1
      = .ok (Document.ofFields document.id checked) := by
    rw [hwrite]
  have hentry := find?_of_write hok
  rw [Document.id_ofFields] at hentry
  rw [hinsert]
  exact ⟨hok, hentry⟩

/-- A time stamp may be written: it is within the bounds of its field and, if the field is unique, no
other document owns it. -/
structure AdmitsStamp (store : Store) (collection : Collection) (id : ObjectId) (now : Nat)
    (name : String) (field : Field) : Prop where
  fits : Validation.FitsNumber field.options (Number.ofInt now)
  free : Field.isUnique field = true →
    store.unique.Free id [⟨collection.name, name, (Number.ofInt now).toJson.text⟩]

/-- What differs from another document in its time stamps only owns free unique values, if those of the
other document and the time stamps are free. -/
theorem free_uniqueKeys {store : Store} {collection : Collection} {id : ObjectId} {now : Nat}
    {found stored : Document} (hfree : store.unique.Free id (collection.uniqueKeys found))
    (hadmits : ∀ name field, name = createdAt ∨ name = updatedAt →
      (name, field) ∈ collection.schema.fields → store.AdmitsStamp collection id now name field)
    (hget : ∀ name, name ≠ createdAt → name ≠ updatedAt → stored.get? name = found.get? name)
    (hstamps : ∀ name ∈ Entries.names collection.schema.fields, name = createdAt ∨ name = updatedAt →
      stored.get? name = some (.number (Number.ofInt now))) :
    store.unique.Free id (collection.uniqueKeys stored) := by
  intro key hmem
  obtain ⟨name, value, ⟨field, hfield, hunique⟩, hvalue, hnull, rfl⟩ :=
    Collection.mem_uniqueKeys.1 hmem
  by_cases hname : name = createdAt ∨ name = updatedAt
  · rw [hstamps name (List.mem_map_of_mem hfield) hname] at hvalue
    cases hvalue
    exact (hadmits name field hname hfield).free hunique _ (List.mem_singleton_self _)
  · rw [not_or] at hname
    rw [hget name hname.1 hname.2] at hvalue
    exact hfree _ (Collection.mem_uniqueKeys.2
      ⟨name, value, ⟨field, hfield, hunique⟩, hvalue, hnull, rfl⟩)

/-- What mirrors a document that was read back is inserted where neither its identifier nor its unique
values are taken, if the time of the insertion may be written. It is stored as the document, but for
the time stamps that are declared. -/
theorem insert_of_mirrors {store : Store} {collection : Collection} {writing : Writing}
    (hretained : writing.Retained collection.schema.fields collection.schema.timestamps)
    (htimestamps : collection.schema.timestamps = true)
    (hdefinition : collection.schema.fields.WellFormed)
    (hunmarked : FieldType.UnmarkedFields collection.schema.fields)
    (hpatterns : Patterns.ofFields collection.schema.fields = .ok collection.patterns)
    {given : Document} (hgiven : given.Mirrors writing.document.reread)
    (hnew : (store.tree collection.name).has writing.document.id.octets = false)
    (hfree : store.unique.Free writing.document.id
      (collection.uniqueKeys writing.document.reread)) {now : Nat}
    (hadmits : ∀ name field, name = createdAt ∨ name = updatedAt →
      (name, field) ∈ collection.schema.fields →
        store.AdmitsStamp collection writing.document.id now name field) :
    ∃ stored, (store.insert collection now given).1 = .ok stored ∧
      stored.id = writing.document.id ∧ stored.populated = [] ∧
      Entries.names stored.fields = Entries.names writing.document.reread.fields ∧
      (∀ name, name ≠ createdAt → name ≠ updatedAt →
        stored.get? name = writing.document.reread.get? name) ∧
      (∀ name ∈ Entries.names collection.schema.fields, name = createdAt ∨ name = updatedAt →
        stored.get? name = some (.number (Number.ofInt now))) ∧
      ((store.insert collection now given).2.tree collection.name).find? writing.document.id.octets
        = some stored.toOctets := by
  have hid : given.id = writing.document.id := hgiven.id
  rw [← hid] at hnew hfree hadmits ⊢
  obtain ⟨checked, hcheck, hnames, hget, hstamps⟩ :=
    hretained.exists_check_of_mirrors htimestamps hdefinition hunmarked hpatterns hgiven
      fun name field hname hmem => (hadmits name field hname hmem).fits
  obtain ⟨hinsert, hentry⟩ :=
    insert_of_check hnew hcheck (free_uniqueKeys hfree hadmits hget hstamps)
  refine ⟨_, hinsert, Document.id_ofFields _ _, ?_, hnames, hget, hstamps, hentry⟩
  rw [Document.ofFields_eq]

/-- A document that is found in the collection of an entity can be imported again. Both of its
renderings are read back from their text, and what is rendered is inserted through the same
registration in any store that neither holds the identifier nor has an owner of its unique values, if
the time of the insertion may be written: the document stored has the identifier and the fields in
their order, and it differs in its time stamps only, which are the time of the insertion. The name was
registered with one schema throughout, as it is in every session. -/
theorem rendering_imported_again (database : String) (generator : ObjectId.Generator)
    {steps : List Step} (hsteps : ∀ step ∈ steps, step.Proper ∧ step.Plain) {store : Store}
    (hstore : (fresh database generator).performAll steps = store) {name : String}
    {collection : Collection} (hcollection : store.collection? name = some collection)
    {entity : Entity} (hentity : entity.prepare = .ok collection.schema)
    (hregistered : (fresh database generator).AlwaysRegisters name collection.schema.fields
      collection.schema.timestamps steps)
    (hunmarked : FieldType.UnmarkedFields collection.schema.fields)
    (hwritten : ∀ document, (name, document) ∈ (fresh database generator).writtenIn steps →
      document.Readable ∧ document.Finite)
    {id : ObjectId} {found : Document} (hfind : store.find collection id = .ok (some found))
    (kind : Representation) {json : Json} (hjson : store.render kind collection found = json)
    {other : Store} {copy : Collection} (hschema : copy.schema = collection.schema)
    (hpatterns : copy.patterns = collection.patterns)
    (hnew : (other.tree copy.name).has id.octets = false)
    (hfree : other.unique.Free id (copy.uniqueKeys found)) {now : Nat}
    (hadmits : ∀ stamp field, stamp = createdAt ∨ stamp = updatedAt →
      (stamp, field) ∈ copy.schema.fields → other.AdmitsStamp copy id now stamp field) :
    Json.read json.text = .ok json ∧ found.id = id ∧
      ∃ stored, (other.insertJson copy now json).1 = .ok stored ∧ stored.id = id ∧
        stored.populated = found.populated ∧
        Entries.names stored.fields = Entries.names found.fields ∧
        (∀ field, field ≠ createdAt → field ≠ updatedAt →
          stored.get? field = found.get? field) ∧
        (∀ stamp, stamp = createdAt ∨ stamp = updatedAt →
          stored.get? stamp = some (.number (Number.ofInt now))) ∧
        ((other.insertJson copy now json).2.tree copy.name).find? id.octets
          = some stored.toOctets := by
  subst hstore hjson
  obtain ⟨ledger, hretains⟩ :=
    (retains_fresh database generator).performAll hsteps hregistered hwritten
  have hindexed := hretains.recorded.indexed name collection hcollection
  have hcompiled := hretains.patterns name collection hcollection
  have hprepared := Entity.prepared_of_prepare hentity
  obtain ⟨writing, hretained, -, rfl, rfl, -⟩ := hretains.of_find hindexed.name_eq hfind
  have hwell := hretained.produced.checked.wellFormed.reread
  have hpopulated := isPopulated_of_find hfind
  refine ⟨read_text_render hprepared hwell hretained.readable.reread hpopulated, rfl, ?_⟩
  rw [insertJson_render other copy now hprepared hwell]
  -- The same registration checks alike, so what was written for the one passes for the other.
  rw [← hschema] at hretained hunmarked
  rw [← hschema, ← hpatterns] at hcompiled
  obtain ⟨stored, hinsert, hid, hraw, hnames, hget, hstamps, hentry⟩ :=
    insert_of_mirrors hretained (hschema ▸ hprepared.timestamps) (hschema ▸ hindexed.wellFormed)
      hunmarked hcompiled (mirrors_renderMembers hprepared hwell hpopulated) hnew hfree hadmits
  refine ⟨stored, hinsert, hid, hraw, hnames, hget, fun stamp hstamp => ?_, hentry⟩
  have hdeclared : stamp ∈ Entries.names copy.schema.fields := by
    rw [hschema]
    rcases hstamp with rfl | rfl
    · exact hprepared.stamps_mem.1
    · exact hprepared.stamps_mem.2
  exact hstamps stamp hdeclared hstamp

end Store

/-! ### A crew that is imported -/

namespace Sample

/-- The crews as they are registered. -/
def crewEntity : Entity := ⟨"crews", crewDescription, ["people"]⟩

/-- The fields of crews, with their time stamps. -/
def crewFields : Fields :=
  [("people", { type := .array .objectId, required := true, reference := some "members" }),
    (createdAt, { type := .scalar .number, required := false }),
    (updatedAt, { type := .scalar .number, required := false })]

theorem wellFormed_crewDescription : Description.WellFormedShape crewDescription := by
  have hnotes : Annotations.WellFormed {} := ⟨trivial, trivial⟩
  refine ⟨?_, ⟨hnotes, trivial⟩, hnotes⟩
  simp [Entries.Distinct, Entries.names]

theorem proper_crewSteps : ∀ step ∈ crewSteps,
    (step.Proper ∧ step.Plain) ∧ step.InSession := by
  intro step hmem
  simp only [crewSteps, List.mem_cons, List.not_mem_nil, or_false] at hmem
  rcases hmem with rfl | rfl | rfl | rfl
  · exact ⟨⟨wellFormed_memberDescription, (by decide : '\x00' ∉ "members".toList)⟩, trivial⟩
  · exact ⟨⟨wellFormed_crewDescription, (by decide : '\x00' ∉ "crews".toList)⟩, trivial⟩
  · exact ⟨⟨wellFormed_member 1 "ann", trivial⟩, trivial⟩
  · exact ⟨⟨wellFormed_team, trivial⟩, trivial⟩

theorem fields_of_prepare {schema : Schema} (h : crewEntity.prepare = .ok schema) :
    schema.fields = crewFields := by
  obtain ⟨fields, hcompile, hfields⟩ := (Entity.prepared_of_prepare h).fields
  have hname : Text.isBlank "people" = false := by decide +kernel
  have hcompiled : compile crewDescription = .ok (crewFields.take 1) := by
    simp only [compile, crewDescription, Description.referencesTo, Compiler.compileShape,
      Compiler.compileProperties, hname]
    rfl
  rw [show crewEntity.description = crewDescription from rfl, hcompiled] at hcompile
  cases hcompile
  rw [hfields]
  rfl

/-- Whatever is registered as crews has the schema of their entity. -/
theorem prepare_crews {collection : Collection}
    (h : ((Store.fresh "db" generator).performAll crewSteps).collection? "crews" = some collection) :
    crewEntity.prepare = .ok collection.schema := by
  have henrolls : ((Store.fresh "db" generator).performAll crewSteps).Enrolls
      fun name collection => name = "crews" → crewEntity.prepare = .ok collection.schema := by
    refine (Store.enrolls_fresh "db" generator).performAll ?_
    intro step hmem name collection _ haccepts _ hname
    subst hname
    simp only [crewSteps, List.mem_cons, List.not_mem_nil, or_false] at hmem
    rcases hmem with rfl | rfl | rfl | rfl
    · exact absurd haccepts.1 (by decide)
    · exact haccepts.2
    · exact haccepts.elim
    · exact haccepts.elim
  exact henrolls "crews" collection h rfl

/-- Whether a document lists two people and has zero as its time stamps. -/
def isStamped : Document → Bool
  | ⟨_, [(_, .array [.objectId _, .objectId _]), (_, .number created), (_, .number updated)], []⟩ =>
      created = Number.ofInt 0 && updated = Number.ofInt 0
  | _ => false

/-- Whether JSON is an integer. -/
def isInteger : Json → Bool
  | .number (.integer _) => true
  | _ => false

theorem readable_of_isStamped {document : Document} (h : isStamped document = true) :
    document.Readable ∧ document.Finite := by
  obtain ⟨zero, hzero⟩ := Number.exists_ofInt_eq (show (0 : Int).natAbs ≤ 2 ^ 64 by decide)
  have hinteger : isInteger (Number.ofInt 0).toJson = true := by decide +kernel
  unfold isInteger at hinteger
  split at hinteger
  · rename_i value hjson
    unfold isStamped at h
    split at h
    · simp only [Bool.and_eq_true, decide_eq_true_eq] at h
      obtain ⟨rfl, rfl⟩ := h
      refine ⟨⟨?_, ?_⟩, ?_⟩
      · simp [Document.toJson, Document.toMembers, Value.membersToJson, Value.listToJson,
          Value.toJson, ObjectId.toJson, Json.depth, Json.depthList, Json.depthMembers,
          Json.nestingLimit, hjson]
      · simp [Document.toJson, Document.toMembers, Value.membersToJson, Value.listToJson,
          Value.toJson, ObjectId.toJson, Json.Legible, Json.LegibleList, Json.LegibleMembers, hjson]
      · exact ⟨⟨trivial, trivial, trivial⟩, ⟨zero, hzero⟩, ⟨zero, hzero⟩, trivial⟩
    · cases h
  · cases hinteger

theorem isStamped_of_written {document : Document}
    (h : ("crews", document) ∈ (Store.fresh "db" generator).writtenIn crewSteps) :
    isStamped document = true := by
  have hall : ((Store.fresh "db" generator).writtenIn crewSteps).all
      (fun written => written.1 != "crews" || isStamped written.2) = true := by
    decide +kernel
  simpa using List.all_eq_true.1 hall _ h

/-- A store without documents admits every time stamp of a crew. -/
theorem admitsStamp_fresh {crews : Collection} (hfields : crews.schema.fields = crewFields)
    (id : ObjectId) (now : Nat) {stamp : String} {field : Field}
    (hmem : (stamp, field) ∈ crews.schema.fields) :
    (Store.fresh "db" generator).AdmitsStamp crews id now stamp field := by
  have hoptions : field.options = [] := by
    rw [hfields] at hmem
    simp only [crewFields, List.mem_cons, List.not_mem_nil, or_false, Prod.mk.injEq] at hmem
    rcases hmem with ⟨-, rfl⟩ | ⟨-, rfl⟩ | ⟨-, rfl⟩ <;> rfl
  refine ⟨⟨fun least h => ?_, fun most h => ?_⟩, fun _ key _ owner h => by cases h⟩
  · rw [hoptions] at h
    cases h
  · rw [hoptions] at h
    cases h

end Sample

namespace Store

theorem imported_crew : ∃ store crews found stored,
    (fresh "db" Sample.generator).performAll Sample.crewSteps = store ∧
      store.find crews (Sample.ident 7) = .ok (some found) ∧
      Json.read (store.render .wire crews found).text = .ok (store.render .wire crews found) ∧
      ((fresh "db" Sample.generator).insertJson crews 5 (store.render .wire crews found)).1
        = .ok stored ∧
      stored.id = Sample.ident 7 ∧
      stored.get? "people" = some (.array ([Sample.ident 1, Sample.ident 9].map .objectId)) := by
  obtain ⟨crews, members, hcrews, hmembers, hwritten⟩ := Sample.exists_crews
  simp only [Sample.isWritten, Bool.and_eq_true] at hwritten
  obtain ⟨found, hfind, hcrew⟩ := Sample.exists_of_any_join hwritten.1.1.1.2
  have hentity := Sample.prepare_crews hcrews
  have hfields := Sample.fields_of_prepare hentity
  obtain ⟨hread, -, stored, hinsert, hid, -, -, hget, -⟩ := rendering_imported_again "db"
    Sample.generator (fun step hmem => (Sample.proper_crewSteps step hmem).1) rfl hcrews hentity
    (alwaysRegisters_of_inSession (fun step hmem => (Sample.proper_crewSteps step hmem).2) hcrews)
    (by rw [hfields]; exact ⟨trivial, trivial, trivial, trivial⟩)
    (fun document hmem => Sample.readable_of_isStamped (Sample.isStamped_of_written hmem)) hfind
    .wire rfl rfl rfl (by rfl) (fun key _ owner h => by cases h)
    (fun stamp field _ => Sample.admitsStamp_fresh hfields (Sample.ident 7) 5)
  refine ⟨_, crews, found, stored, rfl, hfind, hread, hinsert, hid, ?_⟩
  rw [hget "people" (by decide) (by decide)]
  exact Sample.people_of_isCrew hcrew

end Store

end TypedCollections
