import TypedCollections.Proofs.Store.Importing
import TypedCollections.Proofs.Store.RenderingRules
import TypedCollections.Proofs.Store.SchemaChanges
/-!
# References of loaded documents

A field that was a reference when its document was last written holds null, an identifier or
identifiers, whatever the collection is registered with later on. So a document that is loaded has
such a field rendered as null or as the text of identifiers, if the field may be expanded. The rules
of renderings and this fact are put together at the end.
-/

namespace TypedCollections

/-! ### Fields that are references -/

namespace Fields

/-- The fields refer to a collection under a name. -/
def Refers (fields : Fields) (name : String) : Prop :=
  ∃ field target, (name, field) ∈ fields ∧ field.reference = some target

/-- Whatever refers to a collection holds an identifier or identifiers. -/
def Referential (fields : Fields) : Prop :=
  ∀ name field target, (name, field) ∈ fields → field.reference = some target →
    field.type = .objectId ∨ field.type = .array .objectId

end Fields

theorem Compiler.referential_compileProperties {declared : Option NameSet}
    {properties : List (String × Description)} {fields : Fields}
    (h : compileProperties declared properties = .ok fields) : fields.Referential := by
  induction properties generalizing fields with
  | nil =>
      rw [compileProperties] at h
      cases h
      exact fun name field target hmem => by cases hmem
  | cons property rest ih =>
      obtain ⟨name, node⟩ := property
      obtain ⟨-, hrest⟩ | ⟨-, field, others, hfield, hrest, rfl⟩ := compileProperties_cons_eq_ok h
      · exact ih hrest
      · intro other found target hmem hreference
        rcases List.mem_cons.1 hmem with heq | hmem
        · cases heq
          by_cases hnode : IsReference node
          · cases node with
            | reference given collection many notes =>
                obtain ⟨options, -, rfl⟩ := referenceField_eq_ok hfield
                cases many with
                | false => exact .inl rfl
                | true => exact .inr rfl
            | _ => exact hnode.elim
          · obtain ⟨type, options, -, -, rfl⟩ := fieldOf_eq_ok hnode hfield
            cases hreference
        · exact ih hrest other found target hmem hreference

/-- Time stamps refer to nothing. -/
theorem Schema.referential_define {fields : Fields} (h : fields.Referential) (timestamps : Bool) :
    (define fields timestamps).fields.Referential := by
  have hadd : ∀ {fields : Fields} (name : String), fields.Referential →
      Fields.Referential (addStamp fields name) := by
    intro fields stamp h name field target hmem hreference
    unfold addStamp at hmem
    split at hmem
    · exact h name field target hmem hreference
    · rcases Entries.mem_write hmem with heq | hmem
      · cases heq
        cases hreference
      · exact h name field target hmem hreference
  cases timestamps with
  | true => exact hadd updatedAt (hadd createdAt h)
  | false => exact h

theorem Entity.Prepared.referential {entity : Entity} {schema : Schema}
    (h : entity.Prepared schema) : schema.fields.Referential := by
  obtain ⟨name, ⟨properties, required, additional, notes⟩, expandable⟩ := entity
  obtain ⟨fields, hcompile, hfields⟩ := h.fields
  have hfields' : Compiler.compileProperties required properties = .ok fields := hcompile
  rw [hfields]
  exact Schema.referential_define (Compiler.referential_compileProperties hfields') true

/-! ### Values that a reference holds -/

/-- Null, an identifier, or identifiers. -/
inductive Value.HoldsKeys : Value → Prop
  | null : HoldsKeys .null
  | one (id : ObjectId) : HoldsKeys (.objectId id)
  | many (ids : List ObjectId) : HoldsKeys (.array (ids.map .objectId))

/-- Nothing, null, the text of an identifier, or the texts of identifiers. -/
inductive Json.ShowsKeys : Option Json → Prop
  | absent : ShowsKeys none
  | null : ShowsKeys (some .null)
  | one (id : ObjectId) : ShowsKeys (some (.string id.hex))
  | many (ids : List ObjectId) : ShowsKeys (some (.array (ids.map fun id => .string id.hex)))

namespace Value

private theorem listToJson_objectIds (ids : List ObjectId) :
    listToJson (ids.map .objectId) = ids.map ObjectId.toJson := by
  rw [listToJson_eq_map, List.map_map]
  rfl

/-- Identifiers are written so that they are read back. -/
theorem HoldsKeys.read_back {value : Value} (h : value.HoldsKeys) :
    value.toJson.reread? = some value.toJson ∧ ofJson value.toJson.settle = value := by
  have hlegible : ∀ id : ObjectId, id.toJson.Legible := fun id => ⟨trivial, trivial⟩
  cases h with
  | null => exact ⟨rfl, rfl⟩
  | one id =>
      refine ⟨Json.reread?_eq_self (wellFormed_objectIdToJson id) (hlegible id), ?_⟩
      rw [toJson, Json.settle_eq_self (wellFormed_objectIdToJson id), ofJson_objectId]
  | many ids =>
      have hjson : toJson (.array (ids.map .objectId)) = .array (ids.map ObjectId.toJson) := by
        rw [toJson, listToJson_objectIds]
      have hwell : Json.WellFormed (.array (ids.map ObjectId.toJson)) := by
        apply Json.wellFormedList_iff.2
        simp [wellFormed_objectIdToJson]
      have hlegible : Json.Legible (.array (ids.map ObjectId.toJson)) := by
        apply Json.legibleList_iff.2
        simp [hlegible]
      rw [hjson]
      refine ⟨Json.reread?_eq_self hwell hlegible, ?_⟩
      rw [Json.settle_eq_self hwell, ofJson, listOfJson_eq_map, List.map_map]
      exact congrArg Value.array (List.map_congr_left fun id _ => ofJson_objectId id)

/-- A value that fits the type of a reference is an identifier, or identifiers. -/
theorem holdsKeys_of_fitsField {patterns : Patterns} {field : Field} {value : Value}
    (htype : field.type = .objectId ∨ field.type = .array .objectId)
    (h : Validation.FitsField patterns field value) : value.HoldsKeys := by
  obtain ⟨type, required, reference, options⟩ := field
  rcases htype with rfl | rfl
  · obtain ⟨id, rfl⟩ := h
    exact .one id
  · obtain ⟨items, rfl, hitems⟩ := h
    have hids : ∃ ids : List ObjectId, items = ids.map .objectId := by
      induction items with
      | nil => exact ⟨[], rfl⟩
      | cons item rest ih =>
          rw [List.forall_mem_cons] at hitems
          obtain ⟨id, rfl⟩ := hitems.1
          obtain ⟨ids, rfl⟩ := ih hitems.2
          exact ⟨id :: ids, rfl⟩
    obtain ⟨ids, rfl⟩ := hids
    exact .many ids

end Value

/-! ### What was written -/

/-- Collections are registered as entities only, and trees are well-formed. -/
def Step.OfEntities : Step → Prop
  | .request (.register ..) => False
  | .request asked => asked.Proper
  | .registerEntity _ entity => Description.WellFormedShape entity.description
  | .registerAll _ entities =>
      ∀ entity ∈ entities, Description.WellFormedShape entity.description

theorem Step.OfEntities.byEntities {step : Step} (h : step.OfEntities) : step.ByEntities := by
  cases step with
  | request asked =>
      cases asked with
      | register now name schema => exact h.elim
      | _ => trivial
  | _ => trivial

theorem Step.OfEntities.proper {asked : Request} (h : (Step.request asked).OfEntities) :
    asked.Proper := by
  cases asked with
  | register now name schema => exact h.elim
  | _ => exact h

/-- What a step writes, and into which collection. Only requests write. -/
def Step.writing? (store : Store) : Step → Option (String × Writing)
  | .request asked => store.writing? asked
  | _ => none

/-- The ledger after steps, one after the other. -/
def Store.ledgerAfter (store : Store) (before : Ledger) : List Step → Ledger
  | [] => before
  | step :: rest => (store.perform step).ledgerAfter (before.note (step.writing? store)) rest

/-- What was written holds identifiers, or null, in the fields that were references then. -/
structure Writing.KeepsKeys (writing : Writing) : Prop where
  id_not_mem : idField ∉ Entries.names writing.document.fields
  distinct : Entries.Distinct writing.document.fields
  holdsKeys : ∀ name value, writing.fields.Refers name → writing.document.get? name = some value →
    value.HoldsKeys

namespace Store

variable {store : Store} {ledger : Ledger} {name : String} {collection : Collection}

/-- A collection that is registered under its name, with references that hold identifiers. -/
structure Typed (name : String) (collection : Collection) : Prop where
  name_eq : collection.name = name
  wellFormed : collection.schema.fields.WellFormed
  referential : collection.schema.fields.Referential

/-- Every entry of a tree is what was last written there, with identifiers in its references. -/
structure Traced (store : Store) (ledger : Ledger) : Prop where
  typed : store.Enrolls Typed
  entries : ∀ name key octets, (store.tree name).find? key = some octets →
    ∃ writing, ledger name writing.document.id = some writing ∧ key = writing.document.id.octets ∧
      octets = writing.document.toOctets ∧ writing.KeepsKeys

theorem traced_fresh (database : String) (generator : ObjectId.Generator) (ledger : Ledger) :
    (fresh database generator).Traced ledger :=
  ⟨enrolls_fresh database generator, fun name key octets h => by cases h⟩

/-- Whatever steps of entities register has references that hold identifiers. -/
theorem typed_of_accepts {step : Step} (hstep : step.OfEntities) (hname : collection.name = name)
    (haccepts : step.Accepts name collection.schema) : Typed name collection := by
  have hentity : ∀ entity : Entity, Description.WellFormedShape entity.description →
      entity.prepare = .ok collection.schema → Typed name collection := by
    intro entity hdescription hprepare
    have hprepared := Entity.prepared_of_prepare hprepare
    exact ⟨hname, (hprepared.compiled hdescription).wellFormed, hprepared.referential⟩
  cases step with
  | request asked =>
      cases asked with
      | register now given schema => exact hstep.elim
      | _ => exact haccepts.elim
  | registerEntity now entity => exact hentity entity hstep haccepts.2
  | registerAll now entities =>
      obtain ⟨entity, hmem, -, hprepare⟩ := haccepts
      exact hentity entity (hstep entity hmem) hprepare

/-- What passed the check of a collection holds identifiers, or null, in its references. -/
theorem Typed.keepsKeys_of_check (htyped : Typed name collection) {id : ObjectId}
    {fields checked : List (String × Value)} (hdistinct : Entries.Distinct fields)
    (hcheck : collection.check fields = .ok checked) :
    Writing.KeepsKeys ⟨Document.ofFields id checked, collection.schema.fields⟩ := by
  have hvalidate := Collection.check_eq_ok_iff.1 hcheck
  have hchecked : Entries.Distinct checked := Validation.distinct_of_checkFields
    (Validation.distinct_keepDeclared collection.schema.fields hdistinct) hvalidate
  have hconforms := Validation.conforms_of_validate htyped.wellFormed hvalidate
  refine ⟨Document.id_not_mem_ofFields _ _, Document.distinct_ofFields _ _, ?_⟩
  rintro field value ⟨declared, target, hmem, hreference⟩ hvalue
  have hfind := Document.find?_of_get?_ofFields hchecked hvalue
  rcases Validation.null_or_fits_of_mem hconforms.fits hmem hfind with rfl | hfits
  · exact .null
  · exact Value.holdsKeys_of_fitsField (htyped.referential field declared target hmem hreference)
      hfits

/-! ### Runs -/

/-- Every entry of a tree stood there before. -/
def AddsNothing (store other : Store) : Prop :=
  ∀ name key octets, (other.tree name).find? key = some octets →
    (store.tree name).find? key = some octets

theorem addsNothing_of_documents_eq {other : Store} (h : other.documents = store.documents) :
    store.AddsNothing other := by
  intro name key octets hentry
  rwa [tree, h] at hentry

theorem addsNothing_of_written {step : Step} (h : step.written store = []) :
    store.AddsNothing (store.perform step) := by
  generalize hother : store.perform step = other
  have houtcome : Outcome store step other := hother ▸ outcome_of_perform store step
  cases houtcome with
  | registers hregisters => exact addsNothing_of_documents_eq hregisters.documents
  | reopens _ hreopens => exact addsNothing_of_documents_eq hreopens.documents
  | writes hwritten _ _ =>
      rw [h] at hwritten
      cases hwritten
  | deletes hdeletes => exact fun name key octets hentry => hdeletes.find? hentry

/-- A step notes nothing and adds no entry, or it is one write, which it notes. -/
theorem addsNothing_or_writesOnce (store : Store) {step : Step} (hstep : step.OfEntities) :
    step.writing? store = none ∧ store.AddsNothing (store.perform step) ∨
      ∃ name writing, step.writing? store = some (name, writing) ∧
        store.WritesOnce name writing (store.perform step) := by
  cases step with
  | registerEntity now entity => exact .inl ⟨rfl, addsNothing_of_written rfl⟩
  | registerAll now entities => exact .inl ⟨rfl, addsNothing_of_written rfl⟩
  | request asked =>
      cases hwrites : asked.writes? with
      | none =>
          refine .inl ⟨?_, addsNothing_of_written ?_⟩
          · show store.writing? asked = none
            rw [writing?, hwrites]
            rfl
          · show asked.written (store.serve asked).1 = []
            unfold Request.written
            split
            · rw [hwrites]
              rfl
            · rfl
      | some name =>
          refine (writesAtMostOnce store (by rw [hwrites]; rfl) hstep.proper).imp ?_ id
          exact fun h => ⟨h.1, addsNothing_of_documents_eq h.2.documents⟩

/-- What was written once stands under its identifier, and everything else as it did. -/
theorem Traced.entries_of_writesOnce (hstore : store.Traced ledger) {writing : Writing}
    {after : Store} (h : store.WritesOnce name writing after) {other : String}
    {key octets : List UInt8} (hentry : (after.tree other).find? key = some octets) :
    ∃ written, ledger.note (some (name, writing)) other written.document.id = some written ∧
      key = written.document.id.octets ∧ octets = written.document.toOctets ∧ written.KeepsKeys := by
  obtain ⟨document, fields⟩ := writing
  obtain ⟨collection, drawn, now, previous, given, events, hfind, rfl, hdrawn, hgiven, hwrite,
    rfl⟩ := h
  have htyped := hstore.typed name collection hfind
  obtain ⟨checked, unique, reported, hcheck, rfl, hafter, -⟩ := exists_put_of_write hwrite
  have htree : ((({ drawn.reportEach reported with unique } : Store).put collection
      (Document.ofFields given.id checked)).tree other).find? key = some octets := by
    rw [← hafter]
    exact hentry
  rw [find?_put, htyped.name_eq] at htree
  split at htree
  · rename_i hplace
    obtain ⟨rfl, rfl⟩ := hplace
    have hdistinct := Collection.distinct_stamp collection now previous
      (Document.wellFormed_storedFields hgiven).1
    exact ⟨_, Ledger.note_self .., rfl, (Option.some.inj htree).symm,
      htyped.keepsKeys_of_check hdistinct hcheck⟩
  · rename_i hplace
    have hold : (store.tree other).find? key = some octets := by
      rw [tree, ← hdrawn.documents]
      exact htree
    obtain ⟨written, hledger, rfl, hoctets, hkeeps⟩ := hstore.entries other key octets hold
    refine ⟨written, ?_, rfl, hoctets, hkeeps⟩
    rw [Ledger.note_of_other fun h => hplace ⟨h.1, by rw [h.2]⟩, hledger]

theorem Traced.perform (hstore : store.Traced ledger) {step : Step} (hstep : step.OfEntities) :
    (store.perform step).Traced (ledger.note (step.writing? store)) := by
  refine ⟨hstore.typed.perform fun _ _ hname haccepts _ => typed_of_accepts hstep hname haccepts, ?_⟩
  intro name key octets hentry
  obtain ⟨hnone, hadds⟩ | ⟨target, writing, hwriting, honce⟩ := addsNothing_or_writesOnce store hstep
  · rw [hnone]
    exact hstore.entries name key octets (hadds name key octets hentry)
  · rw [hwriting]
    exact hstore.entries_of_writesOnce honce hentry

theorem Traced.performAll (hstore : store.Traced ledger) {steps : List Step}
    (hsteps : ∀ step ∈ steps, step.OfEntities) :
    (store.performAll steps).Traced (store.ledgerAfter ledger steps) := by
  induction steps generalizing store ledger with
  | nil => exact hstore
  | cons step rest ih =>
      rw [List.forall_mem_cons] at hsteps
      exact ih (hstore.perform hsteps.1) hsteps.2

/-! ### What is loaded -/

/-- A document is loaded from a collection: it is found under its identifier, or it is one of all
documents. -/
inductive Loads (store : Store) (collection : Collection) (document : Document) : Prop
  | found {id : ObjectId} (h : store.find collection id = .ok (some document))
  | listed {documents : List Document} (h : store.findAll collection = .ok documents)
      (hmem : document ∈ documents)

/-- What is loaded is read from an entry of the tree. -/
theorem Loads.exists_octets {document : Document} (h : store.Loads collection document) :
    ∃ key octets, (store.tree collection.name).find? key = some octets ∧
      Document.ofOctets octets = .ok document := by
  cases h with
  | found h =>
      obtain ⟨octets, hentry, hread⟩ := ofOctets_of_find h
      exact ⟨_, octets, hentry, hread⟩
  | listed h hmem =>
      obtain ⟨octets, hoctets, hread⟩ := exists_of_mem_readEach h hmem
      obtain ⟨⟨key, value⟩, hentry, rfl⟩ := List.mem_map.1 hoctets
      exact ⟨key, value, SortedMap.find?_eq_some_iff.2 hentry, hread⟩

/-- What is loaded holds identifiers, or null, in the fields that were references when the document was
last written. -/
theorem Traced.of_loads (hstore : store.Traced ledger) (hname : collection.name = name)
    {loaded : Document} (h : store.Loads collection loaded) :
    ∃ writing, ledger name loaded.id = some writing ∧
      ∀ field value, writing.fields.Refers field → loaded.get? field = some value →
        value.HoldsKeys := by
  obtain ⟨key, octets, hentry, hread⟩ := h.exists_octets
  rw [hname] at hentry
  obtain ⟨writing, hledger, rfl, rfl, hkeeps⟩ := hstore.entries name key octets hentry
  refine ⟨writing, ?_, fun field value hrefers hvalue => ?_⟩
  · rw [Document.id_of_ofOctets_toOctets hkeeps.id_not_mem hkeeps.distinct hread, hledger]
  · rw [Document.get?_of_ofOctets_toOctets hkeeps.id_not_mem hkeeps.distinct hread] at hvalue
    obtain ⟨json, hjson, rfl⟩ := Option.map_eq_some_iff.1 hvalue
    obtain ⟨written, hwritten, hreread⟩ := Option.bind_eq_some_iff.1 hjson
    have hholds := hkeeps.holdsKeys field written hrefers hwritten
    obtain ⟨hread', hvalue'⟩ := hholds.read_back
    rw [hread'] at hreread
    cases hreread
    rwa [hvalue']

/-- An expandable field that holds identifiers, or null, and is not expanded is rendered as their
texts, or as null. -/
theorem showsKeys_member?_render {entity : Entity} (hprepared : entity.Prepared collection.schema)
    {document : Document} (hid : idField ∉ Entries.names document.fields) {field : String}
    (hfield : field ∈ collection.schema.expandable)
    (hpopulated : document.isPopulated field = false)
    (hholds : ∀ value, document.get? field = some value → value.HoldsKeys) (kind : Representation) :
    Json.ShowsKeys ((store.render kind collection document).member? field) := by
  cases hvalue : document.get? field with
  | none =>
      rw [member?_render hprepared hid, if_neg (hprepared.references field hfield).1.symm, hvalue]
      exact .absent
  | some value =>
      cases hholds value hvalue with
      | null =>
          rw [member?_render hprepared hid, if_neg (hprepared.references field hfield).1.symm, hvalue,
            Option.map_some, fieldJson_of_not_populated hpopulated, Document.referenceText?, hvalue]
          split <;> exact .null
      | one id =>
          rw [member?_render_reference hprepared hid hfield hpopulated hvalue rfl]
          exact .one id
      | many ids =>
          rw [member?_render_reference hprepared hid hfield hpopulated hvalue rfl, List.map_map]
          exact .many ids

/-- Where collections are registered as entities only, a document is rendered as the rules say for
every representation, with its identifier and then its fields in order, and its two texts are the
same. In a document that is loaded, an expandable field that was a reference when the document was last
written is not there, null, or the text of an identifier or of identifiers. -/
theorem renderings_of_entities (database : String) (generator : ObjectId.Generator)
    {steps : List Step} (hsteps : ∀ step ∈ steps, step.OfEntities) {store : Store}
    (hstore : (fresh database generator).performAll steps = store) {name : String}
    {collection : Collection} (hcollection : store.collection? name = some collection) :
    (∀ document : Document, document.toValue.WellFormed →
      (∀ kind json, store.RendersAs collection document.toValue json ↔
        json = store.render kind collection document) ∧
      (∀ kind, Entries.names (store.renderMembers kind collection document)
        = idField :: Entries.names document.fields) ∧
      (store.render .wire collection document).text
        = (store.render .plain collection document).text) ∧
    ∀ loaded, store.Loads collection loaded → ∃ writing,
      (fresh database generator).ledgerAfter .empty steps name loaded.id = some writing ∧
        ∀ kind field, field ∈ collection.schema.expandable → writing.fields.Refers field →
          Json.ShowsKeys ((store.render kind collection loaded).member? field) := by
  subst hstore
  have henrolled := enrolls_ofEntity database generator fun step hmem => (hsteps step hmem).byEntities
  have htraced := (traced_fresh database generator .empty).performAll hsteps
  obtain ⟨hname, entity, hprepared⟩ := henrolled name collection hcollection
  refine ⟨fun document hdocument => ?_, fun loaded hloads => ?_⟩
  · have hrules : ∀ kind json, Store.RendersAs _ collection document.toValue json ↔
        json = Store.render _ kind collection document :=
      fun kind json => rendersAs_iff henrolled ⟨hname, entity, hprepared⟩ hdocument
    refine ⟨hrules, fun kind => names_renderMembers hprepared document, ?_⟩
    exact congrArg Json.text ((hrules .plain _).1 ((hrules .wire _).2 rfl))
  · obtain ⟨writing, hledger, hholds⟩ := htraced.of_loads hname hloads
    obtain ⟨key, octets, -, hread⟩ := hloads.exists_octets
    refine ⟨writing, hledger, fun kind field hfield hrefers => ?_⟩
    apply showsKeys_member?_render hprepared (Document.id_not_mem_of_ofOctets hread) hfield
    · exact Document.isPopulated_of_ofOctets hread field
    · exact fun value => hholds field value hrefers

end Store

/-! ### A crew that is loaded -/

namespace Sample

theorem ofEntities_crewSteps : ∀ step ∈ crewSteps, step.OfEntities := by
  simp [crewSteps, Step.OfEntities, Request.Proper, wellFormed_memberDescription,
    wellFormed_crewDescription, wellFormed_member, wellFormed_team]

/-- The people of the crew referred to members when the crew was written. -/
theorem refers_people {writing : Writing}
    (h : (Store.fresh "db" generator).ledgerAfter .empty crewSteps "crews" (ident 7)
      = some writing) : writing.fields.Refers "people" := by
  have hany : ((Store.fresh "db" generator).ledgerAfter .empty crewSteps "crews" (ident 7)).any
      (fun writing => writing.fields.any fun field =>
        field.1 == "people" && field.2.reference == some "members") = true := by
    decide +kernel
  rw [h, Option.any_some] at hany
  obtain ⟨⟨name, field⟩, hmem, hfield⟩ := List.any_eq_true.1 hany
  rw [Bool.and_eq_true, beq_iff_eq, beq_iff_eq] at hfield
  obtain ⟨rfl, hreference⟩ := hfield
  exact ⟨field, "members", hmem, hreference⟩

end Sample

namespace Store

theorem renderings_of_crew : ∃ store crews found,
    (fresh "db" Sample.generator).performAll Sample.crewSteps = store ∧
      store.find crews (Sample.ident 7) = .ok (some found) ∧
      store.RendersAs crews Sample.team.toValue (store.render .plain crews Sample.team) ∧
      (store.render .wire crews Sample.team).text = (store.render .plain crews Sample.team).text ∧
      Json.ShowsKeys ((store.render .plain crews found).member? "people") := by
  obtain ⟨crews, members, hcrews, -, hwritten⟩ := Sample.exists_crews
  simp only [Sample.isWritten, Bool.and_eq_true, List.contains_eq_mem, decide_eq_true_eq] at hwritten
  obtain ⟨⟨⟨⟨⟨hexpandable, -⟩, hfound⟩, -⟩, -⟩, -⟩ := hwritten
  obtain ⟨found, hfind, -⟩ := Sample.exists_of_any_join hfound
  obtain ⟨hrules, hloaded⟩ := renderings_of_entities "db" Sample.generator
    Sample.ofEntities_crewSteps rfl hcrews
  have hteam : Sample.team.toValue.WellFormed :=
    ⟨Sample.wellFormed_team.id_not_mem, Sample.wellFormed_team.distinct,
      Value.wellFormedMembers_iff.2 Sample.wellFormed_team.values⟩
  obtain ⟨hrenders, -, htext⟩ := hrules Sample.team hteam
  obtain ⟨writing, hledger, hshows⟩ := hloaded found (.found hfind)
  have hid : found.id = Sample.ident 7 :=
    ((keyed_fresh "db" Sample.generator).performAll Sample.crewSteps).id_of_find hfind
  rw [hid] at hledger
  exact ⟨_, crews, found, rfl, hfind, (hrenders .plain _).2 rfl, htext,
    hshows .plain "people" hexpandable (Sample.refers_people hledger)⟩

end Store

/-! ### A text that became a reference -/

namespace Sample

/-- Users are named by a company. -/
def employeeDescription : ObjectDescription :=
  { properties := [("name", .referenceTo none "companies")] }

def employeeFields : Fields :=
  [("name", { type := .objectId, required := true, reference := some "companies" })]

def employeeSchema : Schema :=
  ⟨(Schema.define employeeFields true).fields, true, ["name"],
    some (identifierTransform (NameSet.ofNames ["name"])),
    some (identifierTransform (NameSet.ofNames ["name"]))⟩

def acme : Document := ⟨ident 1, [("name", .string "acme")], []⟩

/-- A user is named by a text. -/
def namingSteps : List Step :=
  [.registerEntity 0 ⟨"users", userShape.toEntity 0, []⟩, .request (.insert "users" 0 acme)]

/-- In the next session users are named by companies. -/
def renamingSteps : List Step :=
  namingSteps ++
    [.request .reopen, .registerEntity 0 ⟨"users", employeeDescription, ["name"]⟩]

private theorem compile_employeeDescription :
    compile employeeDescription = .ok employeeFields := by
  have hname : Text.isBlank "name" = false := by decide +kernel
  simp only [compile, employeeDescription, Compiler.compileShape, Compiler.compileProperties, hname]
  rfl

/-- Whether a document is named by the text. -/
def isAcme (document : Document) : Bool :=
  match document.get? "name" with
  | some (.string text) => text == "acme"
  | _ => false

theorem name_of_isAcme {document : Document} (h : isAcme document = true) :
    document.get? "name" = some (.string "acme") := by
  unfold isAcme at h
  split at h
  · rename_i text hname
    rw [hname, eq_of_beq h]
  · cases h

private theorem any_isAcme : (((Store.fresh "db" generator).performAll namingSteps).find
    ⟨"users", "db", userSchema 0, []⟩ (ident 1)).toOption.join.any isAcme = true := by
  decide +kernel

end Sample

namespace Store

private theorem catalog_serve_insert (store : Store) (name : String) (now : Nat)
    (document : Document) : (store.serve (.insert name now document)).2.catalog = store.catalog := by
  cases hfind : store.collection? name with
  | none =>
      rw [serve, Store.on, hfind]
  | some collection => rw [serve_insert hfind, catalog_insert]

/-- The store in which users are named by companies has the user who was named by a text. -/
theorem exists_employee : ∃ users found,
    ((fresh "db" Sample.generator).performAll Sample.renamingSteps).collection? "users" = some users ∧
      users.schema = Sample.employeeSchema ∧
      ((fresh "db" Sample.generator).performAll Sample.renamingSteps).find users (Sample.ident 1)
        = .ok (some found) ∧
      found.get? "name" = some (.string "acme") := by
  obtain ⟨registered, hregister, hcatalog⟩ := Sample.register_users 0
  have hbefore : ((fresh "db" Sample.generator).performAll Sample.namingSteps)
      = (registered.serve (.insert "users" 0 Sample.acme)).2 := by
    have hregistered : ((fresh "db" Sample.generator).registerEntity 0
        ⟨"users", Sample.userShape.toEntity 0, []⟩).2 = registered := congrArg Prod.snd hregister
    rw [Sample.namingSteps, performAll, performAll, performAll, perform, perform, hregistered]
  rw [← catalog_serve_insert registered "users" 0 Sample.acme, ← hbefore] at hcatalog
  obtain ⟨opened, hreopen⟩ := Sample.exists_reopen_users hcatalog
  obtain ⟨hdocuments, -, hnone⟩ := reopen_spec hreopen
  have hafter : (fresh "db" Sample.generator).performAll Sample.renamingSteps
      = (opened.registerEntity 0 ⟨"users", Sample.employeeDescription, ["name"]⟩).2 := by
    rw [Sample.renamingSteps, performAll_append, performAll, performAll, performAll, perform, perform,
      serve_reopen hreopen]
  have hschema : Entity.schemaOf ⟨"users", Sample.employeeDescription, ["name"]⟩
      Sample.employeeFields = .ok Sample.employeeSchema := Entity.schemaOf_eq_ok_iff.2 ⟨rfl, rfl⟩
  rw [hafter, registerEntity_eq 0 Sample.compile_employeeDescription hschema (by decide) rfl
    (hasCollection_eq_false_iff.2 (hnone "users"))]
  obtain ⟨found, hfind, hacme⟩ := Sample.exists_of_any_join Sample.any_isAcme
  refine ⟨_, found, collection?_addCollection _ 0 ⟨"users", opened.database, _, _⟩, rfl, ?_,
    Sample.name_of_isAcme hacme⟩
  rw [← hfind, find, find, tree, tree, ← hdocuments]
  rfl

/-- A field that may be expanded is rendered as a text that is none of an identifier, since it was no
reference when its document was written. -/
theorem text_of_former_field :
    (∀ step ∈ Sample.renamingSteps, step.ByEntities) ∧ ∃ users found,
      ((fresh "db" Sample.generator).performAll Sample.renamingSteps).collection? "users"
        = some users ∧
      "name" ∈ users.schema.expandable ∧
      ((fresh "db" Sample.generator).performAll Sample.renamingSteps).find users (Sample.ident 1)
        = .ok (some found) ∧
      (((fresh "db" Sample.generator).performAll Sample.renamingSteps).render .plain users
        found).member? "name" = some (.string "acme") ∧
      ¬ Json.ShowsKeys (some (.string "acme")) := by
  have hsteps : ∀ step ∈ Sample.renamingSteps, step.ByEntities := by
    simp [Sample.renamingSteps, Sample.namingSteps, Step.ByEntities]
  obtain ⟨users, found, husers, hschema, hfind, hname⟩ := exists_employee
  obtain ⟨-, entity, hprepared⟩ := enrolls_ofEntity "db" Sample.generator hsteps "users" users husers
  refine ⟨hsteps, users, found, husers, ?_, hfind, ?_, ?_⟩
  · rw [hschema]
    exact List.mem_singleton_self _
  · rw [member?_render hprepared (id_not_mem_of_find hfind), if_neg (by decide), hname,
      Option.map_some, fieldJson_of_not_populated (isPopulated_of_find hfind "name"),
      Document.referenceText?, hname]
    split <;> rfl
  · intro h
    generalize hshown : some (Json.string "acme") = shown at h
    cases h with
    | one id =>
        have hhex : ObjectId.ofHex? "acme" = some id := by
          rw [Json.string.inj (Option.some.inj hshown), ObjectId.ofHex?_hex]
        have hnone : ObjectId.ofHex? "acme" = none := by decide +kernel
        rw [hnone] at hhex
        cases hhex
    | absent | null | many => cases hshown

end Store

end TypedCollections
