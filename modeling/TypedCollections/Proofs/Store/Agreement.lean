import TypedCollections.Proofs.Store.Conforming
import TypedCollections.Proofs.Store.Loading
import TypedCollections.Proofs.Store.Rendering
/-!
# Renderings agree on identifiers

A document of an entity is rendered with and without expanded references. Both renderings have the
same identifier and the same fields that are not expanded. A reference is rendered as the text of its
identifier, or as the document it refers to, whose identifier is that text.
-/

namespace TypedCollections

/-- Collections are registered as entities only. -/
def Step.ByEntities : Step → Prop
  | .request (.register ..) => False
  | _ => True

/-- The collection was registered as an entity. -/
def Collection.OfEntity (name : String) (collection : Collection) : Prop :=
  collection.name = name ∧ ∃ entity : Entity, entity.Prepared collection.schema

namespace Store

variable {store : Store} {target : Collection}

/-- Where collections are registered as entities only, every collection is one. -/
theorem enrolls_ofEntity (database : String) (generator : ObjectId.Generator) {steps : List Step}
    (hsteps : ∀ step ∈ steps, step.ByEntities) :
    ((fresh database generator).performAll steps).Enrolls Collection.OfEntity := by
  refine (enrolls_fresh database generator).performAll fun step hmem name collection hname haccepts _ =>
    ⟨hname, ?_⟩
  have hstep := hsteps step hmem
  cases step with
  | request request =>
      cases request with
      | register now given schema => exact hstep.elim
      | _ => exact haccepts.elim
  | registerEntity now entity => exact ⟨entity, Entity.prepared_of_prepare haccepts.2⟩
  | registerAll now entities =>
      obtain ⟨entity, -, -, hprepare⟩ := haccepts
      exact ⟨entity, Entity.prepared_of_prepare hprepare⟩

/-! ### Loaded references -/

/-- A document that was found is rendered as an object with the text of its identifier. -/
theorem idField_renderValue (hstore : store.Keyed) {name : String} (htarget : target.OfEntity name)
    {id : ObjectId} {found : Document} (h : store.find target id = .ok (some found))
    (kind : Representation) :
    ∃ members, store.renderValue kind target found.toValue = .object members ∧
      Entries.find? members idField = some (.string id.hex) := by
  obtain ⟨-, entity, hprepared⟩ := htarget
  refine ⟨_, rfl, (find?_renderMembers hprepared (id_not_mem_of_find h) idField).trans ?_⟩
  rw [if_pos rfl, ← hstore.id_of_find h]

/-- The documents loaded in the place of identifiers are those that the target holds, in order. -/
theorem idFields_renderItems (hstore : store.Keyed) {name : String}
    (htarget : target.OfEntity name) {ids : List ObjectId} {loaded : List Value}
    (h : store.loadItems target (ids.map .objectId) = .ok loaded) (kind : Representation) :
    (store.renderItems kind target loaded).map (·.member? idField)
      = (ids.filter fun id => (store.tree target.name).has id.octets).map
          fun id => some (.string id.hex) := by
  induction ids generalizing loaded with
  | nil =>
      cases h
      rfl
  | cons id rest ih =>
      rw [List.map_cons, loadItems] at h
      split at h
      · cases h
      · rename_i found hfind
        obtain ⟨others, hothers, rfl⟩ := map_eq_ok_iff.1 h
        obtain ⟨members, hrender, hid⟩ := idField_renderValue hstore htarget hfind kind
        rw [List.filter_cons_of_pos (by rw [has_of_find hfind]; rfl), renderItems, List.map_cons,
          List.map_cons, ih hothers, hrender]
        exact congrArg (· :: _) hid
      · rename_i hfind
        rw [List.filter_cons_of_neg (by rw [has_of_find hfind]; exact Bool.false_ne_true)]
        exact ih h

/-! ### Both renderings -/

theorem member?_render {collection : Collection} {entity : Entity}
    (hprepared : entity.Prepared collection.schema) {document : Document}
    (hid : idField ∉ Entries.names document.fields) (kind : Representation) (name : String) :
    (store.render kind collection document).member? name
      = if idField = name then some (.string document.id.hex)
        else (document.get? name).map (store.fieldJson kind collection document name) :=
  find?_renderMembers hprepared hid name

/-- An expandable reference that is not expanded is rendered as text. -/
theorem member?_render_reference {collection : Collection} {entity : Entity}
    (hprepared : entity.Prepared collection.schema) {document : Document}
    (hid : idField ∉ Entries.names document.fields) {field : String}
    (hfield : field ∈ collection.schema.expandable) (hpopulated : document.isPopulated field = false)
    {value : Value} (hvalue : document.get? field = some value) {text : Json}
    (htext : referenceText? (some value) = some text) (kind : Representation) :
    (store.render kind collection document).member? field = some text := by
  have hreference : document.referenceText? collection.schema.expandable field = some text := by
    rw [Document.referenceText?, if_pos ⟨hfield, hpopulated⟩, hvalue, htext]
  rw [member?_render hprepared hid, if_neg (hprepared.references field hfield).1.symm, hvalue,
    Option.map_some, fieldJson_of_not_populated hpopulated, hreference, Option.getD_some]

/-- An expanded reference is rendered by its target. -/
theorem member?_render_expanded {collection : Collection} {entity : Entity}
    (hprepared : entity.Prepared collection.schema) {document : Document}
    (hid : idField ∉ Entries.names document.fields) {field targetName : String}
    (hfield : field ∈ collection.schema.expandable) (hpopulated : document.isPopulated field = true)
    (hreference : collection.reference? field = some targetName)
    (htarget : store.collection? targetName = some target) {loaded : Value}
    (hloaded : document.get? field = some loaded) (kind : Representation) :
    (store.render kind collection document).member? field
      = some (store.renderValue kind target loaded) := by
  rw [member?_render hprepared hid, if_neg (hprepared.references field hfield).1.symm, hloaded,
    Option.map_some, fieldJson_of_populated hpopulated hreference htarget]

/-- Fields that are not expanded in two documents of one identifier are rendered alike. -/
theorem member?_render_congr {collection : Collection} {entity : Entity}
    (hprepared : entity.Prepared collection.schema) {document other : Document}
    (hid : idField ∉ Entries.names document.fields) (hid' : idField ∉ Entries.names other.fields)
    (hsame : other.id = document.id) {name : String} (hpopulated : document.isPopulated name = false)
    (hpopulated' : other.isPopulated name = false) (hget : other.get? name = document.get? name)
    (kind : Representation) :
    (store.render kind collection other).member? name
      = (store.render kind collection document).member? name := by
  have hreference : other.referenceText? collection.schema.expandable name
      = document.referenceText? collection.schema.expandable name := by
    rw [Document.referenceText?, Document.referenceText?, hpopulated, hpopulated', hget]
  rw [member?_render hprepared hid, member?_render hprepared hid', hsame, hget]
  split
  · rfl
  · cases document.get? name with
    | none => rfl
    | some value =>
        rw [Option.map_some, Option.map_some, fieldJson_of_not_populated hpopulated,
          fieldJson_of_not_populated hpopulated', hreference]

/-- The renderings of a document of an entity, with fields expanded and without, agree on identifiers.
Both have the same identifier as text. An expandable field that holds an identifier is rendered as its
text, and expanded as an object with this identifier if the target holds it, as null otherwise. One
that holds identifiers is rendered as their texts, and expanded as objects with those of the
identifiers that the target holds, in order. Fields that are not expanded are rendered alike. -/
theorem renderings_agree (database : String) (generator : ObjectId.Generator) {steps : List Step}
    (hsteps : ∀ step ∈ steps, step.ByEntities) {store : Store}
    (hstore : (fresh database generator).performAll steps = store) {name : String}
    {collection : Collection} (hcollection : store.collection? name = some collection)
    {field : String} (hfield : field ∈ collection.schema.expandable) {targetName : String}
    (hreference : collection.reference? field = some targetName) {target : Collection}
    (htarget : store.collection? targetName = some target) {id : ObjectId} {names : List String}
    (hmem : field ∈ names) {found expanded : Document}
    (hfind : store.find collection id = .ok (some found))
    (hexpanded : store.findExpanded collection id names = .ok (some expanded))
    (kind : Representation) {plain rich : Json}
    (hplain : store.render kind collection found = plain)
    (hrich : store.render kind collection expanded = rich) :
    plain.member? idField = some (.string id.hex) ∧ rich.member? idField = some (.string id.hex) ∧
    (∀ key, found.get? field = some (.objectId key) →
      plain.member? field = some (.string key.hex) ∧
      ((store.tree target.name).has key.octets = true →
        ∃ members, rich.member? field = some (.object members) ∧
          Entries.find? members idField = some (.string key.hex)) ∧
      ((store.tree target.name).has key.octets = false → rich.member? field = some .null)) ∧
    (∀ keys : List ObjectId, found.get? field = some (.array (keys.map .objectId)) →
      plain.member? field = some (.array (keys.map fun key => .string key.hex)) ∧
      ∃ items, rich.member? field = some (.array items) ∧
        items.map (·.member? idField)
          = (keys.filter fun key => (store.tree target.name).has key.octets).map
              fun key => some (.string key.hex)) ∧
    (∀ other, expanded.isPopulated other = false → rich.member? other = plain.member? other) ∧
    ∀ other, other ∉ names → expanded.isPopulated other = false := by
  subst hstore hplain hrich
  have henrolled := enrolls_ofEntity database generator hsteps
  have hkeyed := (keyed_fresh database generator).performAll steps
  obtain ⟨-, entity, hprepared⟩ := henrolled name collection hcollection
  have hentity := henrolled targetName target htarget
  have hid := id_not_mem_of_find hfind
  have hnone := isPopulated_of_find hfind
  have hexpands := expands_of_findExpanded hfind hexpanded
  have hid' : idField ∉ Entries.names expanded.fields := by
    rw [hexpands.names_eq]
    exact hid
  -- What the field holds after it was expanded.
  obtain ⟨targetName', target', loaded?, hreference', htarget', hloaded, hpopulated, hvalue⟩ :=
    hexpands.field field hmem (hnone field)
  rw [hreference] at hreference'
  cases hreference'
  rw [htarget] at htarget'
  cases htarget'
  refine ⟨?_, ?_, fun key hkey => ⟨?_, ?_⟩, fun keys hkeys => ⟨?_, ?_⟩, fun other hother => ?_,
    fun other hother => ?_⟩
  · rw [member?_render hprepared hid, if_pos rfl, hkeyed.id_of_find hfind]
  · rw [member?_render hprepared hid', if_pos rfl, hexpands.id, hkeyed.id_of_find hfind]
  · exact member?_render_reference hprepared hid hfield (hnone field) hkey rfl kind
  · rw [hkey, loadReference] at hloaded
    obtain ⟨held, hheld, rfl⟩ := map_eq_ok_iff.1 hloaded
    have hrich := member?_render_expanded hprepared hid' hfield hpopulated hreference htarget hvalue
      kind
    rw [has_of_find hheld]
    cases held with
    | none => exact ⟨fun h => (by cases h), fun _ => hrich⟩
    | some document =>
        obtain ⟨members, hrender, hmember⟩ := idField_renderValue hkeyed hentity hheld kind
        exact ⟨fun _ => ⟨members, hrich.trans (congrArg some hrender), hmember⟩, fun h => (by cases h)⟩
  · rw [member?_render_reference hprepared hid hfield (hnone field) hkeys rfl, List.map_map]
    rfl
  · rw [hkeys, loadReference] at hloaded
    obtain ⟨loaded, hitems, rfl⟩ := map_eq_ok_iff.1 hloaded
    have hrich := member?_render_expanded hprepared hid' hfield hpopulated hreference htarget hvalue
      kind
    exact ⟨_, hrich, idFields_renderItems hkeyed hentity hitems kind⟩
  · have hget : expanded.get? other = found.get? other := by
      by_cases hexpand : other ∈ names
      · obtain ⟨-, -, loaded?, -, -, -, hsome, hget⟩ := hexpands.field other hexpand (hnone other)
        cases loaded? with
        | none => exact hget
        | some loaded =>
            rw [hother] at hsome
            cases hsome
      · exact (hexpands.other other (.inl hexpand)).2
    exact member?_render_congr hprepared hid hid' hexpands.id (hnone other) hother hget kind
  · rw [(hexpands.other other (.inl hother)).1, hnone]

end Store

/-! ### A crew with a member who is gone -/

namespace Sample

/-- Crews list the members who belong to them. -/
def crewDescription : ObjectDescription :=
  { properties := [("people", .referencesTo none "members")] }

/-- Members and crews are registered as entities, and a crew of a member and of one who never was
there is written. -/
def crewSteps : List Step :=
  [.registerEntity 0 ⟨"members", memberDescription, []⟩,
    .registerEntity 0 ⟨"crews", crewDescription, ["people"]⟩,
    .request (.insert "members" 0 (member 1 "ann")), .request (.insert "crews" 0 team)]

/-- Whether a document lists the two people. -/
def isCrew (document : Document) : Bool :=
  match document.get? "people" with
  | some (.array [.objectId first, .objectId second]) => first = ident 1 && second = ident 9
  | _ => false

theorem people_of_isCrew {document : Document} (h : isCrew document = true) :
    document.get? "people" = some (.array ([ident 1, ident 9].map .objectId)) := by
  unfold isCrew at h
  split at h
  · rename_i first second hpeople
    simp only [Bool.and_eq_true, decide_eq_true_eq] at h
    rw [hpeople, h.1, h.2]
    rfl
  · cases h

/-- What the crew is, as it stands in the store after the steps. -/
def isWritten (store : Store) (crews members : Collection) : Bool :=
  crews.schema.expandable.contains "people" && crews.reference? "people" == some "members" &&
    (store.find crews (ident 7)).toOption.join.any isCrew &&
    (store.findExpanded crews (ident 7) ["people"]).toOption.join.any (fun _ => true) &&
    (store.tree members.name).has (ident 1).octets && !(store.tree members.name).has (ident 9).octets

theorem exists_crews : ∃ crews members,
    ((Store.fresh "db" generator).performAll crewSteps).collection? "crews" = some crews ∧
      ((Store.fresh "db" generator).performAll crewSteps).collection? "members" = some members ∧
      isWritten ((Store.fresh "db" generator).performAll crewSteps) crews members = true := by
  have hany : (((Store.fresh "db" generator).performAll crewSteps).collection? "crews").any
      (fun crews => (((Store.fresh "db" generator).performAll crewSteps).collection? "members").any
        (isWritten ((Store.fresh "db" generator).performAll crewSteps) crews)) = true := by
    decide +kernel
  obtain ⟨crews, hcrews, hany⟩ := (Option.any_eq_true _ _).1 hany
  obtain ⟨members, hmembers, hwritten⟩ := (Option.any_eq_true _ _).1 hany
  exact ⟨crews, members, hcrews, hmembers, hwritten⟩

end Sample

namespace Store

theorem renderings_of_crew_agree : ∃ store crews found expanded,
    (fresh "db" Sample.generator).performAll Sample.crewSteps = store ∧
      store.find crews (Sample.ident 7) = .ok (some found) ∧
      store.findExpanded crews (Sample.ident 7) ["people"] = .ok (some expanded) ∧
      (store.render .plain crews found).member? "people"
        = some (.array [.string (Sample.ident 1).hex, .string (Sample.ident 9).hex]) ∧
      ∃ items, (store.render .plain crews expanded).member? "people" = some (.array items) ∧
        items.map (·.member? idField) = [some (.string (Sample.ident 1).hex)] := by
  obtain ⟨crews, members, hcrews, hmembers, hwritten⟩ := Sample.exists_crews
  simp only [Sample.isWritten, Bool.and_eq_true, Bool.not_eq_true', beq_iff_eq,
    List.contains_eq_mem, decide_eq_true_eq] at hwritten
  obtain ⟨⟨⟨⟨⟨hexpandable, hreference⟩, hfound⟩, hexpanded⟩, hheld⟩, hgone⟩ := hwritten
  obtain ⟨found, hfind, hcrew⟩ := Sample.exists_of_any_join hfound
  obtain ⟨expanded, hexpand, -⟩ := Sample.exists_of_any_join hexpanded
  obtain ⟨-, -, -, hkeys, -⟩ := renderings_agree "db" Sample.generator
    (by simp [Sample.crewSteps, Step.ByEntities]) rfl hcrews hexpandable hreference hmembers
    (List.mem_singleton_self _) hfind hexpand .plain rfl rfl
  obtain ⟨hplain, items, hitems, hids⟩ := hkeys _ (Sample.people_of_isCrew hcrew)
  refine ⟨_, crews, found, expanded, rfl, hfind, hexpand, hplain, items, hitems, ?_⟩
  rw [hids]
  simp [hheld, hgone]

end Store

end TypedCollections
