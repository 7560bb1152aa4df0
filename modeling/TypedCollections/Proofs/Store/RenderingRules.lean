import TypedCollections.Proofs.Store.Agreement
/-!
# The rules of renderings

What a document of an entity is rendered as, said rule by rule and without the order in which a
rendering is put together. The rules leave no choice, and where every collection is registered as an
entity the rendering of a document is what they give, for every representation.
-/

namespace TypedCollections

namespace Store

mutual

/-- A collection renders a value as JSON. A document has its identifier as text in front of its fields,
which keep their order. -/
inductive RendersAs (store : Store) : Collection → Value → Json → Prop where
  | document {collection : Collection} {id : ObjectId} {fields populated : List (String × Value)}
      {members : List (String × Json)}
      (h : FieldsRenderAs store collection ⟨id, fields, populated⟩ fields members) :
      RendersAs store collection (.document id fields populated)
        (.object ((idField, .string id.hex) :: members))
  | array {collection : Collection} {items : List Value} {rendered : List Json}
      (h : ItemsRenderAs store collection items rendered) :
      RendersAs store collection (.array items) (.array rendered)
  | native {collection : Collection} {value : Value} (hdocument : value.kind ≠ .document)
      (harray : value.kind ≠ .array) : RendersAs store collection value value.toJson

/-- Every item is rendered. -/
inductive ItemsRenderAs (store : Store) : Collection → List Value → List Json → Prop where
  | nil {collection : Collection} : ItemsRenderAs store collection [] []
  | cons {collection : Collection} {item : Value} {json : Json} {rest : List Value}
      {rendered : List Json} (hitem : RendersAs store collection item json)
      (hrest : ItemsRenderAs store collection rest rendered) :
      ItemsRenderAs store collection (item :: rest) (json :: rendered)

/-- Every field of a document is rendered under its name. -/
inductive FieldsRenderAs (store : Store) :
    Collection → Document → List (String × Value) → List (String × Json) → Prop where
  | nil {collection : Collection} {document : Document} :
      FieldsRenderAs store collection document [] []
  | cons {collection : Collection} {document : Document} {name : String} {value : Value}
      {json : Json} {rest : List (String × Value)} {members : List (String × Json)}
      (hfield : FieldRendersAs store collection document name value json)
      (hrest : FieldsRenderAs store collection document rest members) :
      FieldsRenderAs store collection document ((name, value) :: rest) ((name, json) :: members)

/-- A field of a document is rendered: an expanded one by the collection it refers to, and one that may
be expanded and is not with its identifiers as text. -/
inductive FieldRendersAs (store : Store) :
    Collection → Document → String → Value → Json → Prop where
  | native {collection : Collection} {document : Document} {name : String} {value : Value}
      (hexpandable : name ∉ collection.schema.expandable)
      (hpopulated : document.isPopulated name = false) :
      FieldRendersAs store collection document name value value.toJson
  | reference {collection : Collection} {document : Document} {name : String} {value : Value}
      (hexpandable : name ∈ collection.schema.expandable)
      (hpopulated : document.isPopulated name = false) :
      FieldRendersAs store collection document name value
        ((referenceText? (some value)).getD value.toJson)
  | expanded {collection target : Collection} {document : Document} {name targetName : String}
      {value : Value} {json : Json} (hpopulated : document.isPopulated name = true)
      (hreference : collection.reference? name = some targetName)
      (htarget : store.collection? targetName = some target)
      (hvalue : RendersAs store target value json) :
      FieldRendersAs store collection document name value json
  | unregistered {collection : Collection} {document : Document} {name : String} {value : Value}
      (hpopulated : document.isPopulated name = true)
      (htarget : (collection.reference? name).bind store.collection? = none) :
      FieldRendersAs store collection document name value value.toJson

end

variable {store : Store} {kind : Representation} {collection : Collection} {document : Document}

/-! ### The rules leave no choice -/

/-- One rule applies to a field, so it is rendered in one way if its target renders it in one way. -/
private theorem FieldRendersAs.unique_of {name : String} {value : Value} {json other : Json}
    (hvalue : ∀ {target : Collection} {json other : Json}, store.RendersAs target value json →
      store.RendersAs target value other → json = other)
    (h : store.FieldRendersAs collection document name value json)
    (h' : store.FieldRendersAs collection document name value other) : json = other := by
  cases h with
  | native hexpandable hpopulated =>
      cases h' with
      | native => rfl
      | reference hexpandable' => exact absurd hexpandable' hexpandable
      | expanded hpopulated' | unregistered hpopulated' => simp [hpopulated] at hpopulated'
  | reference hexpandable hpopulated =>
      cases h' with
      | native hexpandable' => exact absurd hexpandable hexpandable'
      | reference => rfl
      | expanded hpopulated' | unregistered hpopulated' => simp [hpopulated] at hpopulated'
  | expanded hpopulated hreference htarget hrenders =>
      cases h' with
      | native _ hpopulated' | reference _ hpopulated' => simp [hpopulated] at hpopulated'
      | expanded _ hreference' htarget' hrenders' =>
          rw [hreference] at hreference'
          cases hreference'
          rw [htarget] at htarget'
          cases htarget'
          exact hvalue hrenders hrenders'
      | unregistered _ htarget' => simp [hreference, htarget] at htarget'
  | unregistered hpopulated htarget =>
      cases h' with
      | native _ hpopulated' | reference _ hpopulated' => simp [hpopulated] at hpopulated'
      | expanded _ hreference' htarget' => simp [hreference', htarget'] at htarget
      | unregistered => rfl

mutual

theorem RendersAs.unique : ∀ {value : Value} {collection : Collection} {json other : Json},
    store.RendersAs collection value json → store.RendersAs collection value other → json = other
  | .document .., _, _, _, .document h, .document h' => by rw [h.unique h']
  | .array _, _, _, _, .array h, .array h' => by rw [h.unique h']
  | .document .., _, _, _, .native hdocument _, _ => absurd rfl hdocument
  | .document .., _, _, _, _, .native hdocument _ => absurd rfl hdocument
  | .array _, _, _, _, .native _ harray, _ => absurd rfl harray
  | .array _, _, _, _, _, .native _ harray => absurd rfl harray
  | .null, _, _, _, .native .., .native .. => rfl
  | .bool _, _, _, _, .native .., .native .. => rfl
  | .number _, _, _, _, .native .., .native .. => rfl
  | .string _, _, _, _, .native .., .native .. => rfl
  | .objectId _, _, _, _, .native .., .native .. => rfl
  | .object _, _, _, _, .native .., .native .. => rfl

theorem ItemsRenderAs.unique : ∀ {items : List Value} {collection : Collection}
    {rendered others : List Json}, store.ItemsRenderAs collection items rendered →
      store.ItemsRenderAs collection items others → rendered = others
  | [], _, _, _, .nil, .nil => rfl
  | _ :: _, _, _, _, .cons hitem hrest, .cons hitem' hrest' => by
      rw [hitem.unique hitem', hrest.unique hrest']

theorem FieldsRenderAs.unique : ∀ {fields : List (String × Value)} {collection : Collection}
    {document : Document} {members others : List (String × Json)},
    store.FieldsRenderAs collection document fields members →
      store.FieldsRenderAs collection document fields others → members = others
  | [], _, _, _, _, .nil, .nil => rfl
  | (_, _) :: _, _, _, _, _, .cons hfield hrest, .cons hfield' hrest' => by
      rw [hfield.unique_of RendersAs.unique hfield', hrest.unique hrest']

end

/-! ### Renderings follow the rules -/

/-- The members of a rendered document are its identifier as text and its fields, each as the
collection renders it. -/
theorem renderMembers_eq_cons {entity : Entity} (hprepared : entity.Prepared collection.schema)
    (hid : idField ∉ Entries.names document.fields) (hdistinct : Entries.Distinct document.fields) :
    store.renderMembers kind collection document
      = (idField, .string document.id.hex) :: document.fields.map fun field =>
          (field.1, store.fieldJson kind collection document field.1 field.2) := by
  have hnames : Entries.names (store.renderMembers kind collection document)
      = idField :: Entries.names document.fields := names_renderMembers hprepared document
  have hmembers : Entries.Distinct (store.renderMembers kind collection document) := by
    rw [Entries.Distinct, hnames]
    exact List.nodup_cons.2 ⟨hid, hdistinct⟩
  refine Entries.ext_find? (hnames.trans ?_) hmembers fun name _ => ?_
  · simp [Entries.names, Function.comp_def]
  · rw [find?_renderMembers hprepared hid, Entries.find?_cons, Entries.find?_map_named]
    rfl

/-- A field is rendered by its rule, if its target renders what it holds by the rules. -/
private theorem fieldRendersAs_fieldJson {name : String} {value : Value}
    (hget : document.get? name = some value)
    (hvalue : ∀ {targetName : String} {target : Collection},
      store.collection? targetName = some target →
        store.RendersAs target value (store.renderValue kind target value)) :
    store.FieldRendersAs collection document name value
      (store.fieldJson kind collection document name value) := by
  cases hpopulated : document.isPopulated name with
  | false =>
      rw [fieldJson_of_not_populated hpopulated, Document.referenceText?, hget]
      by_cases hexpandable : name ∈ collection.schema.expandable
      · rw [if_pos ⟨hexpandable, hpopulated⟩]
        exact .reference hexpandable hpopulated
      · rw [if_neg fun h => hexpandable h.1]
        exact .native hexpandable hpopulated
  | true =>
      cases htarget : (collection.reference? name).bind store.collection? with
      | none =>
          rw [fieldJson_of_unregistered hpopulated htarget]
          exact .unregistered hpopulated htarget
      | some target =>
          obtain ⟨targetName, hreference, htarget⟩ := Option.bind_eq_some_iff.1 htarget
          rw [fieldJson_of_populated hpopulated hreference htarget]
          exact .expanded hpopulated hreference htarget (hvalue htarget)

mutual

theorem rendersAs_renderValue (hstore : store.Enrolls Collection.OfEntity) :
    ∀ {value : Value} {name : String} {collection : Collection}, value.WellFormed →
      collection.OfEntity name →
        store.RendersAs collection value (store.renderValue kind collection value)
  | .document id fields populated, _, collection, hvalue, hcollection => by
      obtain ⟨-, entity, hprepared⟩ := hcollection
      show store.RendersAs collection _
        (.object (store.renderMembers kind collection ⟨id, fields, populated⟩))
      rw [renderMembers_eq_cons hprepared hvalue.1 hvalue.2.1]
      refine .document (fieldsRenderAs_map hstore hvalue.2.2 fun field hmem => ?_)
      exact Entries.find?_eq_of_mem hvalue.2.1 hmem
  | .array _, _, _, hvalue, hcollection =>
      .array (itemsRenderAs_renderItems hstore hvalue hcollection)
  | .null, _, _, _, _ => .native nofun nofun
  | .bool _, _, _, _, _ => .native nofun nofun
  | .number _, _, _, _, _ => .native nofun nofun
  | .string _, _, _, _, _ => .native nofun nofun
  | .objectId _, _, _, _, _ => .native nofun nofun
  | .object _, _, _, _, _ => .native nofun nofun

theorem itemsRenderAs_renderItems (hstore : store.Enrolls Collection.OfEntity) :
    ∀ {items : List Value} {name : String} {collection : Collection}, Value.WellFormedList items →
      collection.OfEntity name →
        store.ItemsRenderAs collection items (store.renderItems kind collection items)
  | [], _, _, _, _ => .nil
  | _ :: _, _, _, hitems, hcollection =>
      .cons (rendersAs_renderValue hstore hitems.1 hcollection)
        (itemsRenderAs_renderItems hstore hitems.2 hcollection)

theorem fieldsRenderAs_map (hstore : store.Enrolls Collection.OfEntity) :
    ∀ {fields : List (String × Value)} {collection : Collection} {document : Document},
      Value.WellFormedMembers fields → (∀ field ∈ fields, document.get? field.1 = some field.2) →
        store.FieldsRenderAs collection document fields (fields.map fun field =>
          (field.1, store.fieldJson kind collection document field.1 field.2))
  | [], _, _, _, _ => .nil
  | field :: _, _, _, hfields, hget => by
      rw [List.forall_mem_cons] at hget
      refine .cons (fieldRendersAs_fieldJson hget.1 fun htarget => ?_)
        (fieldsRenderAs_map hstore hfields.2 hget.2)
      exact rendersAs_renderValue hstore hfields.1 (hstore _ _ htarget)

end

/-- Where every collection is registered as an entity, a document is rendered as the rules say, for
every representation. -/
theorem rendersAs_iff (hstore : store.Enrolls Collection.OfEntity) {name : String}
    (hcollection : collection.OfEntity name) (hdocument : document.toValue.WellFormed) {json : Json} :
    store.RendersAs collection document.toValue json ↔ json = store.render kind collection document := by
  have hrenders : store.RendersAs collection document.toValue (store.render kind collection document) :=
    rendersAs_renderValue hstore hdocument hcollection
  constructor
  · intro h
    exact h.unique hrenders
  · rintro rfl
    exact hrenders

end Store

end TypedCollections
