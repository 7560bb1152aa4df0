import TypedCollections.Proofs.Entity
import TypedCollections.Proofs.SortedMap
import TypedCollections.Proofs.Value
import TypedCollections.Store.Rendering
/-!
# What a rendering holds

The members of a rendered document are its identifier and its fields, in order. For a collection that
was registered as an entity, the identifier is text, an expandable field that is not expanded has its
identifiers as text, an expanded field is rendered by the collection it refers to, and any other field
is in its native form.
-/

namespace TypedCollections

/-! ### The transform of an entity -/

namespace Document

/-- The text that takes the place of an expandable reference, if the document has one that is not
expanded. -/
def referenceText? (document : Document) (expandable : List String) (name : String) :
    Option Json :=
  if name ∈ expandable ∧ document.isPopulated name = false then
    TypedCollections.referenceText? (document.get? name)
  else none

theorem referenceText?_cons (document : Document) (name : String) (rest : List String)
    (other : String) :
    document.referenceText? (name :: rest) other
      = (document.referenceText? rest other).or (document.referenceText? [name] other) := by
  unfold referenceText?
  cases hpopulated : document.isPopulated other with
  | true => simp
  | false =>
      by_cases hname : other = name
      · subst hname
        by_cases hrest : other ∈ rest <;> simp [hrest]
      · by_cases hrest : other ∈ rest <;> simp [hrest, hname]

/-- Names that the document has no field of have no text. -/
theorem referenceText?_of_get?_eq_none {document : Document} {name : String}
    (h : document.get? name = none) (expandable : List String) :
    document.referenceText? expandable name = none := by
  unfold referenceText?
  rw [h]
  split <;> rfl

end Document

/-- Writes an expandable reference as text, if it is not expanded. -/
private def writeReference (document : Document) (members : List (String × Json)) (name : String) :
    List (String × Json) :=
  if document.isPopulated name then members
  else
    match referenceText? (document.get? name) with
    | some text => Entries.write members name text
    | none => members

private theorem find?_writeReference (document : Document) (members : List (String × Json))
    (name other : String) :
    Entries.find? (writeReference document members name) other
      = (document.referenceText? [name] other).or (Entries.find? members other) := by
  unfold writeReference Document.referenceText?
  by_cases hother : other = name
  · subst hother
    cases hpopulated : document.isPopulated other with
    | true => simp
    | false =>
        cases htext : referenceText? (document.get? other) with
        | none => simp
        | some text => simp [Entries.find?_write]
  · have hname : ¬ name = other := fun h => hother h.symm
    have hnone : ¬ (other ∈ [name] ∧ document.isPopulated other = false) := by simp [hother]
    rw [if_neg hnone, Option.none_or]
    split
    · rfl
    · split
      · rw [Entries.find?_write, if_neg hname]
      · rfl

private theorem find?_foldl_writeReference (document : Document) (names : List String)
    (members : List (String × Json)) (other : String) :
    Entries.find? (names.foldl (writeReference document) members) other
      = (document.referenceText? names other).or (Entries.find? members other) := by
  induction names generalizing members with
  | nil => simp [Document.referenceText?]
  | cons name rest ih =>
      rw [List.foldl_cons, ih, find?_writeReference, ← Option.or_assoc,
        ← Document.referenceText?_cons]

/-- What stands under a name after the transform of an entity. -/
theorem find?_identifierTransform (names : List String) (document : Document)
    (members : List (String × Json)) (other : String) :
    Entries.find? (identifierTransform (NameSet.ofNames names) document members) other
      = (document.referenceText? names other).or
          (if idField = other then some (.string document.id.hex)
            else Entries.find? members other) := by
  have hkeys : document.referenceText? (NameSet.ofNames names).keys other
      = document.referenceText? names other := by
    unfold Document.referenceText?
    simp only [NameSet.mem_keys_ofNames]
  rw [← hkeys, ← Entries.find?_write]
  exact find?_foldl_writeReference document (NameSet.ofNames names).keys _ other

/-- The transform of an entity keeps the names, if the identifier and the fields of the document are
among them. -/
theorem names_identifierTransform (expandable : NameSet) {document : Document}
    {members : List (String × Json)} (hid : idField ∈ Entries.names members)
    (h : ∀ name ∈ Entries.names document.fields, name ∈ Entries.names members) :
    Entries.names (identifierTransform expandable document members) = Entries.names members := by
  have hfold : ∀ (names : List String) (members : List (String × Json)),
      (∀ name ∈ Entries.names document.fields, name ∈ Entries.names members) →
        Entries.names (names.foldl (writeReference document) members) = Entries.names members := by
    intro names
    induction names with
    | nil => exact fun _ _ => rfl
    | cons name rest ih =>
        intro members h
        have hwrite : Entries.names (writeReference document members name)
            = Entries.names members := by
          unfold writeReference
          split
          · rfl
          · split
            · rename_i text htext
              rw [Entries.names_write, if_pos]
              apply h
              cases hvalue : document.get? name with
              | none =>
                  rw [hvalue] at htext
                  cases htext
              | some value => exact Entries.mem_names_iff.2 ⟨value, hvalue⟩
            · rfl
        rw [List.foldl_cons, ih _ (by rw [hwrite]; exact h), hwrite]
  have hwrite : Entries.names (Entries.write members idField (.string document.id.hex))
      = Entries.names members := by
    rw [Entries.names_write, if_pos hid]
  exact (hfold expandable.keys _ (by rw [hwrite]; exact h)).trans hwrite

/-! ### Rendered members -/

namespace Store

variable {store : Store} {kind : Representation} {collection : Collection} {entity : Entity}

/-- The native form of a field of a document, or what the collection it refers to renders of it, if it
is expanded. -/
def expandedJson (store : Store) (kind : Representation) (collection : Collection)
    (populated : List (String × Value)) (name : String) (value : Value) : Json :=
  match store.renderer? collection populated name with
  | some target => store.renderValue kind target value
  | none => value.toJson

theorem renderFields_eq_map (store : Store) (kind : Representation) (collection : Collection)
    (populated fields : List (String × Value)) :
    store.renderFields kind collection populated fields = fields.map fun field =>
      (field.1, store.expandedJson kind collection populated field.1 field.2) := by
  induction fields with
  | nil => rfl
  | cons field rest ih =>
      rw [renderFields, ih]
      rfl

theorem names_renderFields (store : Store) (kind : Representation) (collection : Collection)
    (populated fields : List (String × Value)) :
    Entries.names (store.renderFields kind collection populated fields) = Entries.names fields := by
  simp [renderFields_eq_map, Entries.names, Function.comp_def]

theorem find?_renderFields (store : Store) (kind : Representation) (collection : Collection)
    (populated fields : List (String × Value)) (name : String) :
    Entries.find? (store.renderFields kind collection populated fields) name
      = (Entries.find? fields name).map (store.expandedJson kind collection populated name) := by
  rw [renderFields_eq_map, Entries.find?_map_named]

/-- A field of a document as a collection of an entity renders it. -/
def fieldJson (store : Store) (kind : Representation) (collection : Collection)
    (document : Document) (name : String) (value : Value) : Json :=
  (document.referenceText? collection.schema.expandable name).getD
    (store.expandedJson kind collection document.populated name value)

theorem renderMembers_eq (hprepared : entity.Prepared collection.schema) (document : Document) :
    store.renderMembers kind collection document
      = identifierTransform (NameSet.ofNames collection.schema.expandable) document
          ((idField, document.id.toJson) ::
            store.renderFields kind collection document.populated document.fields) := by
  unfold renderMembers applyTransform
  rw [hprepared.transform kind]

/-- The members of a rendered document are its identifier and its fields, in order. -/
theorem names_renderMembers (hprepared : entity.Prepared collection.schema) (document : Document) :
    Entries.names (store.renderMembers kind collection document)
      = idField :: Entries.names document.fields := by
  have hnames : Entries.names ((idField, document.id.toJson) ::
      store.renderFields kind collection document.populated document.fields)
        = idField :: Entries.names document.fields := by
    rw [← names_renderFields store kind collection document.populated]
    rfl
  rw [renderMembers_eq hprepared, names_identifierTransform, hnames]
  · rw [hnames]
    exact List.mem_cons_self ..
  · intro name hmem
    rw [hnames]
    exact List.mem_cons_of_mem _ hmem

/-- A rendered document has its identifier as text and its fields as the collection renders them. -/
theorem find?_renderMembers (hprepared : entity.Prepared collection.schema) {document : Document}
    (hid : idField ∉ Entries.names document.fields) (name : String) :
    Entries.find? (store.renderMembers kind collection document) name
      = if idField = name then some (.string document.id.hex)
        else (document.get? name).map (store.fieldJson kind collection document name) := by
  rw [renderMembers_eq hprepared, find?_identifierTransform]
  by_cases hname : idField = name
  · subst hname
    rw [if_pos rfl, if_pos rfl,
      Document.referenceText?_of_get?_eq_none (Entries.find?_eq_none_iff.2 hid), Option.none_or]
  · rw [if_neg hname, if_neg hname, Entries.find?_cons, if_neg hname, find?_renderFields]
    unfold fieldJson
    cases hvalue : document.get? name with
    | none =>
        rw [Document.referenceText?_of_get?_eq_none hvalue,
          show Entries.find? document.fields name = none from hvalue]
        rfl
    | some value =>
        rw [show Entries.find? document.fields name = some value from hvalue]
        cases document.referenceText? collection.schema.expandable name <;> rfl

/-- A field that is not expanded is rendered in its native form, or as the text of a reference. -/
theorem fieldJson_of_not_populated {document : Document} {name : String}
    (h : document.isPopulated name = false) (value : Value) :
    store.fieldJson kind collection document name value
      = (document.referenceText? collection.schema.expandable name).getD value.toJson := by
  have hlookup : SortedMap.lookup document.populated name = none := by
    unfold Document.isPopulated Document.populatedKeys? at h
    simpa using h
  unfold fieldJson expandedJson renderer?
  rw [hlookup]

/-- A field that is expanded is rendered by the collection it refers to. -/
theorem fieldJson_of_populated {document : Document} {name target : String} {renderer : Collection}
    (h : document.isPopulated name = true) (hreference : collection.reference? name = some target)
    (hrenderer : store.collection? target = some renderer) (value : Value) :
    store.fieldJson kind collection document name value
      = store.renderValue kind renderer value := by
  obtain ⟨raw, hraw⟩ := Option.isSome_iff_exists.1 h
  have hlookup : SortedMap.lookup document.populated name = some raw := hraw
  unfold fieldJson expandedJson renderer? Document.referenceText?
  rw [h, hlookup, hreference, Option.bind_some, hrenderer]
  simp

/-- A field that is expanded is rendered in its native form if the collection it refers to is not
registered. -/
theorem fieldJson_of_unregistered {document : Document} {name : String}
    (h : document.isPopulated name = true)
    (htarget : (collection.reference? name).bind store.collection? = none) (value : Value) :
    store.fieldJson kind collection document name value = value.toJson := by
  obtain ⟨raw, hraw⟩ := Option.isSome_iff_exists.1 h
  have hlookup : SortedMap.lookup document.populated name = some raw := hraw
  unfold fieldJson expandedJson renderer? Document.referenceText?
  simp only [h, hlookup, htarget, Bool.true_eq_false, and_false, if_false, Option.getD_none]

end Store

end TypedCollections
