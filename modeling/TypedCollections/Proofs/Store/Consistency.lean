import TypedCollections.Proofs.Store.Requests
import TypedCollections.Proofs.Store.UniqueValues
/-!
# Consistent stores

The invariants of a store in which every collection is always registered with the same fields. The
store conforms: each tree holds documents under their own identifiers, all of them checked before
they were written. It is consistent if besides the unique index is exact, which needs names without
the null character.
-/

namespace TypedCollections

variable {definition : String → Fields}

/-- A collection as it is registered under its name. -/
structure Registered (definition : String → Fields) (name : String) (collection : Collection) :
    Prop where
  name_eq : collection.name = name
  fields_eq : collection.schema.fields = definition name
  patterns_eq : Patterns.ofFields (definition name) = .ok collection.patterns

theorem Registered.mem_uniqueKeys {definition : String → Fields} {name : String}
    {collection : Collection} (hregistered : Registered definition name collection)
    {document : Document} {key : UniqueKey} :
    key ∈ collection.uniqueKeys document ↔ Owns (definition name) name document key := by
  rw [Collection.mem_uniqueKeys, hregistered.name_eq, hregistered.fields_eq]

/-- A document made of the fields that a check gave back. -/
structure Document.Checked (fields : Fields) (document : Document) : Prop where
  wellFormed : document.WellFormed
  populated : document.populated = []
  conforms : ∃ patterns checked, Patterns.ofFields fields = .ok patterns ∧
    Validation.Conforms patterns fields checked ∧ document.fields = Entries.remove checked idField

/-- What is asked of a document so that it is found again: its text is read back, and the numbers in
its unique fields are finite. -/
structure Document.Storable (fields : Fields) (document : Document) : Prop where
  readable : document.Readable
  finite : ∀ field number, IsUnique fields field → document.get? field = some (.number number) →
    ∃ finite, number = .finite finite

/-- The collection holds the document: its octets stand under its identifier. -/
def Store.Holds (store : Store) (name : String) (document : Document) : Prop :=
  ∃ octets, (store.tree name).find? document.id.octets = some octets ∧
    Document.ofOctets octets = .ok document

/-- A document that was written under its identifier. -/
structure Store.Keeps (definition : String → Fields) (good : String → Document → Prop)
    (store : Store) (name : String) (document : Document) : Prop where
  checked : document.Checked (definition name)
  storable : document.Storable (definition name)
  good : good name document
  find : (store.tree name).find? document.id.octets = some document.toOctets

/-- Collections are registered with their fields, and trees hold the octets of documents that were
written. -/
structure Store.Conforming (definition : String → Fields) (good : String → Document → Prop)
    (store : Store) : Prop where
  registered : ∀ name collection, store.collection? name = some collection →
    Registered definition name collection
  entries : ∀ name key octets, (store.tree name).find? key = some octets →
    ∃ document, store.Keeps definition good name document ∧ key = document.id.octets ∧
      octets = document.toOctets

/-- The store conforms, the names of its collections have no null character, and its index is
exact. -/
structure Store.Consistent (definition : String → Fields) (store : Store) : Prop
    extends store.Conforming definition fun name _ => '\x00' ∉ name.toList where
  plain : ∀ name collection, store.collection? name = some collection → '\x00' ∉ name.toList
  exact : store.unique.Exact definition store.Holds

/-! ### Documents that were checked -/

namespace Validation

theorem fitsSlot_of_mem {patterns : Patterns} {fields : Fields} {values : List (String × Value)}
    (h : FitsFields patterns fields values) {name : String} {field : Field}
    (hmem : (name, field) ∈ fields) :
    FitsSlot name field.required field.options (FitsField patterns field) values := by
  induction fields with
  | nil => cases hmem
  | cons head rest ih =>
      obtain ⟨other, otherField⟩ := head
      rcases List.mem_cons.1 hmem with heq | hmem
      · cases heq
        exact h.1
      · exact ih h.2 hmem

/-- What stands under a declared name is null or fits. -/
theorem null_or_fits_of_mem {patterns : Patterns} {fields : Fields} {values : List (String × Value)}
    (h : FitsFields patterns fields values) {name : String} {field : Field}
    (hmem : (name, field) ∈ fields) {value : Value} (hfind : Entries.find? values name = some value) :
    value = .null ∨ FitsField patterns field value := by
  rcases fitsSlot_of_mem h hmem with ⟨found, hfound, hfits⟩ | ⟨hmissing, -⟩
  · rw [hfind] at hfound
    cases hfound
    exact .inr hfits
  · exact .inl (hmissing value hfind)

/-- A value that fits a unique field is a scalar or an identifier. -/
theorem scalar_of_fitsField {patterns : Patterns} {field : Field} {value : Value}
    (hunique : Field.isUnique field = true) (hfits : FitsField patterns field value) :
    value.Scalar := by
  obtain ⟨type, required, reference, options⟩ := field
  unfold Field.isUnique at hunique
  split at hunique
  · rename_i kind _ htype
    cases htype
    cases kind with
    | string =>
        obtain ⟨text, rfl, -⟩ := hfits
        trivial
    | number =>
        obtain ⟨number, rfl, -⟩ := hfits
        trivial
    | boolean =>
        obtain ⟨truth, rfl⟩ := hfits
        trivial
  · rename_i _ htype
    cases htype
    obtain ⟨id, rfl⟩ := hfits
    trivial
  · cases hunique

end Validation

namespace Document

/-- What a checked document has under a name is declared. -/
theorem Checked.mem_names {fields : Fields} {document : Document} (h : document.Checked fields)
    {name : String} {value : Value} (hvalue : document.get? name = some value) :
    name ∈ Entries.names fields := by
  obtain ⟨patterns, checked, -, hconforms, hfields⟩ := h.conforms
  rw [get?, hfields] at hvalue
  have hfind := Entries.find?_of_find?_remove hvalue
  exact hconforms.declared name (Entries.mem_names_iff.2 ⟨value, hfind⟩)

/-- What a checked document holds in a unique field is null or a scalar or an identifier. -/
theorem Checked.atomic {fields : Fields} {document : Document} (hchecked : document.Checked fields)
    (hstorable : document.Storable fields) {field : String} {value : Value}
    (hunique : IsUnique fields field) (hvalue : document.get? field = some value) :
    value = .null ∨ value.Atomic := by
  obtain ⟨patterns, checked, -, hconforms, hfields⟩ := hchecked.conforms
  obtain ⟨declared, hmem, hdeclared⟩ := hunique
  have hremoved : Entries.find? (Entries.remove checked idField) field = some value := by
    rw [← hfields]
    exact hvalue
  have hfind := Entries.find?_of_find?_remove hremoved
  rcases Validation.null_or_fits_of_mem hconforms.fits hmem hfind with hnull | hfits
  · exact .inl hnull
  · refine .inr ((Validation.scalar_of_fitsField hdeclared hfits).atomic ?_)
    rintro number rfl
    exact hstorable.finite field number ⟨declared, hmem, hdeclared⟩ hvalue

/-- A document that is read back needs the keys it needed when it was written. -/
theorem Checked.owns_reread {fields : Fields} {name : String} {document : Document}
    (hchecked : document.Checked fields) (hstorable : document.Storable fields) {key : UniqueKey} :
    Owns fields name document.reread key ↔ Owns fields name document key := by
  constructor
  · intro h
    obtain ⟨field, value, hunique, hvalue, hnull, rfl⟩ := h
    rw [get?_reread] at hvalue
    obtain ⟨before, hbefore, rfl⟩ := Option.map_eq_some_iff.1 hvalue
    refine ⟨field, before, hunique, hbefore, ?_, by rw [Value.toJson_reread]⟩
    rintro rfl
    exact hnull rfl
  · intro h
    obtain ⟨field, value, hunique, hvalue, hnull, rfl⟩ := h
    refine ⟨field, value.reread, hunique, ?_, ?_, by rw [Value.toJson_reread]⟩
    · rw [get?_reread, hvalue]
      rfl
    · rcases hchecked.atomic hstorable hunique hvalue with h | h
      · exact absurd h hnull
      · exact h.reread.ne_null

theorem ofOctets_of_checked {fields : Fields} {document : Document}
    (hchecked : document.Checked fields) (hstorable : document.Storable fields) :
    ofOctets document.toOctets = .ok document.reread :=
  ofOctets_toOctets hchecked.wellFormed hstorable.readable

end Document

namespace Store

variable {good : String → Document → Prop} {store : Store}

/-! ### What a conforming store holds -/

theorem Holds.unique {name : String} {a b : Document} (ha : store.Holds name a)
    (hb : store.Holds name b) (h : a.id = b.id) : a = b := by
  obtain ⟨octets, hfind, hread⟩ := ha
  obtain ⟨octets', hfind', hread'⟩ := hb
  rw [h, hfind'] at hfind
  cases hfind
  rw [hread'] at hread
  exact (Except.ok.inj hread).symm

theorem Keeps.holds {name : String} {document : Document}
    (h : store.Keeps definition good name document) : store.Holds name document.reread :=
  ⟨document.toOctets, h.find, Document.ofOctets_of_checked h.checked h.storable⟩

/-- A conforming store holds exactly what is read back of the documents written. -/
theorem Conforming.exists_of_holds (hstore : store.Conforming definition good) {name : String}
    {document : Document} (h : store.Holds name document) :
    ∃ written, store.Keeps definition good name written ∧ document = written.reread := by
  obtain ⟨octets, hfind, hread⟩ := h
  obtain ⟨written, hkeeps, -, hoctets⟩ := hstore.entries name _ octets hfind
  rw [hoctets, Document.ofOctets_of_checked hkeeps.checked hkeeps.storable] at hread
  exact ⟨written, hkeeps, (Except.ok.inj hread).symm⟩

theorem Conforming.wellFormed_of_holds (hstore : store.Conforming definition good) {name : String}
    {document : Document} (h : store.Holds name document) : document.WellFormed := by
  obtain ⟨written, hkeeps, rfl⟩ := hstore.exists_of_holds h
  exact hkeeps.checked.wellFormed.reread

/-- Every entry of a tree is read as the document of its key. -/
theorem Conforming.exists_holds (hstore : store.Conforming definition good) {name : String}
    {key octets : List UInt8} (h : (store.tree name).find? key = some octets) :
    ∃ document, store.Holds name document ∧ key = document.id.octets ∧
      Document.ofOctets octets = .ok document := by
  obtain ⟨written, hkeeps, hkey, hoctets⟩ := hstore.entries name key octets h
  refine ⟨written.reread, hkeeps.holds, hkey, ?_⟩
  rw [hoctets]
  exact Document.ofOctets_of_checked hkeeps.checked hkeeps.storable

theorem holds_congr {other : Store} (hdocuments : other.documents = store.documents) :
    other.Holds = store.Holds := by
  funext name document
  rw [Holds, tree, hdocuments, ← tree, Holds]

/-- A store conforms, if every entry stood in a store that conforms or is a document that was
checked. -/
theorem Conforming.extend {other : Store} (hstore : store.Conforming definition good)
    (hregistered : ∀ name collection, other.collection? name = some collection →
      Registered definition name collection)
    (hentries : ∀ name key octets, (other.tree name).find? key = some octets →
      (store.tree name).find? key = some octets ∨
        ∃ document, document.Checked (definition name) ∧ document.Storable (definition name) ∧
          good name document ∧ key = document.id.octets ∧ octets = document.toOctets) :
    other.Conforming definition good := by
  refine ⟨hregistered, fun name key octets h => ?_⟩
  rcases hentries name key octets h with hold | ⟨document, hchecked, hstorable, hgood, rfl, rfl⟩
  · obtain ⟨document, hkeeps, rfl, rfl⟩ := hstore.entries name key octets hold
    exact ⟨document, { hkeeps with find := h }, rfl, rfl⟩
  · exact ⟨document, ⟨hchecked, hstorable, hgood, h⟩, rfl, rfl⟩

/-- Conformance depends on the registered collections and the trees only. -/
theorem Conforming.congr {other : Store} (hstore : store.Conforming definition good)
    (hregistered : ∀ name collection, other.collection? name = some collection →
      Registered definition name collection)
    (hdocuments : other.documents = store.documents) : other.Conforming definition good := by
  refine hstore.extend hregistered fun name key octets h => .inl ?_
  rwa [tree, hdocuments] at h

/-- Consistency depends on the registered collections, the trees and the index only. -/
theorem Consistent.congr {other : Store} (hstore : store.Consistent definition)
    (hregistry : other.registry = store.registry) (hdocuments : other.documents = store.documents)
    (hunique : other.unique = store.unique) : other.Consistent definition := by
  have hcollection : other.collection? = store.collection? := by
    funext name
    rw [collection?, hregistry, ← collection?]
  refine ⟨hstore.toConforming.congr ?_ hdocuments, ?_, ?_⟩
  · rw [hcollection]
    exact hstore.registered
  · rw [hcollection]
    exact hstore.plain
  · rw [hunique, holds_congr hdocuments]
    exact hstore.exact

theorem Consistent.plain_of_holds (hstore : store.Consistent definition) {name : String}
    {document : Document} (h : store.Holds name document) : '\x00' ∉ name.toList := by
  obtain ⟨written, hkeeps, -⟩ := hstore.exists_of_holds h
  exact hkeeps.good

end Store

end TypedCollections
