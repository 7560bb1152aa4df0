import TypedCollections.Proofs.Schema
import TypedCollections.Proofs.Store.Registry
/-!
# Opening a store again

Nothing is read back when a collection is registered. A store that a first session registered
collections in is opened again only if each entry can be read: the numbers in every definition must be
read back from their digits, and every definition must nest below the limit of the reader, in an entry
that is an object around it. A definition nests deeper than the description it is compiled from, most
of all where arrays and dictionaries alternate.
-/

namespace TypedCollections

/-- A request to register compiled fields, at a time that fits 64 bits. -/
def Step.Registers : Step → Prop
  | .request (.register now _ schema) => now < 1 <<< 64 ∧ Compiled schema.fields
  | _ => False

namespace Store

variable {store : Store}

/-- A store of one session: all that its tree holds was recorded when a collection that is registered
was. -/
structure FirstSession (store : Store) : Prop where
  coherent : store.Coherent
  recorded : ∀ key octets, store.catalog.tree.find? key = some octets → ∃ collection now,
    key = Utf8.encode collection.name ∧
      octets = Utf8.encode (CatalogEntry.ofSchema collection.name collection.schema now).text ∧
      store.collection? collection.name = some collection ∧
      now < 1 <<< 64 ∧ Compiled collection.schema.fields

theorem firstSession_fresh (database : String) (generator : ObjectId.Generator) :
    (fresh database generator).FirstSession := by
  refine ⟨coherent_fresh database generator, fun key octets h => ?_⟩
  cases h

namespace FirstSession

theorem addCollection (h : store.FirstSession) {now : Nat} {collection : Collection}
    (hfree : store.collection? collection.name = none) (hnow : now < 1 <<< 64)
    (hcompiled : Compiled collection.schema.fields) :
    (store.addCollection now collection).FirstSession := by
  refine ⟨h.coherent.addCollection now collection, fun key octets hoctets => ?_⟩
  have htree : (store.catalog.tree.insert (Utf8.encode collection.name)
      (Utf8.encode (CatalogEntry.ofSchema collection.name collection.schema now).text)).find? key
        = some octets := hoctets
  rw [SortedMap.find?_insert] at htree
  split at htree
  · rename_i heq
    cases htree
    exact ⟨collection, now, heq.symm, rfl, collection?_addCollection store now collection, hnow,
      hcompiled⟩
  · obtain ⟨earlier, time, hkey, heq, hearlier, hrest⟩ := h.recorded key octets htree
    refine ⟨earlier, time, hkey, heq, ?_, hrest⟩
    have hname : collection.name ≠ earlier.name := by
      intro hname
      rw [hname, hearlier] at hfree
      cases hfree
    exact (SortedMap.find?_insert ..).trans ((if_neg hname).trans hearlier)

theorem register (h : store.FirstSession) {now : Nat} {name : String} {schema : Schema}
    (hnow : now < 1 <<< 64) (hcompiled : Compiled schema.fields) :
    (store.register now name schema).2.FirstSession := by
  obtain ⟨error, heq⟩ | ⟨patterns, -, -, hfree, heq⟩ := register_cases store now name schema
  · rw [heq]
    exact h
  · rw [heq]
    exact h.addCollection (hasCollection_eq_false_iff.1 hfree) hnow hcompiled

theorem performAll (h : store.FirstSession) {steps : List Step}
    (hsteps : ∀ step ∈ steps, step.Registers) : (store.performAll steps).FirstSession := by
  induction steps generalizing store with
  | nil => exact h
  | cons step rest ih =>
      have hrest := fun step hmem => hsteps step (List.mem_cons_of_mem _ hmem)
      have hstep := hsteps step (List.mem_cons_self ..)
      refine ih ?_ hrest
      cases step with
      | request request =>
          cases request with
          | register now name schema => exact h.register hstep.1 hstep.2
          | _ => exact hstep.elim
      | _ => exact hstep.elim

/-- A registered collection has its entry in memory and the octets of the entry in the tree. -/
theorem exists_entry (h : store.FirstSession) {name : String} {collection : Collection}
    (hcollection : store.collection? name = some collection) :
    ∃ entry : CatalogEntry, store.catalogEntry? name = some entry ∧
      store.catalog.tree.find? (Utf8.encode name) = some (Utf8.encode entry.text) ∧
      entry.definition = collection.schema.fields.toJson ∧ entry.definition.WellFormed ∧
      entry.registeredAt < 1 <<< 64 := by
  obtain ⟨-, now, hentry, htree⟩ := h.coherent.registered name collection hcollection
  obtain ⟨recorded, time, -, hoctets, -, htime, hcompiled⟩ := h.recorded _ _ htree
  have hsame := CatalogEntry.text_inj (Utf8.encode_injective hoctets)
  have hnow : now = time := congrArg CatalogEntry.registeredAt hsame
  have hdefinition : collection.schema.fields.toJson = recorded.schema.fields.toJson :=
    congrArg CatalogEntry.definition hsame
  refine ⟨_, hentry, htree, rfl, ?_, hnow ▸ htime⟩
  show collection.schema.fields.toJson.WellFormed
  rw [hdefinition]
  exact Fields.wellFormed_toJson hcompiled.wellFormed

/-- If every entry can be read, the store is opened again and has the entries it had. -/
theorem exists_reopen (h : store.FirstSession)
    (hreadable : ∀ name entry, store.catalogEntry? name = some entry → entry.Readable) :
    ∃ opened, store.reopen = .ok opened ∧
      ∀ name, opened.catalogEntry? name = store.catalogEntry? name := by
  have hread : ∀ name collection, store.collection? name = some collection → ∃ octets,
      store.catalog.tree.find? (Utf8.encode name) = some octets ∧
      CatalogEntry.ofOctets? octets = store.catalogEntry? name := by
    intro name collection hcollection
    obtain ⟨entry, hentry, htree, -, hdefinition, -⟩ := h.exists_entry hcollection
    refine ⟨_, htree, ?_⟩
    rw [hentry]
    exact CatalogEntry.ofOctets?_text hdefinition (hreadable name entry hentry)
  have hcatalog : store.catalog.Readable := by
    intro octets hmem
    obtain ⟨⟨key, _⟩, hheld, rfl⟩ := List.mem_map.1 hmem
    have hfind := SortedMap.find?_eq_some_iff.2 hheld
    obtain ⟨collection, -, rfl, -, hcollection, -⟩ := h.recorded _ _ hfind
    obtain ⟨octets, htree, hoctets⟩ := hread _ _ hcollection
    obtain ⟨entry, hentry, -⟩ := h.exists_entry hcollection
    rw [hfind] at htree
    cases htree
    exact ⟨entry, hoctets.trans hentry⟩
  obtain ⟨entries, hreopen⟩ := exists_reopen_eq hcatalog
  refine ⟨_, hreopen, fun name => ?_⟩
  obtain ⟨-, -, hentry, -⟩ := h.coherent.catalogEntry?_reopen hreopen
  rw [hentry]
  cases hcollection : store.collection? name with
  | none => rw [h.coherent.carried name hcollection]
  | some collection =>
      obtain ⟨octets, htree, hoctets⟩ := hread name collection hcollection
      rw [htree, Option.bind_some, hoctets]

/-- A store is opened again only if every definition nests below the limit. -/
theorem depth_lt_of_reopen (h : store.FirstSession) {opened : Store}
    (hreopen : store.reopen = .ok opened) {name : String} {collection : Collection}
    (hcollection : store.collection? name = some collection) :
    collection.schema.fields.toJson.depth < Json.nestingLimit := by
  obtain ⟨entry, -, htree, hfields, -, -⟩ := h.exists_entry hcollection
  obtain ⟨-, -, -, hread⟩ := h.coherent.catalogEntry?_reopen hreopen
  obtain ⟨found, hfound⟩ := hread _ _ htree
  rw [← hfields, ← CatalogEntry.depth_toJson_le_iff]
  exact (CatalogEntry.ofOctets?_text_eq_some_iff.1 hfound).1

/-- Whatever a store has when it is opened again, it was read from the octets in the tree. -/
theorem readable_of_reopen (h : store.FirstSession) {opened : Store}
    (hreopen : store.reopen = .ok opened)
    (hsame : ∀ name, opened.catalogEntry? name = store.catalogEntry? name) {name : String}
    {collection : Collection} (hcollection : store.collection? name = some collection) :
    collection.schema.fields.toJson.Legible ∧
      collection.schema.fields.toJson.depth < Json.nestingLimit := by
  obtain ⟨entry, hentry, htree, hfields, hdefinition, htime⟩ := h.exists_entry hcollection
  obtain ⟨-, -, hopened, -⟩ := h.coherent.catalogEntry?_reopen hreopen
  have hread : CatalogEntry.ofOctets? (Utf8.encode entry.text) = some entry := by
    rw [← hentry, ← hsame, hopened, htree, Option.bind_some]
  rw [← hfields]
  exact (CatalogEntry.readable_iff htime).1
    ((CatalogEntry.ofOctets?_text_eq_self_iff hdefinition htime).1 hread)

end FirstSession

/-- A store that collections were registered in is opened again with the entries it had exactly if the
definition of every collection nests below the reader's limit and its numbers are read back. -/
theorem reopens_as_closed_iff (database : String) (generator : ObjectId.Generator)
    {steps : List Step} (hsteps : ∀ step ∈ steps, step.Registers) :
    let store := (fresh database generator).performAll steps
    (∃ opened, store.reopen = .ok opened ∧
        ∀ name, opened.catalogEntry? name = store.catalogEntry? name) ↔
      ∀ name collection, store.collection? name = some collection →
        collection.schema.fields.toJson.Legible ∧
          collection.schema.fields.toJson.depth < Json.nestingLimit := by
  intro store
  have h : store.FirstSession := (firstSession_fresh database generator).performAll hsteps
  constructor
  · rintro ⟨opened, hreopen, hsame⟩ name collection hcollection
    exact h.readable_of_reopen hreopen hsame hcollection
  · intro hdefinitions
    apply h.exists_reopen
    intro name entry hentry
    cases hcollection : store.collection? name with
    | some collection =>
        obtain ⟨found, hfound, -, hfields, -, htime⟩ := h.exists_entry hcollection
        obtain rfl : found = entry := Option.some.inj (hfound.symm.trans hentry)
        rw [CatalogEntry.readable_iff htime, hfields]
        exact hdefinitions name collection hcollection
    | none =>
        -- Nothing was recorded under a name that is not registered.
        rw [h.coherent.carried name hcollection] at hentry
        obtain ⟨octets, hoctets, -⟩ := Option.bind_eq_some_iff.1 hentry
        obtain ⟨recorded, -, hkey, -, hrecorded, -⟩ := h.recorded _ _ hoctets
        rw [Utf8.encode_injective hkey, hrecorded] at hcollection
        cases hcollection

end Store

/-! ### Definitions that nest too deep -/

namespace Sample

/-- Texts in dictionaries in arrays, one inside the other. -/
def layers : Nat → Description
  | 0 => .scalar .string {}
  | n + 1 => .array (.dictionary (layers n) [] {}) {}

def layerType : Nat → FieldType
  | 0 => .scalar .string
  | n + 1 => .array (.map ⟨layerType n, true, none, []⟩)

def layersDescription (n : Nat) : ObjectDescription := { properties := [("a", layers n)] }

def layersFields (n : Nat) : Fields := [("a", ⟨layerType n, true, none, []⟩)]

private theorem fieldOf_layers (n : Nat) (type : FieldType) :
    Compiler.fieldOf (layers n) (!(layers n).isOptional) (.ok type)
      = .ok ⟨type, true, none, []⟩ := by
  cases n <;> rfl

private theorem resolve_layers (n : Nat) : Compiler.resolve (layers n) = .ok (layerType n) := by
  induction n with
  | zero => rw [layers, Compiler.resolve, layerType]
  | succ n ih =>
      rw [layers, Compiler.resolve, Compiler.resolve, ih, fieldOf_layers]
      rfl

private theorem compile_layers (n : Nat) :
    compile (layersDescription n) = .ok (layersFields n) := by
  have hname : Text.isBlank "a" = false := by decide +kernel
  have hrequired : Compiler.isRequired none "a" (layers n) = !(layers n).isOptional := rfl
  rw [compile, layersDescription, Compiler.compileShape, Compiler.compileProperties,
    if_neg (by decide), hname, resolve_layers, hrequired, fieldOf_layers]
  rfl

private theorem wellFormed_layers (n : Nat) : (layers n).WellFormed := by
  have hnotes : Annotations.WellFormed {} := ⟨trivial, trivial⟩
  induction n with
  | zero => exact hnotes
  | succ n ih => exact ⟨⟨ih, trivial, hnotes⟩, hnotes⟩

theorem compiled_layers (n : Nat) : Compiled (layersFields n) := by
  refine ⟨layersDescription n, layersFields n, false, ?_, compile_layers n, rfl⟩
  refine ⟨?_, ⟨wellFormed_layers n, trivial⟩, ⟨trivial, trivial⟩⟩
  simp [Entries.Distinct, Entries.names]

private theorem addField_layer (type : FieldType) (patterns : Patterns) :
    Patterns.addField ⟨type, true, none, []⟩ patterns = Patterns.addType type patterns := by
  rw [Patterns.addField]
  rfl

private theorem addType_layers (n : Nat) : Patterns.addType (layerType n) [] = .ok [] := by
  induction n with
  | zero => rw [layerType, Patterns.addType]
  | succ n ih => rw [layerType, Patterns.addType, Patterns.addType, addField_layer, ih]

theorem ofFields_layers (n : Nat) : Patterns.ofFields (layersFields n) = .ok [] := by
  rw [Patterns.ofFields, layersFields, Patterns.addFields, addField_layer, addType_layers]
  rfl

private theorem fieldToJson_layer (n : Nat) : fieldToJson ⟨layerType n, true, none, []⟩
    = .object [("type", (layerType n).toJson), ("required", .bool true)] := by
  have hmembers : typeMembers (layerType n) = [("type", (layerType n).toJson)] := by
    cases n <;> rfl
  rw [fieldToJson, hmembers]
  rfl

/-- Each layer adds three levels: the array, the object for the map, and the one for its values. -/
private theorem depth_layerType (n : Nat) : (layerType n).toJson.depth = 3 * n := by
  induction n with
  | zero => rfl
  | succ n ih =>
      rw [layerType, FieldType.toJson, FieldType.toJson, fieldToJson_layer]
      simp only [Json.depth, Json.depthList, Json.depthMembers, ih]
      omega

theorem depth_layers (n : Nat) : (layersFields n).toJson.depth = 3 * n + 2 := by
  have hfields : (layersFields n).toJson = .object [("a", .object
      [("type", (layerType n).toJson), ("required", .bool true)])] := by
    rw [← fieldToJson_layer]
    rfl
  rw [hfields]
  simp only [Json.depth, Json.depthMembers, depth_layerType]
  omega

private theorem legible_layerType (n : Nat) : (layerType n).toJson.Legible := by
  induction n with
  | zero => trivial
  | succ n ih =>
      rw [layerType, FieldType.toJson, FieldType.toJson, fieldToJson_layer]
      exact ⟨⟨trivial, ⟨ih, trivial, trivial⟩, trivial⟩, trivial⟩

theorem legible_layers (n : Nat) : (layersFields n).toJson.Legible := by
  have hfield : (fieldToJson ⟨layerType n, true, none, []⟩).Legible := by
    rw [fieldToJson_layer]
    exact ⟨legible_layerType n, trivial, trivial⟩
  exact ⟨hfield, trivial⟩

def layersSchema (n : Nat) : Schema := Schema.define (layersFields n) false

theorem registers_layers (n : Nat) :
    ∀ step ∈ [Step.request (.register 0 "users" (layersSchema n))], step.Registers := by
  intro step hmem
  obtain rfl := List.mem_singleton.1 hmem
  exact ⟨by decide, compiled_layers n⟩

end Sample

namespace Store

private theorem register_layers (n : Nat) :
    (fresh "db" Sample.generator).register 0 "users" (Sample.layersSchema n)
      = (.ok ⟨"users", "db", Sample.layersSchema n, []⟩, (fresh "db" Sample.generator).addCollection 0
          ⟨"users", "db", Sample.layersSchema n, []⟩) :=
  register_eq 0 (by decide) (Sample.ofFields_layers n) rfl

/-- Forty-one layers can still be read. -/
theorem reopens_with_layers :
    let steps := [Step.request (.register 0 "users" (Sample.layersSchema 41))]
    (∀ step ∈ steps, step.Registers) ∧
      let store := (fresh "db" Sample.generator).performAll steps
      ∃ opened, store.reopen = .ok opened ∧
        ∀ name, opened.catalogEntry? name = store.catalogEntry? name := by
  intro steps
  refine ⟨Sample.registers_layers 41, ?_⟩
  apply (reopens_as_closed_iff "db" Sample.generator (Sample.registers_layers 41)).2
  intro name collection hcollection
  have hregistered : ((fresh "db" Sample.generator).register 0 "users"
      (Sample.layersSchema 41)).2.collection? name = some collection := hcollection
  rw [register_layers] at hregistered
  have hfind := (SortedMap.find?_insert ..).symm.trans hregistered
  split at hfind
  · cases hfind
    refine ⟨Sample.legible_layers 41, ?_⟩
    show (Sample.layersFields 41).toJson.depth < Json.nestingLimit
    rw [Sample.depth_layers]
    decide
  · cases hfind

/-- With more layers than the reader's limit admits, the store is not opened again. -/
private theorem not_reopened_of_layers (n : Nat) (hn : Json.nestingLimit ≤ 3 * n + 2) :
    ∃ collection store, (fresh "db" Sample.generator).register 0 "users" (Sample.layersSchema n)
        = (.ok collection, store) ∧
      ∀ opened, store.reopen ≠ .ok opened := by
  refine ⟨_, _, register_layers n, fun opened hreopen => ?_⟩
  have hsession := @FirstSession.addCollection _ (firstSession_fresh "db" Sample.generator) 0
    ⟨"users", "db", Sample.layersSchema n, []⟩ rfl (by decide) (Sample.compiled_layers n)
  have hdepth : (Sample.layersFields n).toJson.depth < Json.nestingLimit :=
    hsession.depth_lt_of_reopen hreopen (collection?_addCollection ..)
  rw [Sample.depth_layers] at hdepth
  omega

/-- A collection of forty-two layers is registered, and the store is not opened again. -/
theorem not_reopened_with_layers :
    TypedCollections.compile (Sample.layersDescription 42) = .ok (Sample.layersFields 42) ∧
    ∃ collection store, (fresh "db" Sample.generator).register 0 "users" (Sample.layersSchema 42)
        = (.ok collection, store) ∧
      ∀ opened, store.reopen ≠ .ok opened :=
  ⟨Sample.compile_layers 42, not_reopened_of_layers 42 (by decide)⟩

end Store

end TypedCollections
