import TypedCollections.Proofs.Store.Runs
/-!
# Who owns a unique value

After every run the unique index says exactly which stored document holds which value in which
unique field, whatever was written, rewritten, deleted or refused on the way, and no value is held
twice.
-/

namespace TypedCollections

variable {definition : String → Fields} {store : Store}

namespace Store

theorem Consistent.atomic (hstore : store.Consistent definition) {name : String}
    {document : Document} (hold : store.Holds name document) {field : String} {value : Value}
    (hunique : IsUnique (definition name) field) (hvalue : document.get? field = some value) :
    value = .null ∨ value.Atomic := by
  obtain ⟨written, hkeeps, rfl⟩ := hstore.exists_of_holds hold
  rw [Document.get?_reread] at hvalue
  obtain ⟨before, hbefore, rfl⟩ := Option.map_eq_some_iff.1 hvalue
  rcases hkeeps.checked.atomic hkeeps.storable hunique hbefore with rfl | h
  · exact .inl rfl
  · exact .inr h.reread

/-- Documents that need the same entry of the index are the same document of the same collection. -/
theorem Consistent.eq_of_octets_eq (hstore : store.Consistent definition)
    {name name' : String} {a b : Document} {key key' : UniqueKey} (ha : store.Holds name a)
    (hb : store.Holds name' b) (hkey : Owns (definition name) name a key)
    (hkey' : Owns (definition name') name' b key') (hoctets : key.octets = key'.octets) :
    name = name' ∧ a = b ∧ key = key' := by
  have hsame : key = key' := UniqueKey.octets_injective (hkey.plain (hstore.plain_of_holds ha))
    (hkey'.plain (hstore.plain_of_holds hb)) hoctets
  have hname : name = name' := by rw [← hkey.collection_eq, hsame, hkey'.collection_eq]
  subst hname
  have hfind : store.unique.tree.find? key.octets = some a.id.octets :=
    (hstore.exact _ _).2 ⟨name, a, key, ha, hkey, rfl, rfl⟩
  have hfind' : store.unique.tree.find? key.octets = some b.id.octets :=
    (hstore.exact _ _).2 ⟨name, b, key', hb, hkey', hoctets.symm, rfl⟩
  rw [hfind'] at hfind
  have hid : b.id = a.id := ObjectId.ext_octets (Option.some.inj hfind)
  exact ⟨rfl, ha.unique hb hid.symm, hsame⟩

/-- No two documents of a collection hold equal values in a unique field. -/
theorem Consistent.eq_of_same (hstore : store.Consistent definition) {name field : String}
    {a b : Document} {value other : Value} (ha : store.Holds name a) (hb : store.Holds name b)
    (hunique : IsUnique (definition name) field) (hvalue : a.get? field = some value)
    (hother : b.get? field = some other) (hnull : value ≠ .null)
    (hsame : (value == other) = true) : a = b := by
  have hsame : Value.same value other = true := hsame
  have hatomic : value.Atomic := (hstore.atomic ha hunique hvalue).resolve_left hnull
  have hother' : other ≠ .null := by
    rintro rfl
    cases value <;> first | exact hatomic.elim | cases hsame
  have hatomic' : other.Atomic := (hstore.atomic hb hunique hother).resolve_left hother'
  have hjson : value.toJson = other.toJson := (Value.toJson_eq_iff_same hatomic hatomic').2 hsame
  refine (hstore.eq_of_octets_eq ha hb ⟨field, value, hunique, hvalue, hnull, rfl⟩
    ⟨field, other, hunique, hother, hother', rfl⟩ ?_).2.1
  rw [hjson]

/-- What the unique index of a store says about the documents it holds. -/
structure OwnersKnown (definition : String → Fields) (store : Store) : Prop where
  /-- There is one entry for every value other than null in a unique field of a document, its key is
  the collection, the field and the value's text between zero octets, and there is no other. -/
  entry_iff : ∀ octets value, store.unique.tree.find? octets = some value ↔
    ∃ name document field held, store.Holds name document ∧ IsUnique (definition name) field ∧
      document.get? field = some held ∧ held ≠ .null ∧
      octets = Utf8.encode name ++ 0 :: (Utf8.encode field ++ 0 :: Utf8.encode held.toJson.text) ∧
      value = document.id.octets
  /-- The entries of different documents or fields are different entries. -/
  separate : ∀ name name' a b key key', store.Holds name a → store.Holds name' b →
    Owns (definition name) name a key → Owns (definition name') name' b key' →
    key.octets = key'.octets → name = name' ∧ a = b ∧ key = key'
  /-- Every entry of a collection's tree is a document the collection holds. -/
  held : ∀ name key octets, (store.tree name).find? key = some octets →
    ∃ document, store.Holds name document ∧ key = document.id.octets ∧
      Document.ofOctets octets = .ok document
  /-- Two documents of a collection never hold equal values in a unique field. -/
  unique : ∀ name a b field value other, store.Holds name a → store.Holds name b →
    IsUnique (definition name) field → a.get? field = some value → b.get? field = some other →
    value ≠ .null → (value == other) = true → a = b

theorem Consistent.ownersKnown (hstore : store.Consistent definition) :
    store.OwnersKnown definition := by
  refine ⟨?_, fun _ _ _ _ _ _ => hstore.eq_of_octets_eq, fun _ _ _ => hstore.exists_holds,
    fun _ _ _ _ _ _ => hstore.eq_of_same⟩
  intro octets value
  rw [hstore.exact]
  constructor
  · intro h
    obtain ⟨name, document, _, hold, ⟨field, held, hunique, hvalue, hnull, rfl⟩, rfl, rfl⟩ := h
    exact ⟨name, document, field, held, hold, hunique, hvalue, hnull, rfl, rfl⟩
  · intro h
    obtain ⟨name, document, field, held, hold, hunique, hvalue, hnull, rfl, rfl⟩ := h
    exact ⟨name, document, _, hold, ⟨field, held, hunique, hvalue, hnull, rfl⟩, rfl, rfl⟩

/-- The unique index is exact after every run from a store without content, in which each collection
is always registered with the same fields, under a name without the null character. -/
theorem ownersKnown_of_run (hdefinition : ∀ name, (definition name).WellFormed) (database : String)
    (generator : ObjectId.Generator) (requests : List Request)
    (hagrees : ∀ request ∈ requests, request.Agrees definition ∧ request.Plain)
    (hwritten : ∀ name document, (name, document) ∈ (fresh database generator).written requests →
      document.Storable (definition name)) :
    ((fresh database generator).run requests).OwnersKnown definition :=
  ((consistent_fresh definition database generator).run hdefinition hagrees hwritten).ownersKnown

end Store

/-! ### A run that refuses a value held twice -/

namespace Sample

/-- Members are told apart by their addresses. -/
def members : Fields :=
  [("address", { type := .scalar .string, required := true, options := [("unique", .bool true)] })]

/-- The members as they are registered with fields that have no patterns. -/
def membersOf (fields : Fields) : Collection :=
  ⟨"members", "db", { fields, timestamps := false }, []⟩

theorem length_ident (octet : UInt8) : (List.replicate 12 octet).length = 12 := rfl

/-- The identifier of twelve equal octets. -/
def ident (octet : UInt8) : ObjectId := ⟨List.replicate 12 octet, length_ident octet⟩

/-- A member with an address and nothing else. -/
def member (octet : UInt8) (address : String) : Document :=
  ⟨ident octet, [("address", .string address)], []⟩

/-- The second member gets the address of the first one only after the first one has another. -/
def requests : List Request :=
  [.register 0 "members" { fields := members, timestamps := false },
    .insert "members" 0 (member 1 "ann"), .insert "members" 0 (member 2 "ann"),
    .update "members" 0 (member 1 "bob"), .insert "members" 0 (member 2 "ann")]

/-- Whether a document has an address and nothing else. -/
def isMember : Document → Bool
  | ⟨_, [(name, .string _)], []⟩ => name == "address"
  | _ => false

theorem wellFormed_members : Fields.WellFormed members := by
  constructor
  · simp [members, Entries.Distinct, Entries.names]
  · simp [members, FieldType.WellFormedFields, FieldType.WellFormedField, FieldType.WellFormed,
      Json.WellFormedMembers, Json.WellFormed]

theorem wellFormed_member (octet : UInt8) (address : String) :
    (member octet address).WellFormed := by
  refine ⟨?_, ?_, ?_, ?_⟩
  · simp [member, Entries.names, idField]
  · simp [member, Entries.Distinct, Entries.names]
  · simp [member, Value.WellFormed]
  · simp [member]

theorem agrees_requests : ∀ request ∈ requests,
    request.Agrees (fun _ => members) ∧ request.Plain := by
  simp [requests, Request.Agrees, Request.Plain, wellFormed_member]

theorem exists_of_any {result : Except Error Document} {check : Document → Bool}
    (h : result.toOption.any check = true) :
    ∃ stored, result = .ok stored ∧ check stored = true := by
  cases result with
  | error error => cases h
  | ok stored => exact ⟨stored, rfl, h⟩

theorem eq_of_isMember {document : Document} (h : isMember document = true) :
    ∃ address, document = ⟨document.id, [("address", .string address)], []⟩ := by
  unfold isMember at h
  split at h
  · rename_i id name address
    have hname : name = "address" := by simpa using h
    exact ⟨address, by rw [hname]⟩
  · cases h

theorem storable_of_isMember {document : Document} (h : isMember document = true) :
    document.Storable members := by
  obtain ⟨address, hdocument⟩ := eq_of_isMember h
  rw [hdocument]
  refine ⟨⟨?_, ?_⟩, ?_⟩
  · simp [Document.toJson, Document.toMembers, Value.membersToJson, Value.toJson,
      ObjectId.toJson, Json.depth, Json.depthMembers, Json.nestingLimit]
  · simp [Document.toJson, Document.toMembers, Value.membersToJson, Value.toJson,
      ObjectId.toJson, Json.Legible, Json.LegibleMembers]
  · intro field number _ hnumber
    have hmem := Entries.mem_of_find? hnumber
    simp at hmem

theorem isMember_of_written {name : String} {document : Document}
    (h : (name, document) ∈ (Store.fresh "db" generator).written requests) :
    isMember document = true := by
  have hall : ((Store.fresh "db" generator).written requests).all (isMember ·.2) = true := by
    decide +kernel
  exact List.all_eq_true.1 hall _ h

end Sample

namespace Store

theorem ownersKnown_of_sample_run :
    ((fresh "db" Sample.generator).run Sample.requests).OwnersKnown fun _ => Sample.members :=
  ownersKnown_of_run (fun _ => Sample.wellFormed_members) "db" Sample.generator Sample.requests
    Sample.agrees_requests fun _ _ h => Sample.storable_of_isMember (Sample.isMember_of_written h)

end Store

end TypedCollections
