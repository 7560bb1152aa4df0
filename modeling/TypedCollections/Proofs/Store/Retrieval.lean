import TypedCollections.Proofs.Store.Conforming
/-!
# Finding what was inserted

A document that was inserted as JSON is found under its identifier. It is found as it was written
exactly if none of its objects is written the way an identifier is, and a document holds no such
object if no reserved name is declared inside a field.
-/

namespace TypedCollections

namespace Collection

/-- Checking finite fields, with their time stamps, gives a document of finite numbers. -/
theorem finite_of_check {collection : Collection} {id : ObjectId} {now : Nat}
    {fields checked : List (String × Value)} (hdefinition : collection.schema.fields.WellFormed)
    (hnow : now ≤ 2 ^ 64) (hfields : ∀ field ∈ fields, field.2.Finite)
    (h : collection.check (collection.stamp now none fields) = .ok checked) :
    (Document.ofFields id checked).Finite := by
  have htime : (Value.number (Number.ofInt now)).Finite :=
    Number.exists_ofInt_eq (by rw [Int.natAbs_natCast]; exact hnow)
  have hstamped : ∀ field ∈ collection.stamp now none fields, field.2.Finite := by
    intro field hmem
    unfold stamp at hmem
    split at hmem
    · rcases Entries.mem_write hmem with rfl | hmem
      · exact htime
      · rcases Entries.mem_write hmem with rfl | hmem
        · exact htime
        · exact hfields field hmem
    · exact hfields field hmem
  have hchecked := Validation.finite_of_checkFields hdefinition.each
    (fun field hmem => hstamped field (List.mem_filter.1 hmem).1) (check_eq_ok_iff.1 h)
  exact Value.finiteMembers_iff.2 fun field hmem =>
    hchecked field (Document.mem_of_mem_ofFields hmem)

end Collection

namespace Store

variable {store : Store} {collection : Collection} {now : Nat}

/-- A document that was inserted as JSON is made of checked fields and holds finite numbers. -/
theorem checked_of_insertJson {json : Json} {stored : Document}
    (hdefinition : collection.schema.fields.WellFormed)
    (hpatterns : Patterns.ofFields collection.schema.fields = .ok collection.patterns)
    (hjson : json.WellFormed) (hnow : now ≤ 2 ^ 64)
    (h : (store.insertJson collection now json).1 = .ok stored) :
    stored.Checked collection.schema.fields ∧ stored.Finite := by
  obtain ⟨members, id, generator, rfl, hinsert, -⟩ := exists_insert_of_insertJson h
  obtain ⟨hwrite, -⟩ := exists_write_of_insert hinsert
  obtain ⟨checked, unique, events, hcheck, rfl, -⟩ := exists_put_of_write hwrite
  have hdocument := Document.wellFormed_ofMembers id hjson.2
  obtain ⟨hdistinct, hvalues⟩ := Document.wellFormed_storedFields hdocument
  have hnone : ∀ document, (none : Option Document) = some document → document.WellFormed :=
    fun _ h => by cases h
  obtain ⟨hdistinct, hvalues⟩ :=
    Collection.wellFormed_stamp collection now hdistinct hvalues hnone
  refine ⟨Collection.checked_of_check hdefinition rfl hpatterns hdistinct hvalues hcheck, ?_⟩
  refine Collection.finite_of_check hdefinition hnow (fun field hmem => ?_) hcheck
  rw [Document.storedFields_of_raw (by rw [Document.ofFields_eq])] at hmem
  exact Value.finiteMembers_iff.1 (Value.finite_membersOfJson hjson.2) field
    (Document.mem_of_mem_ofFields hmem)

/-- A document that was inserted as JSON stands under its identifier. -/
theorem find?_of_insertJson {json : Json} {stored : Document}
    (h : (store.insertJson collection now json).1 = .ok stored) :
    ((store.insertJson collection now json).2.tree collection.name).find? stored.id.octets
      = some stored.toOctets := by
  obtain ⟨members, id, generator, -, hinsert, hafter⟩ := exists_insert_of_insertJson h
  obtain ⟨hwrite, events, hafter'⟩ := exists_write_of_insert hinsert
  rw [hafter, hafter']
  exact find?_of_write hwrite

/-- What is found of a document that was inserted as JSON is what is read back of it. -/
theorem find_eq_reread {json : Json} {stored : Document} (hwell : stored.WellFormed)
    (hinsert : (store.insertJson collection now json).1 = .ok stored)
    (hread : Json.read stored.text = .ok stored.toJson) :
    (store.insertJson collection now json).2.find collection stored.id
      = .ok (some stored.reread) := by
  rw [Store.find, find?_of_insertJson hinsert]
  simp only [readDocument, Document.ofOctets_of_read hwell.id_not_mem hwell.distinct hread]
  rfl

/-- A document that was inserted as JSON is found under its identifier, if its text is read as the
JSON it was written from. It is found as it was written exactly if JSON keeps its fields, and JSON
keeps them if no name that is declared inside a field starts with `$`. -/
theorem find_of_insertJson (store : Store) (collection : Collection)
    (hfields : Compiled collection.schema.fields)
    (hpatterns : Patterns.ofFields collection.schema.fields = .ok collection.patterns) (now : Nat)
    (hnow : now ≤ 2 ^ 64) (json : Json) (hjson : json.WellFormed) (stored : Document)
    (hinsert : (store.insertJson collection now json).1 = .ok stored)
    (hread : Json.read stored.text = .ok stored.toJson) :
    ∃ found, (store.insertJson collection now json).2.find collection stored.id = .ok (some found) ∧
      found.id = stored.id ∧
      ((found == stored) = true ↔ ∀ field ∈ stored.fields, field.2.Kept) ∧
      (FieldType.UnmarkedFields collection.schema.fields → (found == stored) = true) := by
  obtain ⟨hchecked, hfinite⟩ :=
    checked_of_insertJson hfields.wellFormed hpatterns hjson hnow hinsert
  exact ⟨stored.reread, find_eq_reread hchecked.wellFormed hinsert hread, rfl,
    Document.same_reread_iff hchecked.wellFormed hchecked.populated,
    fun hunmarked => hchecked.same_reread hunmarked hfinite⟩

end Store

namespace Sample

/-- A member as it is inserted, with a field that is not declared. -/
def memberJson : Json := .object [("address", .string "ann"), ("nickname", .string "annie")]

end Sample

namespace Store

theorem find_of_inserted_member :
    ∃ stored found, ((fresh "db" Sample.generator).insertJson (Sample.membersOf Sample.members) 0
        Sample.memberJson).1 = .ok stored ∧
      ((fresh "db" Sample.generator).insertJson (Sample.membersOf Sample.members) 0
        Sample.memberJson).2.find (Sample.membersOf Sample.members) stored.id = .ok (some found) ∧
      (found == stored) = true := by
  have hany : ((fresh "db" Sample.generator).insertJson (Sample.membersOf Sample.members) 0
      Sample.memberJson).1.toOption.any Sample.isMember = true := by
    decide +kernel
  obtain ⟨stored, hinsert, hmember⟩ := Sample.exists_of_any hany
  have hjson : Sample.memberJson.WellFormed := by
    simp [Sample.memberJson, Json.WellFormed, Json.WellFormedMembers, Entries.Distinct,
      Entries.names]
  obtain ⟨hchecked, -⟩ :=
    checked_of_insertJson Sample.compiled_members.wellFormed rfl hjson (by decide) hinsert
  have hread := (Sample.storable_of_isMember hmember).readable.read_text hchecked.wellFormed
  obtain ⟨found, hfind, -, -, hequal⟩ := find_of_insertJson (fresh "db" Sample.generator)
    (Sample.membersOf Sample.members) Sample.compiled_members rfl 0 (by decide) Sample.memberJson
    hjson stored hinsert hread
  exact ⟨stored, found, hinsert, hfind, hequal ⟨trivial, trivial⟩⟩

end Store

/-! ### An object that is taken for an identifier -/

namespace Sample

/-- Places have addresses, and addresses have a property that only identifiers should have. -/
def placeDescription : ObjectDescription :=
  { properties := [("address", .object { properties := [("$oid", .scalar .string {})] })] }

/-- The fields of places. -/
def places : Fields :=
  [("address", { type := .nested [("$oid", { type := .scalar .string, required := true })],
                 required := true })]

theorem compile_placeDescription : compile placeDescription = .ok places := by
  have hname : Text.isBlank "address" = false ∧ Text.isBlank "$oid" = false := by decide +kernel
  simp only [compile, placeDescription, Compiler.compileShape, Compiler.compileProperties, hname]
  rfl

theorem wellFormed_places : Fields.WellFormed places := by
  constructor
  · simp [places, Entries.Distinct, Entries.names]
  · simp [places, FieldType.WellFormedFields, FieldType.WellFormedField, FieldType.WellFormed,
      Json.WellFormedMembers, Entries.Distinct, Entries.names]

def placesCollection : Collection := ⟨"places", "db", { fields := places, timestamps := false }, []⟩

/-- The hexadecimal characters of an identifier. -/
def placeText : String := "0123456789abcdef01234567"

def placeJson : Json :=
  .object [("address", .object [("$oid", .string placeText), ("city", .string "Oslo")])]

/-- Whether a document has the address and nothing else. -/
def isPlace : Document → Bool
  | ⟨_, [(name, .object [(key, .string text)])], []⟩ =>
      name == "address" && key == "$oid" && text == placeText
  | _ => false

theorem eq_of_isPlace {document : Document} (h : isPlace document = true) :
    document = ⟨document.id, [("address", .object [("$oid", .string placeText)])], []⟩ := by
  unfold isPlace at h
  split at h
  · rename_i id name key text
    simp only [Bool.and_eq_true, beq_iff_eq] at h
    obtain ⟨⟨rfl, rfl⟩, rfl⟩ := h
    rfl
  · cases h

theorem readable_of_isPlace {document : Document} (h : isPlace document = true) :
    document.Readable := by
  rw [eq_of_isPlace h]
  constructor
  · simp [Document.toJson, Document.toMembers, Value.membersToJson, Value.toJson,
      ObjectId.toJson, Json.depth, Json.depthMembers, Json.nestingLimit]
  · simp [Document.toJson, Document.toMembers, Value.membersToJson, Value.toJson,
      ObjectId.toJson, Json.Legible, Json.LegibleMembers]

end Sample

namespace Store

/-- A place is inserted, and what is found of it has an identifier in the place of its address. -/
theorem place_retyped_by_find :
    TypedCollections.compile Sample.placeDescription = .ok Sample.places ∧
    ∃ store stored found,
      (fresh "db" Sample.generator).register 0 "places" Sample.placesCollection.schema
        = (.ok Sample.placesCollection, store) ∧
      (store.insertJson Sample.placesCollection 0 Sample.placeJson).1 = .ok stored ∧
      Json.read stored.text = .ok stored.toJson ∧
      (store.insertJson Sample.placesCollection 0 Sample.placeJson).2.find Sample.placesCollection
        stored.id = .ok (some found) ∧
      stored.get? "address" = some (.object [("$oid", .string Sample.placeText)]) ∧
      (∃ id, found.get? "address" = some (.objectId id)) ∧ (found == stored) = false := by
  have hany : (((fresh "db" Sample.generator).addCollection 0 Sample.placesCollection).insertJson
      Sample.placesCollection 0 Sample.placeJson).1.toOption.any Sample.isPlace = true := by
    decide +kernel
  obtain ⟨stored, hinsert, hplace⟩ := Sample.exists_of_any hany
  have hdocument := Sample.eq_of_isPlace hplace
  have hjson : Sample.placeJson.WellFormed := by
    simp [Sample.placeJson, Json.WellFormed, Json.WellFormedMembers, Entries.Distinct,
      Entries.names]
  have hchecked := (checked_of_insertJson Sample.wellFormed_places rfl hjson (by decide) hinsert).1
  have hwell := hchecked.wellFormed
  have hread := (Sample.readable_of_isPlace hplace).read_text hwell
  obtain ⟨id, hid⟩ : ∃ id, ObjectId.ofHex? Sample.placeText = some id :=
    Option.isSome_iff_exists.1 (by decide +kernel)
  have hmarked : ObjectId.ofMembers? [("$oid", .string Sample.placeText)] = some id := hid
  refine ⟨Sample.compile_placeDescription, _, stored, stored.reread,
    register_eq 0 (by decide) rfl rfl, hinsert, hread, find_eq_reread hwell hinsert hread,
    ?_, ?_, ?_⟩
  · rw [hdocument]
    rfl
  · refine ⟨id, ?_⟩
    rw [Document.get?_reread, hdocument]
    simp [Document.get?, Entries.find?_cons, Value.reread, Value.toJson, Value.membersToJson,
      Value.ofJson, hmarked]
  · rw [Bool.eq_false_iff]
    intro hsame
    have hkept := (Document.same_reread_iff hwell (by rw [hdocument])).1 hsame
    rw [hdocument] at hkept
    have haddress := (hkept _ (List.mem_singleton_self _)).1
    simp [Value.membersToJson, Value.toJson, hmarked] at haddress

end Store

end TypedCollections
