import TypedCollections.Document
import TypedCollections.Proofs.Json.Shape
import TypedCollections.Proofs.SortedMap
import TypedCollections.Proofs.Value
/-!
# Documents as octets

A document whose text nests within the reader's limit and whose numbers are read back is read from
its octets: with its identifier and its fields in order, each field as it is read back. The octets
of the document read are the octets it was read from.
-/

namespace TypedCollections

namespace Document

/-- What every document holds that was made by setting fields. -/
structure WellFormed (document : Document) : Prop where
  id_not_mem : idField ∉ Entries.names document.fields
  distinct : Entries.Distinct document.fields
  values : ∀ field ∈ document.fields, field.2.WellFormed
  raw : ∀ field ∈ document.populated, field.2.WellFormed

/-- The document read back from what is written of it. -/
def reread (document : Document) : Document :=
  ⟨document.id, Entries.mapValues Value.reread document.fields, []⟩

private theorem setAll_eq (fields : List (String × Value)) (document : Document)
    (h : document.populated = []) :
    document.setAll fields = ⟨document.id,
      Entries.writeAll document.fields (Entries.remove fields idField), []⟩ := by
  induction fields generalizing document with
  | nil =>
      obtain ⟨id, before, populated⟩ := document
      cases h
      rfl
  | cons field rest ih =>
      obtain ⟨id, before, populated⟩ := document
      cases h
      rw [setAll, List.foldl_cons]
      by_cases hname : field.1 = idField
      · rw [set, if_pos hname]
        have hremove : Entries.remove (field :: rest) idField = Entries.remove rest idField := by
          simp [Entries.remove, hname]
        rw [hremove]
        exact ih ⟨id, before, []⟩ rfl
      · rw [set, if_neg hname]
        have hremove : Entries.remove (field :: rest) idField
            = field :: Entries.remove rest idField := by
          simp [Entries.remove, hname]
        rw [hremove]
        exact ih ⟨id, Entries.write before field.1 field.2, []⟩ rfl

theorem ofFields_eq (id : ObjectId) (fields : List (String × Value)) :
    ofFields id fields = ⟨id, Entries.ofList (Entries.remove fields idField), []⟩ :=
  setAll_eq fields (empty id) rfl

theorem ofFields_of_distinct {id : ObjectId} {fields : List (String × Value)}
    (h : Entries.Distinct fields) : ofFields id fields = ⟨id, Entries.remove fields idField, []⟩ := by
  rw [ofFields_eq, Entries.ofList_eq_self (Entries.distinct_remove h idField)]

/-- What a document made of fields has under a name stands among the fields. -/
theorem find?_of_get?_ofFields {id : ObjectId} {fields : List (String × Value)}
    (h : Entries.Distinct fields) {name : String} {value : Value}
    (hvalue : (ofFields id fields).get? name = some value) :
    Entries.find? fields name = some value := by
  rw [ofFields_of_distinct h] at hvalue
  exact Entries.find?_of_find?_remove hvalue

theorem id_not_mem_ofFields (id : ObjectId) (fields : List (String × Value)) :
    idField ∉ Entries.names (ofFields id fields).fields := by
  rw [ofFields_eq]
  intro hmem
  obtain ⟨field, hfield, hname⟩ := List.mem_map.1 hmem
  have hremoved := Entries.mem_of_mem_ofList hfield
  apply Entries.not_mem_names_remove fields idField
  exact List.mem_map.2 ⟨field, hremoved, hname⟩

theorem distinct_ofFields (id : ObjectId) (fields : List (String × Value)) :
    Entries.Distinct (ofFields id fields).fields := by
  rw [ofFields_eq]
  exact Entries.distinct_ofList _

theorem mem_of_mem_ofFields {id : ObjectId} {fields : List (String × Value)} {field : String × Value}
    (h : field ∈ (ofFields id fields).fields) : field ∈ fields := by
  rw [ofFields_eq] at h
  exact (List.mem_filter.1 (Entries.mem_of_mem_ofList h)).1

theorem storedFields_of_raw {document : Document} (h : document.populated = []) :
    document.storedFields = document.fields := by
  unfold storedFields populatedKeys?
  rw [h]
  exact List.map_id _

theorem wellFormed_ofFields (id : ObjectId) {fields : List (String × Value)}
    (h : ∀ field ∈ fields, field.2.WellFormed) : (ofFields id fields).WellFormed := by
  refine ⟨id_not_mem_ofFields id fields, distinct_ofFields id fields,
    fun field hmem => h field (mem_of_mem_ofFields hmem), ?_⟩
  intro field hmem
  rw [ofFields_eq] at hmem
  cases hmem

theorem wellFormed_ofMembers (id : ObjectId) {members : List (String × Json)}
    (h : Json.WellFormedMembers members) : (ofFields id (Value.membersOfJson members)).WellFormed :=
  wellFormed_ofFields id (Value.wellFormedMembers_iff.1 (Value.wellFormed_membersOfJson h))

theorem names_storedFields (document : Document) :
    Entries.names document.storedFields = Entries.names document.fields := by
  simp [Entries.names, storedFields, Function.comp_def]

theorem wellFormed_storedFields {document : Document} (h : document.WellFormed) :
    Entries.Distinct document.storedFields ∧ ∀ field ∈ document.storedFields, field.2.WellFormed := by
  constructor
  · rw [Entries.Distinct, names_storedFields]
    exact h.distinct
  · intro field hmem
    obtain ⟨before, hbefore, rfl⟩ := List.mem_map.1 hmem
    cases hraw : document.populatedKeys? before.1 with
    | none => exact h.values before hbefore
    | some raw =>
        have hentry : (before.1, raw) ∈ document.populated := SortedMap.mem_of_lookup hraw
        exact h.raw _ hentry

theorem wellFormed_toJson {document : Document} (h : document.WellFormed) :
    document.toJson.WellFormed := by
  have hvalue : (Value.document document.id document.fields []).WellFormed :=
    ⟨h.id_not_mem, h.distinct, Value.wellFormedMembers_iff.2 h.values⟩
  exact Value.wellFormed_toJson hvalue

private theorem toMembers_reread (document : Document) :
    document.reread.toMembers = document.toMembers := by
  unfold toMembers reread
  simp only [Value.membersToJson_eq_mapValues, Entries.mapValues, List.map_map]
  refine congrArg _ (List.map_congr_left fun field _ => ?_)
  simp [Value.toJson_reread]

@[simp] theorem toJson_reread (document : Document) : document.reread.toJson = document.toJson := by
  rw [toJson, toMembers_reread, toJson]

@[simp] theorem toOctets_reread (document : Document) :
    document.reread.toOctets = document.toOctets := by
  rw [toOctets, text, toJson_reread, toOctets, text]

@[simp] theorem reread_reread (document : Document) : document.reread.reread = document.reread := by
  unfold reread
  simp only [Entries.mapValues, List.map_map, Document.mk.injEq, true_and, and_true]
  apply List.map_congr_left
  intro field _
  simp [Value.reread_reread]

theorem WellFormed.reread {document : Document} (h : document.WellFormed) :
    document.reread.WellFormed := by
  refine ⟨?_, ?_, ?_, fun field hmem => by cases hmem⟩
  · show idField ∉ Entries.names (Entries.mapValues Value.reread document.fields)
    rw [Entries.names_mapValues]
    exact h.id_not_mem
  · show Entries.Distinct (Entries.mapValues Value.reread document.fields)
    rw [Entries.Distinct, Entries.names_mapValues]
    exact h.distinct
  · intro field hmem
    obtain ⟨before, hbefore, rfl⟩ := List.mem_map.1 hmem
    exact Value.wellFormed_ofJson (Value.wellFormed_toJson (h.values before hbefore))

@[simp] theorem storedFields_reread (document : Document) :
    document.reread.storedFields = document.reread.fields :=
  storedFields_of_raw rfl

theorem get?_reread (document : Document) (name : String) :
    document.reread.get? name = (document.get? name).map Value.reread :=
  Entries.find?_mapValues Value.reread document.fields name

/-- Members that start with an identifier are a document with this identifier and the other members
as its fields. -/
theorem ofJson_cons {id : ObjectId} {members : List (String × Json)}
    (hid : idField ∉ Entries.names members) (hdistinct : Entries.Distinct members) :
    ofJson (.object ((idField, id.toJson) :: members)) = .ok ⟨id, Value.membersOfJson members, []⟩ := by
  have hnames := Value.names_membersOfJson members
  have hremove : Entries.remove ((idField, Value.objectId id) :: Value.membersOfJson members) idField
      = Value.membersOfJson members := by
    have hrest : Entries.remove (Value.membersOfJson members) idField = Value.membersOfJson members :=
      Entries.remove_eq_self (by rw [hnames]; exact hid)
    rw [← hrest]
    simp [Entries.remove]
  have hdistinct' : Entries.Distinct (Value.membersOfJson members) := by
    rw [Entries.Distinct, hnames]
    exact hdistinct
  have hfind : Entries.find? ((idField, id.toJson) :: members) idField = some id.toJson := by
    rw [Entries.find?_cons, if_pos rfl]
  simp only [ofJson, hfind, Option.map_some, Value.ofJson_objectId]
  rw [Value.membersOfJson, Value.ofJson_objectId, ofFields_eq, hremove,
    Entries.ofList_eq_self hdistinct']

theorem ofJson_toJson {document : Document} (hid : idField ∉ Entries.names document.fields)
    (hdistinct : Entries.Distinct document.fields) :
    ofJson document.toJson = .ok document.reread := by
  have hnames := Value.names_membersToJson document.fields
  rw [toJson, toMembers, ofJson_cons (by rw [hnames]; exact hid)
    (by rw [Entries.Distinct, hnames]; exact hdistinct), Value.membersOfJson_membersToJson]
  rfl

/-- A document without expanded fields equals the document read back exactly if JSON keeps its
fields. -/
theorem same_reread_iff {document : Document} (hwell : document.WellFormed)
    (hpopulated : document.populated = []) :
    (document.reread == document) = true ↔ ∀ field ∈ document.fields, field.2.Kept := by
  have hsame : (document.reread == document)
      = Value.sameMembers (Entries.mapValues Value.reread document.fields) document.fields := by
    show Value.same (.document document.id (Entries.mapValues Value.reread document.fields) [])
      (.document document.id document.fields document.populated) = _
    rw [hpopulated, Value.same]
    simp [Entries.mapValues, Value.sameMembers]
  rw [hsame, Value.sameMembers_reread_iff hwell.distinct (Value.wellFormedMembers_iff.2 hwell.values),
    Value.keptMembers_iff]

/-- What a document's text has to satisfy to be read: it nests within the reader's limit, and its
numbers are read back from their digits. -/
structure Readable (document : Document) : Prop where
  depth_le : document.toJson.depth ≤ Json.nestingLimit
  legible : document.toJson.Legible

theorem Readable.legible_field {document : Document} (h : document.Readable) {name : String}
    {value : Value} (hvalue : document.get? name = some value) : value.toJson.Legible := by
  have hmembers : Json.LegibleMembers (Value.membersToJson document.fields) := h.legible.2
  apply Json.legibleMembers_iff.1 hmembers (name, value.toJson)
  rw [Value.membersToJson_eq_mapValues]
  exact List.mem_map.2 ⟨(name, value), Entries.mem_of_find? hvalue, rfl⟩

theorem Readable.depth_field_lt {document : Document} (h : document.Readable) {name : String}
    {value : Value} (hvalue : document.get? name = some value) :
    value.toJson.depth < Json.nestingLimit := by
  have hdepth : Json.depthMembers document.toMembers + 1 ≤ Json.nestingLimit := h.depth_le
  have hmem : (name, value.toJson) ∈ document.toMembers := by
    refine List.mem_cons_of_mem _ ?_
    rw [Value.membersToJson_eq_mapValues]
    exact List.mem_map.2 ⟨(name, value), Entries.mem_of_find? hvalue, rfl⟩
  have hfield : value.toJson.depth ≤ Json.depthMembers document.toMembers :=
    Json.depthMembers_le_iff.1 (Nat.le_refl _) _ hmem
  omega

theorem Readable.reread {document : Document} (h : document.Readable) :
    document.reread.Readable := by
  constructor
  · rw [toJson_reread]
    exact h.depth_le
  · rw [toJson_reread]
    exact h.legible

theorem Readable.read_text {document : Document} (h : document.Readable)
    (hwell : document.WellFormed) : Json.read document.text = .ok document.toJson :=
  Json.read_text (wellFormed_toJson hwell) h.legible h.depth_le

/-- A document whose text is read as the JSON it was written from is read back. -/
theorem ofOctets_of_read {document : Document} (hid : idField ∉ Entries.names document.fields)
    (hdistinct : Entries.Distinct document.fields)
    (hread : Json.read document.text = .ok document.toJson) :
    ofOctets document.toOctets = .ok document.reread := by
  rw [ofOctets, toOctets, Utf8.decode?_encode]
  simp only [hread]
  exact ofJson_toJson hid hdistinct

/-- A document is read back from its octets. -/
theorem ofOctets_toOctets {document : Document} (hwell : document.WellFormed)
    (hreadable : document.Readable) : ofOctets document.toOctets = .ok document.reread :=
  ofOctets_of_read hwell.id_not_mem hwell.distinct (hreadable.read_text hwell)

/-- What is read from octets was made of the members of an object that was read from a text. -/
theorem exists_members_of_ofOctets {octets : List UInt8} {document : Document}
    (h : ofOctets octets = .ok document) :
    ∃ text id members, Json.read text = .ok (.object members) ∧
      document = ofFields id (Value.membersOfJson members) := by
  unfold ofOctets at h
  split at h
  · cases h
  · rename_i text _
    split at h
    · cases h
    · rename_i json hread
      unfold ofJson at h
      split at h
      · split at h
        · exact ⟨text, _, _, hread, (Except.ok.inj h).symm⟩
        · cases h
      · cases h

theorem exists_ofFields_of_ofOctets {octets : List UInt8} {document : Document}
    (h : ofOctets octets = .ok document) : ∃ id fields, document = ofFields id fields := by
  obtain ⟨text, id, members, -, rfl⟩ := exists_members_of_ofOctets h
  exact ⟨id, _, rfl⟩

theorem id_not_mem_of_ofOctets {octets : List UInt8} {document : Document}
    (h : ofOctets octets = .ok document) : idField ∉ Entries.names document.fields := by
  obtain ⟨id, fields, rfl⟩ := exists_ofFields_of_ofOctets h
  exact id_not_mem_ofFields id fields

theorem populated_of_ofOctets {octets : List UInt8} {document : Document}
    (h : ofOctets octets = .ok document) : document.populated = [] := by
  obtain ⟨id, fields, rfl⟩ := exists_ofFields_of_ofOctets h
  rw [ofFields_eq]

/-- No field of a document that was read is expanded. -/
theorem isPopulated_of_ofOctets {octets : List UInt8} {document : Document}
    (h : ofOctets octets = .ok document) (name : String) : document.isPopulated name = false := by
  unfold isPopulated populatedKeys?
  rw [populated_of_ofOctets h]
  rfl

/-- Whatever is read from the octets of a document has the identifier of the document and its fields,
read again, even if they are not read back as they were. -/
theorem exists_fields_of_ofOctets_toOctets {document found : Document}
    (hid : idField ∉ Entries.names document.fields)
    (hdistinct : Entries.Distinct document.fields)
    (h : ofOctets document.toOctets = .ok found) :
    ∃ others, Json.rereadMembers? (Value.membersToJson document.fields) = some others ∧
      found = ⟨document.id, Value.membersOfJson (Json.settleMembers others), []⟩ := by
  rw [ofOctets, toOctets, Utf8.decode?_encode] at h
  simp only at h
  split at h
  · cases h
  · rename_i json hread
    obtain ⟨members, hmembers, rfl⟩ := Json.exists_members_of_read hread
    obtain ⟨id, others, hreread, hothers, rfl⟩ := Json.rereadMembers?_cons_eq_some_iff.1 hmembers
    have hwell := Value.wellFormed_objectIdToJson document.id
    have hlegible : document.id.toJson.Legible := ⟨trivial, trivial⟩
    rw [Json.reread?_eq_self hwell hlegible] at hreread
    cases hreread
    have hnames : Entries.names (Json.settleMembers others) = Entries.names document.fields := by
      rw [Json.names_settleMembers, Json.names_of_rereadMembers? hothers,
        Value.names_membersToJson]
    have hid' : idField ∉ Entries.names (Json.settleMembers others) := by rwa [hnames]
    have hdistinct' : Entries.Distinct (Json.settleMembers others) := by
      rwa [Entries.Distinct, hnames]
    have hmembers' : Entries.Distinct ((idField, document.id.toJson) :: Json.settleMembers others) :=
      List.nodup_cons.2 ⟨hid', hdistinct'⟩
    rw [Json.settle, Json.settleMembers, Json.settle_eq_self hwell, Entries.ofList_eq_self hmembers',
      ofJson_cons hid' hdistinct'] at h
    exact ⟨others, hothers, (Except.ok.inj h).symm⟩

/-- Whatever is read from the octets of a document has the identifier of the document, even if the
document is not read back as it was. -/
theorem id_of_ofOctets_toOctets {document found : Document}
    (hid : idField ∉ Entries.names document.fields)
    (hdistinct : Entries.Distinct document.fields)
    (h : ofOctets document.toOctets = .ok found) : found.id = document.id := by
  obtain ⟨others, -, rfl⟩ := exists_fields_of_ofOctets_toOctets hid hdistinct h
  rfl

/-- A field of what is read from the octets of a document is the field of the document, read again. -/
theorem get?_of_ofOctets_toOctets {document found : Document}
    (hid : idField ∉ Entries.names document.fields)
    (hdistinct : Entries.Distinct document.fields)
    (h : ofOctets document.toOctets = .ok found) (name : String) :
    found.get? name = ((document.get? name).bind fun value => value.toJson.reread?).map
      fun json => Value.ofJson json.settle := by
  obtain ⟨others, hothers, rfl⟩ := exists_fields_of_ofOctets_toOctets hid hdistinct h
  have hother := Json.find?_of_rereadMembers? hothers name
  rw [Value.membersToJson_eq_mapValues, Entries.find?_mapValues] at hother
  show Entries.find? (Value.membersOfJson (Json.settleMembers others)) name = _
  rw [Value.membersOfJson_eq_mapValues, Json.settleMembers_eq_mapValues, Entries.find?_mapValues,
    Entries.find?_mapValues, hother, Option.map_map, Option.bind_map]
  rfl

end Document

end TypedCollections
