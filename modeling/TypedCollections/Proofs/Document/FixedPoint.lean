import TypedCollections.Proofs.Document
import TypedCollections.Proofs.Json.Bounded
import TypedCollections.Proofs.Value.Lossless
/-!
# Stored octets are a fixed point

Reading the octets of a document may turn its values into others, but these are written as the same
octets. That holds of every document that the operations make, because they keep it well-formed. A
document that was read from octets is one that reading keeps: none of its fields is expanded, nothing
is lost of its values, and they nest no more deeply than the text they were read from. So it equals
the document that is read back of it.
-/

namespace TypedCollections

namespace Value

/-! ### Reading keeps the nesting -/

private theorem depth_numberToJson (number : Number) : number.toJson.depth = 0 := by
  cases number with
  | finite value =>
      obtain ⟨numeral, hwritten, -⟩ := Number.exists_toJson_finite value
      rw [hwritten]
      rfl
  | _ => rfl

mutual

/-- What is written of a value that was read nests as deeply as what it was read from. -/
theorem depth_toJson_ofJson : ∀ json : Json, (ofJson json).toJson.depth = json.depth
  | .null => rfl
  | .bool _ => rfl
  | .number numeral => depth_numberToJson numeral.toNumber
  | .string _ => rfl
  | .array items => congrArg (· + 1) (depthList_toJson_ofJson items)
  | .object members => by
      rw [ofJson]
      split
      · rename_i id hid
        obtain ⟨text, rfl, -⟩ := ObjectId.exists_ofMembers?_iff.1 ⟨id, hid⟩
        rfl
      · exact congrArg (· + 1) (depthMembers_toJson_ofJson members)

theorem depthList_toJson_ofJson : ∀ items : List Json,
    Json.depthList (listToJson (listOfJson items)) = Json.depthList items
  | [] => rfl
  | item :: rest => by
      rw [listOfJson, listToJson, Json.depthList, Json.depthList, depth_toJson_ofJson item,
        depthList_toJson_ofJson rest]

theorem depthMembers_toJson_ofJson : ∀ members : List (String × Json),
    Json.depthMembers (membersToJson (membersOfJson members)) = Json.depthMembers members
  | [] => rfl
  | (name, json) :: rest => by
      rw [membersOfJson, membersToJson, Json.depthMembers, Json.depthMembers,
        depth_toJson_ofJson json, depthMembers_toJson_ofJson rest]

end

end Value

namespace Document

/-! ### The operations on documents keep them well-formed -/

/-- What the operations on documents make: nothing is set to a value that is not well-formed, and
only a field that stands is expanded. -/
inductive Made : Document → Prop where
  | empty (id : ObjectId) : Made (empty id)
  | set {document : Document} (h : Made document) (name : String) {value : Value}
      (hvalue : value.WellFormed) : Made (document.set name value)
  | remove {document : Document} (h : Made document) (name : String) : Made (document.remove name)
  | populate {document : Document} (h : Made document) {name : String} {value loaded : Value}
      (hvalue : document.get? name = some value) (hloaded : loaded.WellFormed) :
      Made (document.populate name loaded)

theorem wellFormed_empty (id : ObjectId) : (empty id).WellFormed :=
  wellFormed_ofFields id (List.forall_mem_nil _)

theorem WellFormed.set {document : Document} (h : document.WellFormed) (name : String)
    {value : Value} (hvalue : value.WellFormed) : (document.set name value).WellFormed := by
  unfold Document.set
  split
  · exact h
  · rename_i hname
    refine ⟨fun hmem => ?_, Entries.distinct_write h.distinct name value, fun field hmem => ?_,
      fun field hmem => h.raw field (SortedMap.mem_eraseEntry hmem)⟩
    · rcases Entries.mem_names_write.1 hmem with heq | hmem
      · exact hname heq.symm
      · exact h.id_not_mem hmem
    · rcases Entries.mem_write hmem with rfl | hmem
      · exact hvalue
      · exact h.values field hmem

theorem WellFormed.remove {document : Document} (h : document.WellFormed) (name : String) :
    (document.remove name).WellFormed := by
  refine ⟨fun hmem => ?_, Entries.distinct_remove h.distinct name, fun field hmem => ?_,
    fun field hmem => h.raw field (SortedMap.mem_eraseEntry hmem)⟩
  · have hkept : idField ∈ Entries.names (Entries.remove document.fields name) := hmem
    rw [Entries.names_remove] at hkept
    exact h.id_not_mem (List.mem_filter.1 hkept).1
  · exact h.values field (List.mem_filter.1 hmem).1

/-- A field that stands is not the identifier, and so it can be expanded. -/
theorem WellFormed.populate {document : Document} (h : document.WellFormed) {name : String}
    {value loaded : Value} (hvalue : document.get? name = some value) (hloaded : loaded.WellFormed) :
    (document.populate name loaded).WellFormed := by
  have hstands : (name, value) ∈ document.fields := Entries.mem_of_find? hvalue
  refine ⟨fun hmem => ?_, Entries.distinct_write h.distinct name loaded, fun field hmem => ?_,
    fun field hmem => ?_⟩
  · rcases Entries.mem_names_write.1 hmem with heq | hmem
    · exact h.id_not_mem (heq ▸ List.mem_map_of_mem hstands)
    · exact h.id_not_mem hmem
  · rcases Entries.mem_write hmem with rfl | hmem
    · exact hloaded
    · exact h.values field hmem
  · have hraw : field ∈ if document.isPopulated name then document.populated
        else SortedMap.insertEntry document.populated name ((document.get? name).getD .null) := hmem
    split at hraw
    · exact h.raw field hraw
    · rw [hvalue] at hraw
      rcases SortedMap.mem_insertEntry hraw with rfl | hraw
      · exact h.values _ hstands
      · exact h.raw field hraw

theorem Made.wellFormed {document : Document} (h : document.Made) : document.WellFormed := by
  induction h with
  | empty id => exact wellFormed_empty id
  | set _ name hvalue ih => exact ih.set name hvalue
  | remove _ name ih => exact ih.remove name
  | populate _ hvalue hloaded ih => exact ih.populate hvalue hloaded

/-! ### What is read -/

/-- A document that reading and writing keep: none of its fields is expanded, JSON keeps its values,
and it nests within the reader's limit. -/
structure Settled (document : Document) : Prop where
  wellFormed : document.WellFormed
  raw : document.populated = []
  kept : ∀ field ∈ document.fields, field.2.Kept
  depth_le : document.toJson.depth ≤ Json.nestingLimit

theorem settled_ofFields (id : ObjectId) {members : List (String × Json)}
    (hwell : Json.WellFormedMembers members) (hdepth : Json.depthMembers members < Json.nestingLimit) :
    (ofFields id (Value.membersOfJson members)).Settled := by
  have hfields : ∀ field ∈ (ofFields id (Value.membersOfJson members)).fields,
      field ∈ Value.membersOfJson members := fun _ => mem_of_mem_ofFields
  refine ⟨wellFormed_ofMembers id hwell, by rw [ofFields_eq], fun field hmem => ?_, ?_⟩
  · exact Value.keptMembers_iff.1 (Value.keptMembers_ofJson hwell) field (hfields field hmem)
  · have hwritten : Json.depthMembers (Value.membersToJson
        (ofFields id (Value.membersOfJson members)).fields) ≤ Json.depthMembers members := by
      rw [← Value.depthMembers_toJson_ofJson members]
      refine Json.depthMembers_le_iff.2 fun member hmem => ?_
      rw [Value.membersToJson_eq_mapValues] at hmem
      obtain ⟨field, hfield, rfl⟩ := List.mem_map.1 hmem
      refine Json.depthMembers_le_iff.1 (Nat.le_refl _) (field.1, field.2.toJson) ?_
      rw [Value.membersToJson_eq_mapValues]
      exact List.mem_map.2 ⟨field, hfields field hfield, rfl⟩
    have hid : id.toJson.depth < Json.nestingLimit := by
      rw [show id.toJson.depth = 1 from rfl]
      decide
    exact Nat.succ_le_of_lt (Nat.max_lt.2 ⟨hid, Nat.lt_of_le_of_lt hwritten hdepth⟩)

theorem settled_of_ofOctets {octets : List UInt8} {document : Document}
    (h : ofOctets octets = .ok document) : document.Settled := by
  obtain ⟨text, id, members, hread, rfl⟩ := exists_members_of_ofOctets h
  obtain ⟨hwell, hdepth⟩ := Json.bounded_of_read hread
  exact settled_ofFields id hwell.2 hdepth

namespace Sample

def ident (last : UInt8) : ObjectId := ⟨[0, 0, 0, 0, 0, 0, 0, 0, 0, 0, 0, last], rfl⟩

def ann : Document := (empty (ident 2)).set "name" (.string "ann")

/-- A document before its partner is expanded, with a number that is not finite and an object with
the text of an identifier. -/
def unexpanded : Document :=
  (((empty (ident 1)).set "ratio" (.number .notANumber)).set "partner" (.objectId (ident 2))).set
    "note" (.object [(oidKey, .string (ident 3).hex)])

/-- A document with everything that is read back as another value. -/
def mixed : Document := unexpanded.populate "partner" ann.toValue

theorem made_mixed : mixed.Made := by
  have hann : ann.toValue.WellFormed := by
    have hname : (Value.string "ann").WellFormed := trivial
    have hdocument : ann.WellFormed := ((Made.empty _).set "name" hname).wellFormed
    exact ⟨hdocument.id_not_mem, hdocument.distinct,
      Value.wellFormedMembers_iff.2 hdocument.values⟩
  have hnote : (Value.object [(oidKey, .string (ident 3).hex)]).WellFormed := by
    simp [Value.WellFormed, Value.WellFormedMembers, Entries.Distinct, Entries.names]
  have hratio : (Value.number .notANumber).WellFormed := trivial
  have hpartner : (Value.objectId (ident 2)).WellFormed := trivial
  have hunexpanded : unexpanded.Made :=
    (((Made.empty _).set "ratio" hratio).set "partner" hpartner).set "note" hnote
  have hstands : unexpanded.get? "partner" = some (.objectId (ident 2)) := rfl
  exact hunexpanded.populate hstands hann

theorem readable_mixed : mixed.Readable where
  depth_le := by decide +kernel
  legible := ⟨⟨trivial, trivial⟩, trivial, ⟨⟨trivial, trivial⟩, trivial, trivial⟩,
    ⟨trivial, trivial⟩, trivial⟩

/-- A document with its identifier behind its field. -/
def idLast : Json :=
  .object [("tags", .array [.bool true, .object [(oidKey, .string "none")]]),
    (idField, (ident 1).toJson)]

theorem ofOctets_idLast : ofOctets (Utf8.encode idLast.text)
    = .ok ⟨ident 1, [("tags", .array [.bool true, .object [(oidKey, .string "none")]])], []⟩ := by
  have hwell : idLast.WellFormed := by
    simp [idLast, ObjectId.toJson, Json.WellFormed, Json.WellFormedList, Json.WellFormedMembers,
      Entries.Distinct, Entries.names, idField]
  have hlegible : idLast.Legible :=
    ⟨⟨trivial, ⟨trivial, trivial⟩, trivial⟩, ⟨trivial, trivial⟩, trivial⟩
  rw [ofOctets, Utf8.decode?_encode]
  simp only [Json.read_text hwell hlegible (by decide)]
  rfl

end Sample

/-- The octets of a document are read as a document with its identifier, of which the same octets are
written, and a document that was read from octets equals the one that is read from its own. The
numbers of the document are taken to be read back from their digits. -/
theorem octets_fixed :
    (∀ document : Document, document.WellFormed → document.Readable →
      ∃ found, ofOctets document.toOctets = .ok found ∧ found.id = document.id ∧
        found.toOctets = document.toOctets) ∧
    ∀ octets document, ofOctets octets = .ok document → document.toJson.Legible →
      ∃ found, ofOctets document.toOctets = .ok found ∧ (found == document) = true := by
  constructor
  · intro document hwell hreadable
    exact ⟨document.reread, ofOctets_toOctets hwell hreadable, rfl, toOctets_reread document⟩
  · intro octets document hread hlegible
    have hsettled := settled_of_ofOctets hread
    have hreadable : document.Readable := ⟨hsettled.depth_le, hlegible⟩
    exact ⟨document.reread, ofOctets_toOctets hsettled.wellFormed hreadable,
      (same_reread_iff hsettled.wellFormed hsettled.raw).2 hsettled.kept⟩

theorem octets_of_mixed_fixed :
    (∃ found, ofOctets Sample.mixed.toOctets = .ok found ∧ found.id = Sample.ident 1 ∧
      found.toOctets = Sample.mixed.toOctets) ∧
    ∃ document found, ofOctets (Utf8.encode Sample.idLast.text) = .ok document ∧
      ofOctets document.toOctets = .ok found ∧ (found == document) = true := by
  obtain ⟨hwritten, hread⟩ := octets_fixed
  obtain ⟨found, hfound, hsame⟩ := hread _ _ Sample.ofOctets_idLast
    ⟨⟨trivial, trivial⟩, ⟨trivial, ⟨trivial, trivial⟩, trivial⟩, trivial⟩
  exact ⟨hwritten _ Sample.made_mixed.wellFormed Sample.readable_mixed,
    _, found, Sample.ofOctets_idLast, hfound, hsame⟩

end Document

end TypedCollections
