import Mathlib
import TypedCollections.Proofs.Description.ReadBack
import TypedCollections.Proofs.Json.Bounded
/-!
# Descriptions read again

A text may say of a node more than its kind knows, say what goes without saying, and repeat names of
options. The node that is read from it is regular all the same, and is printed no deeper than the
text nests: every part comes from a member. So what is read, once printed, is read again as it was.
-/

namespace TypedCollections

namespace Description

/-- A node is regular and printed within a depth. -/
structure RegularWithin (limit : Nat) (node : Description) : Prop where
  regular : node.Regular
  depth : node.toJson.depth ≤ limit

variable {members : List (String × Json)}

/-! ### What a member holds -/

theorem mem_of_member? {name : String} {member : Member}
    (h : member? (readMembers members) name = some (some member)) :
    ∃ json, (name, json) ∈ members ∧ member = readMember name json := by
  unfold member? at h
  split at h
  · cases h
  · rename_i other found hfilter
    cases h
    have hmem : (other, member) ∈ (readMembers members).filter fun member => member.1 = name := by
      rw [hfilter]
      exact List.mem_singleton_self _
    obtain ⟨hmem, hname⟩ := List.mem_filter.1 hmem
    rw [readMembers_eq_map] at hmem
    obtain ⟨entry, hentry, heq⟩ := List.mem_map.1 hmem
    obtain ⟨hkey, rfl⟩ := Prod.mk.inj heq
    have hname : entry.1 = name := hkey.trans (of_decide_eq_true hname)
    exact ⟨entry.2, hname ▸ hentry, by rw [hname]⟩
  · cases h

theorem requiredMember?_eq_some {α : Type} {name : String} {read : Member → Option α} {result : α}
    (h : requiredMember? (readMembers members) name read = some result) :
    ∃ json, (name, json) ∈ members ∧ read (readMember name json) = some result := by
  obtain ⟨found, hfound, h⟩ := Option.bind_eq_some_iff.1 h
  cases found with
  | none => cases h
  | some member =>
      obtain ⟨json, hmem, rfl⟩ := mem_of_member? hfound
      exact ⟨json, hmem, h⟩

theorem optionalMember?_eq_some {α : Type} {name : String} {absent : α} {read : Member → Option α}
    {result : α} (h : optionalMember? (readMembers members) name absent read = some result) :
    result = absent ∨ ∃ json, (name, json) ∈ members ∧ read (readMember name json) = some result := by
  obtain ⟨found, hfound, h⟩ := Option.bind_eq_some_iff.1 h
  cases found with
  | none => exact .inl (Option.some.inj h).symm
  | some member =>
      obtain ⟨json, hmem, rfl⟩ := mem_of_member? hfound
      exact .inr ⟨json, hmem, h⟩

/-- The options that are read for a value are those of the settled value. -/
theorem object_of_optionsOfJson? {json : Json} {options : Options}
    (h : optionsOfJson? json = some options) : Json.object options = json.settle := by
  cases json with
  | object members =>
      cases h
      rfl
  | _ => cases h

theorem regular_of_optionsOfJson? (hsized : Json.SizedMembers members) {name : String}
    {options : Options} (h : optionalMember? (readMembers members) name []
      (fun m => optionsOfJson? m.json) = some options) :
    (Json.object options).WellFormed ∧
      (options ≠ [] → (Json.object options).depth ≤ Json.depthMembers members) := by
  rcases optionalMember?_eq_some h with rfl | ⟨json, hmem, hread⟩
  · exact ⟨⟨.nil, trivial⟩, fun hne => absurd rfl hne⟩
  · rw [readMember_json] at hread
    rw [object_of_optionsOfJson? hread]
    refine ⟨Json.wellFormed_settle (Json.sizedMembers_iff.1 hsized _ hmem), fun _ => ?_⟩
    exact Nat.le_trans (Json.depth_settle_le json)
      (Json.depthMembers_le_iff.1 (Nat.le_refl _) _ hmem)

theorem regular_of_annotationsOf? (hsized : Json.SizedMembers members) {notes : Annotations}
    (h : annotationsOf? (readMembers members) = some notes) :
    notes.Regular ∧
      (notes.attributes ≠ [] → (Json.object notes.attributes).depth ≤ Json.depthMembers members) ∧
      (notes.constraints ≠ [] →
        (Json.object notes.constraints).depth ≤ Json.depthMembers members) := by
  unfold annotationsOf? at h
  simp only [Option.bind_eq_bind, Option.bind_eq_some_iff, Option.pure_def, Option.some.injEq] at h
  obtain ⟨optional, -, attributes, hattributes, constraints, hconstraints, rfl⟩ := h
  obtain ⟨hattributes, hdepth⟩ := regular_of_optionsOfJson? hsized hattributes
  obtain ⟨hconstraints, hdepth'⟩ := regular_of_optionsOfJson? hsized hconstraints
  exact ⟨⟨hattributes, hconstraints⟩, hdepth, hdepth'⟩

theorem depth_names_le {names : List String} {limit : Nat} (h : 1 ≤ limit) :
    (Json.array (names.map Json.string)).depth ≤ limit := by
  have hdepth : Json.depthList (names.map Json.string) ≤ 0 := by
    refine Json.depthList_le_iff.2 fun item hmem => ?_
    obtain ⟨name, -, rfl⟩ := List.mem_map.1 hmem
    exact Nat.le_refl _
  rw [Json.depth]
  omega

/-- A declared set is read from an array, which nests at least once. -/
theorem depth_of_requiredOf? {json : Json} {names : NameSet}
    (h : requiredOf? { json } = some (some names)) : 1 ≤ json.depth := by
  cases json with
  | array items => exact Nat.succ_le_succ (Nat.zero_le _)
  | null => cases h
  | _ => cases h

theorem ofRaw?_of_targetOf? {json : Json} {target : Description}
    (h : targetOf? (readMember "target" json) = some (some target)) :
    ofRaw? false json = some target := by
  have hmember : readMember "target" json = { json, node := ofRaw? false json } := rfl
  rw [hmember] at h
  cases json with
  | null => cases h
  | _ => simpa [targetOf?, Option.map_eq_some_iff] using h

/-! ### Nodes -/

/-- What is read from the value as a node, or as the nodes of properties, is regular and printed no
deeper than the value nests. -/
structure YieldsRegular (json : Json) : Prop where
  node : ∀ node, ofRaw? false json = some node → RegularWithin json.depth node
  nodes : ∀ nodes, propertiesOfRaw? json = some nodes → ∃ inner, json = .object inner ∧
    ∀ entry ∈ nodes, RegularWithin (Json.depthMembers inner) entry.2

private theorem regularProperties_iff {properties : List (String × Description)} :
    RegularProperties properties ↔ ∀ entry ∈ properties, entry.2.Regular := by
  induction properties with
  | nil => simp [RegularProperties]
  | cons entry rest ih => rw [RegularProperties, ih, List.forall_mem_cons]

private theorem depth_propertiesToMembers {properties : List (String × Description)} {limit : Nat}
    (h : ∀ entry ∈ properties, entry.2.toJson.depth ≤ limit) :
    Json.depthMembers (propertiesToMembers properties) ≤ limit := by
  induction properties with
  | nil => exact Nat.zero_le _
  | cons entry rest ih =>
      rw [List.forall_mem_cons] at h
      exact Nat.max_le.2 ⟨h.1, ih h.2⟩

/-- A node that members make up is regular, if what they yield is. -/
theorem regular_of_madeOf {outermost : Bool} {node : Description}
    (hsized : Json.SizedMembers members) (hmembers : ∀ member ∈ members, YieldsRegular member.2)
    (h : MadeOf outermost (readMembers members) node) :
    RegularWithin (Json.object members).depth node := by
  obtain ⟨-, hnotes, hparts⟩ := h
  obtain ⟨hregular, hattributes, hconstraints⟩ := regular_of_annotationsOf? hsized hnotes
  have hinside : ∀ member ∈ members, member.2.depth ≤ Json.depthMembers members :=
    Json.depthMembers_le_iff.1 (Nat.le_refl _)
  have hdepth : HoldsOfParts (fun json => json.depth ≤ Json.depthMembers members) node →
      node.toJson.depth ≤ (Json.object members).depth := by
    intro hholds
    rw [toJson_eq, Json.depth, Json.depth]
    refine Nat.succ_le_succ (Json.depthMembers_le_iff.2 ?_)
    exact forall_toMembers (fun _ => Nat.zero_le _) (fun _ => Nat.zero_le _) hholds
  cases node with
  | scalar kind notes => exact ⟨hregular, hdepth ⟨hattributes, hconstraints, trivial⟩⟩
  | object shape =>
      obtain ⟨properties, required, welcome, notes⟩ := shape
      obtain ⟨⟨found, hfound, rfl⟩, hrequired, -⟩ := hparts
      obtain ⟨json, hmem, hread⟩ := requiredMember?_eq_some hfound
      obtain ⟨inner, hinner, hnodes⟩ := (hmembers _ hmem).nodes found hread
      have hnodes : ∀ entry ∈ Entries.ofList found,
          RegularWithin (Json.depthMembers inner) entry.2 :=
        fun entry hentry => hnodes entry (Entries.mem_of_mem_ofList hentry)
      refine ⟨⟨Entries.distinct_ofList found,
        regularProperties_iff.2 fun entry hentry => (hnodes entry hentry).regular, hregular⟩,
        hdepth ⟨hattributes, hconstraints, ?_, ?_⟩⟩
      · have hproperties := depth_propertiesToMembers fun entry hentry => (hnodes entry hentry).depth
        refine Nat.le_trans ?_ (hinside _ hmem)
        rw [hinner]
        exact Nat.succ_le_succ hproperties
      · rintro names rfl
        obtain hnone | ⟨json, hmem, hread⟩ := optionalMember?_eq_some hrequired
        · cases hnone
        · exact depth_names_le (Nat.le_trans (depth_of_requiredOf? hread) (hinside _ hmem))
  | array items notes =>
      obtain ⟨json, hmem, hread⟩ := requiredMember?_eq_some hparts
      have hitems : RegularWithin json.depth items := (hmembers _ hmem).node items hread
      exact ⟨⟨hitems.regular, hregular⟩,
        hdepth ⟨hattributes, hconstraints, Nat.le_trans hitems.depth (hinside _ hmem)⟩⟩
  | dictionary values keyOptions notes =>
      obtain ⟨hvalues, hkeyOptions⟩ := hparts
      obtain ⟨json, hmem, hread⟩ := requiredMember?_eq_some hvalues
      have hvalues : RegularWithin json.depth values := (hmembers _ hmem).node values hread
      obtain ⟨hoptions, hkeys⟩ := regular_of_optionsOfJson? hsized hkeyOptions
      exact ⟨⟨hvalues.regular, hoptions, hregular⟩,
        hdepth ⟨hattributes, hconstraints, Nat.le_trans hvalues.depth (hinside _ hmem), hkeys⟩⟩
  | reference target collection many notes =>
      obtain ⟨htarget, -, -⟩ := hparts
      rcases optionalMember?_eq_some htarget with rfl | ⟨json, hmem, hread⟩
      · refine ⟨⟨trivial, hregular⟩, hdepth ⟨hattributes, hconstraints, ?_⟩⟩
        rintro _ ⟨⟩
      · cases target with
        | none =>
            refine ⟨⟨trivial, hregular⟩, hdepth ⟨hattributes, hconstraints, ?_⟩⟩
            rintro _ ⟨⟩
        | some target =>
            have htarget : RegularWithin json.depth target :=
              (hmembers _ hmem).node target (ofRaw?_of_targetOf? hread)
            refine ⟨⟨htarget.regular, hregular⟩, hdepth ⟨hattributes, hconstraints, ?_⟩⟩
            rintro _ ⟨⟩
            exact Nat.le_trans htarget.depth (hinside _ hmem)

mutual

/-- A node that is read is regular and printed no deeper than what it was read from. -/
theorem regular_of_ofRaw? : ∀ {raw : Json} {outermost : Bool} {node : Description}, raw.Sized →
    ofRaw? outermost raw = some node → RegularWithin raw.depth node
  | .object members, _, _, hsized, h => by
      rw [ofRaw?, ofMembers?_eq_some_iff] at h
      exact regular_of_madeOf hsized (yieldsRegular_of_members hsized) h
  | .null, _, _, _, h => by cases h
  | .bool _, _, _, _, h => by cases h
  | .number _, _, _, _, h => by cases h
  | .string _, _, _, _, h => by cases h
  | .array _, _, _, _, h => by cases h

theorem yieldsRegular_of_members : ∀ {members : List (String × Json)}, Json.SizedMembers members →
    ∀ member ∈ members, YieldsRegular member.2
  | [], _, _, hmem => by cases hmem
  | (name, json) :: rest, hsized, member, hmem => by
      rcases List.mem_cons.1 hmem with rfl | hmem
      · exact ⟨fun _ h => regular_of_ofRaw? hsized.1 h,
          fun _ h => regular_of_propertiesOfRaw? hsized.1 h⟩
      · exact yieldsRegular_of_members hsized.2 member hmem

theorem regular_of_propertiesOfRaw? : ∀ {json : Json} {nodes : List (String × Description)},
    json.Sized → propertiesOfRaw? json = some nodes → ∃ inner, json = .object inner ∧
      ∀ entry ∈ nodes, RegularWithin (Json.depthMembers inner) entry.2
  | .object members, nodes, hsized, h => ⟨members, rfl, regular_of_nodesOfRaw? hsized h⟩
  | .null, _, _, h => by cases h
  | .bool _, _, _, h => by cases h
  | .number _, _, _, h => by cases h
  | .string _, _, _, h => by cases h
  | .array _, _, _, h => by cases h

theorem regular_of_nodesOfRaw? : ∀ {members : List (String × Json)}
    {nodes : List (String × Description)}, Json.SizedMembers members →
      nodesOfRaw? members = some nodes →
        ∀ entry ∈ nodes, RegularWithin (Json.depthMembers members) entry.2
  | [], _, _, h, entry, hmem => by
      cases h
      cases hmem
  | (name, json) :: rest, nodes, hsized, h, entry, hmem => by
      rw [nodesOfRaw?] at h
      split at h
      · rename_i node others hnode hothers
        cases h
        rcases List.mem_cons.1 hmem with rfl | hmem
        · obtain ⟨hregular, hdepth⟩ := regular_of_ofRaw? hsized.1 hnode
          exact ⟨hregular, Nat.le_trans hdepth (Nat.le_max_left ..)⟩
        · obtain ⟨hregular, hdepth⟩ := regular_of_nodesOfRaw? hsized.2 hothers entry hmem
          exact ⟨hregular, Nat.le_trans hdepth (Nat.le_max_right ..)⟩
      · cases h

end

/-- A description that is read from a text is regular, and its own text nests within the limit. -/
theorem regular_of_read {text : String} {node : Description} (h : read text = .ok node) :
    RegularWithin Json.nestingLimit node := by
  unfold read at h
  split at h
  · rename_i raw hraw
    split at h
    · rename_i found hfound
      cases h
      obtain ⟨hdepth, hsized⟩ := Json.bounded_of_readRaw hraw
      obtain ⟨hregular, hprinted⟩ := regular_of_ofRaw? hsized hfound
      exact ⟨hregular, Nat.le_trans hprinted hdepth⟩
    · cases h
  · split at h
    · cases h
    · split at h <;> cases h

/-- Descriptions survive their JSON text. A regular node whose JSON nests within the limit is read
back from its text, and so is every node that was read from any text. The numbers among the options
are taken to be read back from their digits. -/
theorem read_text_of_read :
    (∀ node : Description, node.Regular → node.toJson.Legible →
      node.toJson.depth ≤ Json.nestingLimit → read node.toJson.text = .ok node) ∧
    ∀ text node, read text = .ok node → node.toJson.Legible → read node.toJson.text = .ok node := by
  refine ⟨fun node => read_text, fun text node h hlegible => ?_⟩
  obtain ⟨hregular, hdepth⟩ := regular_of_read h
  exact read_text hregular hlegible hdepth

end Description

namespace Sample

/-- A description with every kind of node. -/
def library : Description :=
  .object
    { properties :=
        [("title", .scalar .string { constraints := [("maxlength", .ofNat 80)] }),
         ("tags", .array (.scalar .string {}) { optional := true }),
         ("shelf", .dictionary (.scalar .number {}) [("pattern", .string "^[a-z]+$")]
           { attributes := [("note", .object [("b", .null), ("a", .array [.bool true])])] }),
         ("owner", .reference (some (.scalar .string {})) "users" true {})],
      required := some (NameSet.ofNames ["title", "owner"]),
      additionalProperties := false,
      annotations := {} }

theorem regular_library : library.Regular := by
  have hlength : (Json.ofNat 80).WellFormed := by
    simp only [Json.ofNat, Json.WellFormed, Numeral.Fits]
    omega
  refine ⟨?_, ⟨⟨⟨.nil, trivial⟩, ?_, hlength, trivial⟩, ⟨⟨⟨.nil, trivial⟩, ⟨.nil, trivial⟩⟩,
    ⟨.nil, trivial⟩, ⟨.nil, trivial⟩⟩, ⟨⟨⟨.nil, trivial⟩, ⟨.nil, trivial⟩⟩, ⟨?_, trivial, trivial⟩,
    ⟨?_, ⟨?_, trivial, ⟨trivial, trivial⟩, trivial⟩, trivial⟩, ⟨.nil, trivial⟩⟩,
    ⟨⟨⟨.nil, trivial⟩, ⟨.nil, trivial⟩⟩, ⟨.nil, trivial⟩, ⟨.nil, trivial⟩⟩, trivial⟩,
    ⟨.nil, trivial⟩, ⟨.nil, trivial⟩⟩
  all_goals simp [Entries.Distinct, Entries.names]

theorem legible_library : library.toJson.Legible := by cbv

theorem depth_library : library.toJson.depth ≤ Json.nestingLimit := by decide +kernel

/-- A text that says more of a node than its kind knows, and what goes without saying. -/
def handwritten : String :=
  "\x7b \"kind\": \"array\", \"colour\": 1, \"optional\": false,\n"
    ++ " \"items\": \x7b \"type\": \"number\", \"kind\": 0 \x7d \x7d"

theorem read_handwritten :
    Description.read handwritten = .ok (.array (.scalar .number {}) {}) := by cbv

end Sample

namespace Description

theorem read_text_library :
    read Sample.library.toJson.text = .ok Sample.library ∧
      read (Description.array (.scalar .number {}) {}).toJson.text
        = .ok (.array (.scalar .number {}) {}) := by
  obtain ⟨hprinted, hread⟩ := read_text_of_read
  exact ⟨hprinted _ Sample.regular_library Sample.legible_library Sample.depth_library,
    hread _ _ Sample.read_handwritten (by cbv)⟩

end Description

end TypedCollections
