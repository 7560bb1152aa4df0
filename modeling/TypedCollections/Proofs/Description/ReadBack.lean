import TypedCollections.Description.Printer
import TypedCollections.Description.Reader
import TypedCollections.Proofs.Json.ReadBack
import TypedCollections.Proofs.SortedMap
/-!
# Descriptions read back

A description is printed without what is absent, false or empty, apart from two members of objects.
The reader fills in what is missing, and not the same everywhere: an object is taken to welcome more,
everything else to be absent, false or empty. What was printed is read back as it was, for every kind
of node and at every depth.
-/

namespace TypedCollections

/-- The annotations are proper options: no name stands twice, and their values are well-formed. -/
structure Annotations.Regular (notes : Annotations) : Prop where
  attributes : (Json.object notes.attributes).WellFormed
  constraints : (Json.object notes.constraints).WellFormed

namespace Description

mutual

/-- No name stands twice among the properties and the options, and the values of options are
well-formed. -/
def Regular : Description → Prop
  | .scalar _ notes => notes.Regular
  | .object shape => RegularShape shape
  | .array items notes => Regular items ∧ notes.Regular
  | .dictionary values keyOptions notes =>
      Regular values ∧ (Json.object keyOptions).WellFormed ∧ notes.Regular
  | .reference target _ _ notes => RegularTarget target ∧ notes.Regular

/-- An object is regular. -/
def RegularShape : ObjectShape Description → Prop
  | ⟨properties, _, _, notes⟩ =>
      Entries.Distinct properties ∧ RegularProperties properties ∧ notes.Regular

/-- The target of a reference is regular, if there is one. -/
def RegularTarget : Option Description → Prop
  | none => True
  | some target => Regular target

/-- The nodes of all properties are regular. -/
def RegularProperties : List (String × Description) → Prop
  | [] => True
  | (_, node) :: rest => Regular node ∧ RegularProperties rest

end

/-! ### Nodes and their members -/

/-- The kind of a node, as the reader tells kinds apart. -/
def kind : Description → NodeKind
  | .scalar .. => .scalar
  | .object _ => .object
  | .array .. => .array
  | .dictionary .. => .dictionary
  | .reference .. => .reference

/-- The members are those of the node: each part of the node is what is read for its member. -/
def MadeOf (outermost : Bool) (members : List (String × Member)) (node : Description) : Prop :=
  requiredMember? members "kind" (fun m => NodeKind.ofJson? outermost m.json) = some node.kind ∧
  annotationsOf? members = some node.annotations ∧
  match node with
  | .scalar kind _ => requiredMember? members "type" (fun m => scalarKindOfJson? m.json) = some kind
  | .object ⟨properties, required, welcome, _⟩ =>
      (∃ found, requiredMember? members "properties" (fun m => m.nodes) = some found ∧
        properties = Entries.ofList found) ∧
      optionalMember? members "required" none requiredOf? = some required ∧
      optionalMember? members "additionalProperties" true (fun m => m.json.bool?) = some welcome
  | .array items _ => requiredMember? members "items" (fun m => m.node) = some items
  | .dictionary values keyOptions _ =>
      requiredMember? members "values" (fun m => m.node) = some values ∧
      optionalMember? members "keyOptions" [] (fun m => optionsOfJson? m.json) = some keyOptions
  | .reference target collection many _ =>
      optionalMember? members "target" none targetOf? = some target ∧
      requiredMember? members "collection" (fun m => m.json.string?) = some collection ∧
      optionalMember? members "many" false (fun m => m.json.bool?) = some many

theorem ofMembers?_eq_some_iff {outermost : Bool} {members : List (String × Member)}
    {node : Description} :
    ofMembers? outermost members = some node ↔ MadeOf outermost members node := by
  unfold ofMembers?
  constructor
  · intro h
    obtain ⟨kind, hkind, h⟩ := Option.bind_eq_some_iff.1 h
    cases kind <;>
      simp only [Option.bind_eq_bind, Option.bind_eq_some_iff, Option.pure_def,
        Option.some.injEq] at h
    · obtain ⟨kind, htype, notes, hnotes, rfl⟩ := h
      exact ⟨hkind, hnotes, htype⟩
    · obtain ⟨properties, hproperties, required, hrequired, welcome, hwelcome, notes, hnotes, rfl⟩ :=
        h
      exact ⟨hkind, hnotes, ⟨properties, hproperties, rfl⟩, hrequired, hwelcome⟩
    · obtain ⟨items, hitems, notes, hnotes, rfl⟩ := h
      exact ⟨hkind, hnotes, hitems⟩
    · obtain ⟨values, hvalues, keyOptions, hkeyOptions, notes, hnotes, rfl⟩ := h
      exact ⟨hkind, hnotes, hvalues, hkeyOptions⟩
    · obtain ⟨target, htarget, collection, hcollection, many, hmany, notes, hnotes, rfl⟩ := h
      exact ⟨hkind, hnotes, htarget, hcollection, hmany⟩
  · intro h
    obtain ⟨hkind, hnotes, hparts⟩ := h
    rw [hkind, hnotes]
    cases node with
    | scalar kind notes =>
        rw [show requiredMember? members "type" (fun m => scalarKindOfJson? m.json) = some kind from
          hparts]
        rfl
    | object shape =>
        obtain ⟨properties, required, welcome, notes⟩ := shape
        obtain ⟨⟨found, hfound, rfl⟩, hrequired, hwelcome⟩ := hparts
        simp only [hfound, hrequired, hwelcome]
        rfl
    | array items notes =>
        rw [show requiredMember? members "items" (fun m => m.node) = some items from hparts]
        rfl
    | dictionary values keyOptions notes =>
        obtain ⟨hvalues, hkeyOptions⟩ := hparts
        simp only [hvalues, hkeyOptions]
        rfl
    | reference target collection many notes =>
        obtain ⟨htarget, hcollection, hmany⟩ := hparts
        simp only [htarget, hcollection, hmany]
        rfl

/-! ### Members -/

/-- What is read for a member of a node. -/
def readMember (name : String) (json : Json) : Member :=
  if name = "items" ∨ name = "values" ∨ name = "target" then { json, node := ofRaw? false json }
  else if name = "properties" then { json, nodes := propertiesOfRaw? json }
  else { json }

theorem readMembers_eq_map (members : List (String × Json)) :
    readMembers members = members.map fun member => (member.1, readMember member.1 member.2) := by
  induction members with
  | nil => rfl
  | cons member rest ih =>
      obtain ⟨name, json⟩ := member
      rw [readMembers, ih]
      rfl

theorem names_readMembers (members : List (String × Json)) :
    Entries.names (readMembers members) = Entries.names members := by
  rw [readMembers_eq_map, Entries.names, List.map_map]
  rfl

@[simp] theorem readMember_json (name : String) (json : Json) :
    (readMember name json).json = json := by
  unfold readMember
  split
  · rfl
  · split <;> rfl

/-- A member that stands once, or not at all, is found. -/
theorem member?_of_distinct {members : List (String × Member)} (h : Entries.Distinct members)
    (name : String) : member? members name = some (Entries.find? members name) := by
  induction members with
  | nil => rfl
  | cons head rest ih =>
      simp only [Entries.Distinct, Entries.names, List.map_cons, List.nodup_cons] at h
      rw [Entries.find?_cons]
      split
      · rename_i hname
        have hrest : (rest.filter fun member => member.1 = name) = [] := by
          refine List.filter_eq_nil_iff.2 fun member hmem hsame => h.1 ?_
          rw [hname, ← of_decide_eq_true hsame]
          exact List.mem_map_of_mem hmem
        rw [member?, List.filter_cons_of_pos (by simpa using hname), hrest]
      · rename_i hname
        rw [← ih h.2, member?, List.filter_cons_of_neg (by simpa using hname)]
        rfl

theorem find?_readMembers (members : List (String × Json)) (name : String) :
    Entries.find? (readMembers members) name
      = (Entries.find? members name).map (readMember name) := by
  induction members with
  | nil => rfl
  | cons head rest ih =>
      rw [readMembers_eq_map] at ih ⊢
      rw [List.map_cons, Entries.find?_cons, Entries.find?_cons, ih]
      split
      · rename_i hname
        rw [← hname]
        rfl
      · rfl

theorem member?_readMembers {members : List (String × Json)} (h : Entries.Distinct members)
    (name : String) :
    member? (readMembers members) name
      = some ((Entries.find? members name).map (readMember name)) := by
  have hdistinct : Entries.Distinct (readMembers members) := by
    rw [Entries.Distinct, names_readMembers]
    exact h
  rw [member?_of_distinct hdistinct, find?_readMembers]

theorem requiredMember?_readMembers {α : Type} {members : List (String × Json)}
    (h : Entries.Distinct members) (name : String) (read : Member → Option α) :
    requiredMember? (readMembers members) name read
      = (Entries.find? members name).bind fun json => read (readMember name json) := by
  rw [requiredMember?, member?_readMembers h]
  cases Entries.find? members name <;> rfl

theorem optionalMember?_readMembers {α : Type} {members : List (String × Json)}
    (h : Entries.Distinct members) (name : String) (absent : α) (read : Member → Option α) :
    optionalMember? (readMembers members) name absent read
      = (Entries.find? members name).elim (some absent) fun json => read (readMember name json) := by
  rw [optionalMember?, member?_readMembers h]
  cases Entries.find? members name <;> rfl

theorem find?_append {α : Type} (front back : List (String × α)) (name : String) :
    Entries.find? (front ++ back) name
      = (Entries.find? front name).or (Entries.find? back name) := by
  induction front with
  | nil => rfl
  | cons head rest ih =>
      rw [List.cons_append, Entries.find?_cons, Entries.find?_cons, ih]
      split <;> rfl

theorem find?_memberIf (condition : Bool) (name other : String) (json : Json) :
    Entries.find? (memberIf condition name json) other
      = if name = other then if condition then some json else none else none := by
  cases condition <;> simp [memberIf, Entries.find?_cons]

/-! ### Annotations -/

theorem names_memberIf (condition : Bool) (name : String) (json : Json) :
    (Entries.names (memberIf condition name json)).Sublist [name] := by
  cases condition
  · exact List.nil_sublist _
  · exact List.Sublist.refl _

theorem names_toMembers (notes : Annotations) :
    (Entries.names notes.toMembers).Sublist ["optional", "attributes", "constraints"] := by
  unfold Annotations.toMembers
  rw [Entries.names, List.map_append, List.map_append]
  exact ((names_memberIf ..).append (names_memberIf ..)).append (names_memberIf ..)

theorem optionsOfJson?_object {options : Options} (h : (Json.object options).WellFormed) :
    optionsOfJson? (.object options) = some options := by
  rw [optionsOfJson?, Json.settleMembers_eq_self h.2, Entries.ofList_eq_self h.1]

/-! ### The members of a node -/

/-- The members that a node is printed with. -/
def toMembers : Description → List (String × Json)
  | scalar kind notes =>
      ("kind", .string "scalar") :: ("type", .string kind.name) :: notes.toMembers
  | object ⟨properties, required, additionalProperties, notes⟩ =>
      ("kind", .string "object") :: ("properties", .object (propertiesToMembers properties)) ::
        (NameSet.toMembers required ++ ("additionalProperties", .bool additionalProperties) ::
          notes.toMembers)
  | array items notes => ("kind", .string "array") :: ("items", toJson items) :: notes.toMembers
  | dictionary values keyOptions notes =>
      ("kind", .string "dictionary") :: ("values", toJson values) ::
        (memberIf (!keyOptions.isEmpty) "keyOptions" (.object keyOptions) ++ notes.toMembers)
  | reference target collection many notes =>
      ("kind", .string "reference") ::
        (targetToMembers target ++ ("collection", .string collection) ::
          (memberIf many "many" (.bool true) ++ notes.toMembers))

theorem toJson_eq (node : Description) : node.toJson = .object node.toMembers := by
  cases node with
  | object shape =>
      obtain ⟨properties, required, welcome, notes⟩ := shape
      rfl
  | _ => rfl

private theorem names_required (required : Option NameSet) :
    (Entries.names (NameSet.toMembers required)).Sublist ["required"] := by
  cases required
  · exact List.nil_sublist _
  · exact List.Sublist.refl _

private theorem names_target (target : Option Description) :
    (Entries.names (targetToMembers target)).Sublist ["target"] := by
  cases target
  · exact List.nil_sublist _
  · exact List.Sublist.refl _

/-- No member of a node is printed twice. -/
theorem distinct_toMembers (node : Description) : Entries.Distinct node.toMembers := by
  cases node with
  | scalar kind notes =>
      have hnames := ((names_toMembers notes).cons_cons "type").cons_cons "kind"
      exact hnames.nodup (by decide)
  | object shape =>
      obtain ⟨properties, required, welcome, notes⟩ := shape
      have hnames := (((names_required required).append
        ((names_toMembers notes).cons_cons "additionalProperties")).cons_cons
          "properties").cons_cons "kind"
      rw [Entries.Distinct, toMembers, Entries.names, List.map_cons, List.map_cons, List.map_append]
      exact hnames.nodup (by decide)
  | array items notes =>
      have hnames := ((names_toMembers notes).cons_cons "items").cons_cons "kind"
      exact hnames.nodup (by decide)
  | dictionary values keyOptions notes =>
      have hnames := (((names_memberIf (!keyOptions.isEmpty) "keyOptions"
        (.object keyOptions)).append (names_toMembers notes)).cons_cons "values").cons_cons "kind"
      rw [Entries.Distinct, toMembers, Entries.names, List.map_cons, List.map_cons, List.map_append]
      exact hnames.nodup (by decide)
  | reference target collection many notes =>
      have hnames := ((names_target target).append (((names_memberIf many "many"
        (.bool true)).append (names_toMembers notes)).cons_cons "collection")).cons_cons "kind"
      rw [Entries.Distinct, toMembers, Entries.names, List.map_cons, List.map_append, List.map_cons,
        List.map_append]
      exact hnames.nodup (by decide)

theorem find?_required (required : Option NameSet) (name : String) :
    Entries.find? (NameSet.toMembers required) name
      = if "required" = name then required.map fun names => .array (names.keys.map Json.string)
        else none := by
  cases required <;> simp [NameSet.toMembers, Entries.find?_cons]

theorem find?_target (target : Option Description) (name : String) :
    Entries.find? (targetToMembers target) name
      = if "target" = name then target.map toJson else none := by
  cases target <;> simp [targetToMembers, Entries.find?_cons]

theorem find?_annotations (node : Description) {name : String}
    (hname : name = "optional" ∨ name = "attributes" ∨ name = "constraints") :
    Entries.find? node.toMembers name = Entries.find? node.annotations.toMembers name := by
  have hne : "kind" ≠ name ∧ "type" ≠ name ∧ "properties" ≠ name ∧ "required" ≠ name ∧
      "additionalProperties" ≠ name ∧ "items" ≠ name ∧ "values" ≠ name ∧ "keyOptions" ≠ name ∧
      "target" ≠ name ∧ "collection" ≠ name ∧ "many" ≠ name := by
    rcases hname with rfl | rfl | rfl <;> decide
  cases node with
  | object shape =>
      obtain ⟨properties, required, welcome, notes⟩ := shape
      simp [toMembers, annotations, Entries.find?_cons, find?_append, find?_required, hne]
  | _ =>
      simp [toMembers, annotations, Entries.find?_cons, find?_append, find?_memberIf, find?_target,
        hne]

/-- A mark that is left out if it is not set is read back. -/
theorem bool?_of_mark (mark : Bool) :
    ((if mark then some (Json.bool true) else none).elim (some false) Json.bool?) = some mark := by
  cases mark <;> rfl

/-- Options that are left out if there are none are read back. -/
theorem optionsOfJson?_of_some {options : Options} (h : (Json.object options).WellFormed) :
    ((if !options.isEmpty then some (Json.object options) else none).elim (some [])
      optionsOfJson?) = some options := by
  cases options with
  | nil => rfl
  | cons option rest => exact optionsOfJson?_object h

theorem annotationsOf?_toMembers {node : Description} (h : node.annotations.Regular) :
    annotationsOf? (readMembers node.toMembers) = some node.annotations := by
  unfold annotationsOf?
  simp only [optionalMember?_readMembers (distinct_toMembers node), readMember_json,
    find?_annotations node (.inl rfl), find?_annotations node (.inr (.inl rfl)),
    find?_annotations node (.inr (.inr rfl))]
  simp only [Annotations.toMembers, find?_append, find?_memberIf, String.reduceEq, if_true, if_false,
    Option.or_none, Option.none_or, bool?_of_mark, optionsOfJson?_of_some h.attributes,
    optionsOfJson?_of_some h.constraints]
  rfl

/-! ### Nodes -/

theorem requiredOf?_keys (names : NameSet) :
    requiredOf? { json := .array (names.keys.map Json.string) } = some (some names) := by
  have hnames : (names.keys.map Json.string).mapM Json.string? = some names.keys := by
    induction names.keys with
    | nil => rfl
    | cons name rest ih => rw [List.map_cons, List.mapM_cons, ih]; rfl
  show ((names.keys.map Json.string).mapM Json.string?).map _ = _
  rw [hnames, Option.map_some, NameSet.ofNames_keys]

theorem scalarKindOfName?_name (kind : ScalarKind) : scalarKindOfName? kind.name = some kind := by
  cases kind <;> rfl

/-- A target is printed as an object, so it is not taken for an absent one. -/
theorem targetOf?_toJson {target : Description} (h : ofRaw? false target.toJson = some target) :
    targetOf? (readMember "target" target.toJson) = some (some target) := by
  have hmember : readMember "target" target.toJson
      = { json := target.toJson, node := some target } := by
    rw [← h]
    rfl
  rw [hmember, toJson_eq]
  rfl

/-- What is read for the kind of a printed node. -/
private theorem kind_toMembers (outermost : Bool) (node : Description) :
    requiredMember? (readMembers node.toMembers) "kind" (fun m => NodeKind.ofJson? outermost m.json)
      = some node.kind := by
  rw [requiredMember?_readMembers (distinct_toMembers node)]
  cases node <;> rfl

mutual

/-- A printed node is read back. -/
theorem ofRaw?_toJson : ∀ {node : Description} (outermost : Bool), node.Regular →
    ofRaw? outermost node.toJson = some node
  | .scalar kind notes, outermost, h => by
      rw [toJson_eq, ofRaw?, ofMembers?_eq_some_iff]
      refine ⟨kind_toMembers .., annotationsOf?_toMembers h, ?_⟩
      simp only [requiredMember?_readMembers (distinct_toMembers _)]
      exact scalarKindOfName?_name kind
  | .object ⟨properties, required, welcome, notes⟩, outermost, h => by
      have hproperties : nodesOfRaw? (propertiesToMembers properties) = some properties :=
        nodesOfRaw?_propertiesToMembers h.2.1
      rw [toJson_eq, ofRaw?, ofMembers?_eq_some_iff]
      refine ⟨kind_toMembers .., annotationsOf?_toMembers h.2.2,
        ⟨properties, ?_, (Entries.ofList_eq_self h.1).symm⟩, ?_, ?_⟩
      · rw [requiredMember?_readMembers (distinct_toMembers _)]
        exact hproperties
      · rw [optionalMember?_readMembers (distinct_toMembers _)]
        cases required with
        | none =>
            simp [toMembers, NameSet.toMembers, Annotations.toMembers, Entries.find?_cons,
              find?_append, find?_memberIf]
        | some names => exact requiredOf?_keys names
      · rw [optionalMember?_readMembers (distinct_toMembers _)]
        simp [toMembers, Entries.find?_cons, find?_append, find?_required, Json.bool?]
  | .array items notes, outermost, h => by
      have hitems : ofRaw? false items.toJson = some items := ofRaw?_toJson false h.1
      rw [toJson_eq, ofRaw?, ofMembers?_eq_some_iff]
      refine ⟨kind_toMembers .., annotationsOf?_toMembers h.2, ?_⟩
      simp only [requiredMember?_readMembers (distinct_toMembers _)]
      exact hitems
  | .dictionary values keyOptions notes, outermost, h => by
      have hvalues : ofRaw? false values.toJson = some values := ofRaw?_toJson false h.1
      rw [toJson_eq, ofRaw?, ofMembers?_eq_some_iff]
      refine ⟨kind_toMembers .., annotationsOf?_toMembers h.2.2, ?_, ?_⟩
      · rw [requiredMember?_readMembers (distinct_toMembers _)]
        exact hvalues
      · have hfind : Entries.find? (toMembers (.dictionary values keyOptions notes)) "keyOptions"
            = if !keyOptions.isEmpty then some (.object keyOptions) else none := by
          simp [toMembers, Annotations.toMembers, Entries.find?_cons, find?_append, find?_memberIf]
        simp only [optionalMember?_readMembers (distinct_toMembers _), readMember_json, hfind]
        exact optionsOfJson?_of_some h.2.1
  | .reference target collection many notes, outermost, h => by
      rw [toJson_eq, ofRaw?, ofMembers?_eq_some_iff]
      refine ⟨kind_toMembers .., annotationsOf?_toMembers h.2, ?_, ?_, ?_⟩
      · rw [optionalMember?_readMembers (distinct_toMembers _)]
        cases target with
        | none =>
            simp [toMembers, targetToMembers, Annotations.toMembers, Entries.find?_cons,
              find?_append, find?_memberIf]
        | some target =>
            have htarget : ofRaw? false target.toJson = some target := ofRaw?_toJson false h.1
            exact targetOf?_toJson htarget
      · rw [requiredMember?_readMembers (distinct_toMembers _)]
        simp [toMembers, Entries.find?_cons, find?_append, find?_target, Json.string?]
      · have hfind : Entries.find? (toMembers (.reference target collection many notes)) "many"
            = if many then some (.bool true) else none := by
          simp [toMembers, Annotations.toMembers, Entries.find?_cons, find?_append, find?_memberIf,
            find?_target]
        simp only [optionalMember?_readMembers (distinct_toMembers _), readMember_json, hfind]
        exact bool?_of_mark many

theorem nodesOfRaw?_propertiesToMembers : ∀ {properties : List (String × Description)},
    RegularProperties properties → nodesOfRaw? (propertiesToMembers properties) = some properties
  | [], _ => rfl
  | (name, node) :: rest, h => by
      rw [propertiesToMembers, nodesOfRaw?, ofRaw?_toJson false h.1,
        nodesOfRaw?_propertiesToMembers h.2]

end

/-! ### What is printed -/

/-- The JSON values printed for the parts of a node have a property. The annotations and the options
of keys are printed only if there are any. -/
def HoldsOfParts (P : Json → Prop) (node : Description) : Prop :=
  (node.annotations.attributes ≠ [] → P (.object node.annotations.attributes)) ∧
  (node.annotations.constraints ≠ [] → P (.object node.annotations.constraints)) ∧
  match node with
  | .scalar .. => True
  | .object ⟨properties, required, _, _⟩ =>
      P (.object (propertiesToMembers properties)) ∧
      ∀ names, required = some names → P (.array (names.keys.map Json.string))
  | .array items _ => P items.toJson
  | .dictionary values keyOptions _ => P values.toJson ∧ (keyOptions ≠ [] → P (.object keyOptions))
  | .reference target _ _ _ => ∀ node, target = some node → P node.toJson

theorem forall_memberIf {P : Json → Prop} {condition : Bool} {name : String} {json : Json}
    (h : condition = true → P json) : ∀ member ∈ memberIf condition name json, P member.2 := by
  cases condition with
  | false =>
      intro member hmem
      cases hmem
  | true =>
      intro member hmem
      rw [List.mem_singleton.1 hmem]
      exact h rfl

private theorem forall_options {P : Json → Prop} {options : Options} {name : String}
    (h : options ≠ [] → P (.object options)) :
    ∀ member ∈ memberIf (!options.isEmpty) name (.object options), P member.2 := by
  refine forall_memberIf fun hcondition => h ?_
  rintro rfl
  cases hcondition

/-- What holds of texts, of truth values and of what the parts are printed as holds of every member
of a node. -/
theorem forall_toMembers {P : Json → Prop} {node : Description} (hstring : ∀ text, P (.string text))
    (hbool : ∀ truth, P (.bool truth)) (h : HoldsOfParts P node) :
    ∀ member ∈ node.toMembers, P member.2 := by
  obtain ⟨hattributes, hconstraints, hparts⟩ := h
  have hnotes : ∀ member ∈ node.annotations.toMembers, P member.2 := by
    intro member hmem
    rcases List.mem_append.1 hmem with hmem | hmem
    · rcases List.mem_append.1 hmem with hmem | hmem
      · exact forall_memberIf (fun _ => hbool true) member hmem
      · exact forall_options hattributes member hmem
    · exact forall_options hconstraints member hmem
  cases node with
  | scalar kind notes =>
      simp only [toMembers, List.forall_mem_cons]
      exact ⟨hstring _, hstring _, hnotes⟩
  | object shape =>
      obtain ⟨properties, required, welcome, notes⟩ := shape
      simp only [toMembers, List.forall_mem_cons, List.forall_mem_append]
      refine ⟨hstring _, hparts.1, ?_, hbool _, hnotes⟩
      cases required with
      | none =>
          intro member hmem
          cases hmem
      | some names =>
          intro member hmem
          rw [List.mem_singleton.1 hmem]
          exact hparts.2 names rfl
  | array items notes =>
      simp only [toMembers, List.forall_mem_cons]
      exact ⟨hstring _, hparts, hnotes⟩
  | dictionary values keyOptions notes =>
      simp only [toMembers, List.forall_mem_cons, List.forall_mem_append]
      exact ⟨hstring _, hparts.1, forall_options hparts.2, hnotes⟩
  | reference target collection many notes =>
      simp only [toMembers, List.forall_mem_cons, List.forall_mem_append]
      refine ⟨hstring _, ?_, hstring _, forall_memberIf fun _ => hbool true, hnotes⟩
      cases target with
      | none =>
          intro member hmem
          cases hmem
      | some target =>
          intro member hmem
          rw [List.mem_singleton.1 hmem]
          exact hparts target rfl

theorem names_propertiesToMembers (properties : List (String × Description)) :
    Entries.names (propertiesToMembers properties) = Entries.names properties := by
  induction properties with
  | nil => rfl
  | cons entry rest ih => exact congrArg (entry.1 :: ·) ih

theorem wellFormed_names (names : List String) :
    (Json.array (names.map Json.string)).WellFormed := by
  refine Json.wellFormedList_iff.2 fun item hmem => ?_
  obtain ⟨name, -, rfl⟩ := List.mem_map.1 hmem
  trivial

private theorem wellFormed_of_parts {node : Description}
    (h : HoldsOfParts Json.WellFormed node) : node.toJson.WellFormed := by
  rw [toJson_eq]
  exact ⟨distinct_toMembers node,
    Json.wellFormedMembers_iff.2 (forall_toMembers (fun _ => trivial) (fun _ => trivial) h)⟩

mutual

/-- A regular node is printed as a well-formed value. -/
theorem wellFormed_toJson : ∀ {node : Description}, node.Regular → node.toJson.WellFormed
  | .scalar _ _, h =>
      wellFormed_of_parts ⟨fun _ => h.attributes, fun _ => h.constraints, trivial⟩
  | .object ⟨properties, required, _, notes⟩, h => by
      refine wellFormed_of_parts
        ⟨fun _ => h.2.2.attributes, fun _ => h.2.2.constraints, ⟨?_, ?_⟩, fun _ _ => ?_⟩
      · rw [Entries.Distinct, names_propertiesToMembers]
        exact h.1
      · exact wellFormed_propertiesToMembers h.2.1
      · exact wellFormed_names _
  | .array items _, h => by
      have hitems : items.toJson.WellFormed := wellFormed_toJson h.1
      exact wellFormed_of_parts ⟨fun _ => h.2.attributes, fun _ => h.2.constraints, hitems⟩
  | .dictionary values _ _, h => by
      have hvalues : values.toJson.WellFormed := wellFormed_toJson h.1
      exact wellFormed_of_parts
        ⟨fun _ => h.2.2.attributes, fun _ => h.2.2.constraints, hvalues, fun _ => h.2.1⟩
  | .reference none _ _ _, h => by
      refine wellFormed_of_parts ⟨fun _ => h.2.attributes, fun _ => h.2.constraints, ?_⟩
      rintro _ ⟨⟩
  | .reference (some target) _ _ _, h => by
      have htarget : target.toJson.WellFormed := wellFormed_toJson h.1
      refine wellFormed_of_parts ⟨fun _ => h.2.attributes, fun _ => h.2.constraints, ?_⟩
      rintro _ ⟨⟩
      exact htarget

theorem wellFormed_propertiesToMembers : ∀ {properties : List (String × Description)},
    RegularProperties properties → Json.WellFormedMembers (propertiesToMembers properties)
  | [], _ => trivial
  | _ :: _, h => ⟨wellFormed_toJson h.1, wellFormed_propertiesToMembers h.2⟩

end

/-- The text of a node that nests within the limit is read back. -/
theorem read_text {node : Description} (hregular : node.Regular) (hlegible : node.toJson.Legible)
    (hdepth : node.toJson.depth ≤ Json.nestingLimit) : read node.toJson.text = .ok node := by
  have hraw : Json.readRaw ⟨Json.nestingLimit, none⟩ node.toJson.text = .ok node.toJson :=
    Json.readRaw_text Json.textRules (wellFormed_toJson hregular) hlegible hdepth
  rw [read, hraw]
  simp only [ofJson?, ofRaw?_toJson true hregular]

end Description

end TypedCollections
