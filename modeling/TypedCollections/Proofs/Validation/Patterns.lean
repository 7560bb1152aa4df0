import TypedCollections.Proofs.Entries
import TypedCollections.Proofs.Except
import TypedCollections.Validation.Patterns
/-!
# The patterns that are read

What reading the patterns of a definition comes across is listed here apart from the reading: every
option that writes a pattern, of every field at any depth. Reading goes through this list once. So
it succeeds exactly if every pattern of the list can be read, and it keeps the texts of the list,
each with the pattern read from it. In particular the patterns cover all fields of the definition.
-/

namespace TypedCollections

/-- What an array holds in the end, however deep arrays are nested. Another type stays as it is. -/
def FieldType.innermost : FieldType → FieldType
  | .array element => element.innermost
  | type => type

/-- The fields of a definition, at any depth: its own fields, the fields of the objects in them, and
the values of the maps in them. Objects and maps may stand inside arrays. -/
inductive Fields.HasField (definition : Fields) : Field → Prop where
  | own {name : String} {field : Field} (hmem : (name, field) ∈ definition) :
      HasField definition field
  | nested {outer field : Field} {name : String} {fields : Fields}
      (h : HasField definition outer) (htype : outer.type.innermost = .nested fields)
      (hmem : (name, field) ∈ fields) : HasField definition field
  | values {outer values : Field} (h : HasField definition outer)
      (htype : outer.type.innermost = .map values) : HasField definition values

/-- The field writes a pattern, for texts or for keys. -/
def FieldOf.WritesPattern (field : Field) (json : Json) : Prop :=
  field.option? matchOption = some json ∨ field.option? keyMatchOption = some json

/-- A field of the definition, at any depth, writes a pattern. -/
def Fields.DeclaresPattern (definition : Fields) (json : Json) : Prop :=
  ∃ field, definition.HasField field ∧ field.WritesPattern json

namespace Patterns

/-- The pattern of an option stands among the patterns, under the text it was read from. -/
def Covers (patterns : Patterns) (options : Options) (key : String) : Prop :=
  ∀ json, Entries.find? options key = some json → ∃ source pattern, json = .string source ∧
    Entries.find? patterns source = some pattern ∧ Pattern.read source = .ok pattern

mutual

/-- The patterns of every field inside a type are covered. -/
def CoversType (patterns : Patterns) : FieldType → Prop
  | .nested fields => CoversFields patterns fields
  | .array element => CoversType patterns element
  | .map values => CoversField patterns values
  | _ => True

/-- The patterns of a field and inside its type are covered. -/
def CoversField (patterns : Patterns) : FieldOf FieldType → Prop
  | ⟨type, _, _, options⟩ => Covers patterns options matchOption ∧
      Covers patterns options keyMatchOption ∧ CoversType patterns type

/-- The patterns of every field are covered. -/
def CoversFields (patterns : Patterns) : List (String × FieldOf FieldType) → Prop
  | [] => True
  | (_, field) :: rest => CoversField patterns field ∧ CoversFields patterns rest

end

/-- Every pattern was read from the text under which it stands. -/
def Read (patterns : Patterns) : Prop :=
  ∀ source pattern, Entries.find? patterns source = some pattern → Pattern.read source = .ok pattern

/-- The option is a text that writes a pattern. -/
def Readable (json : Json) : Prop :=
  ∃ source pattern, json = .string source ∧ Pattern.read source = .ok pattern

/-- The option is a text, and the pattern that it writes stands under it. -/
def Holds (patterns : Patterns) (json : Json) : Prop :=
  ∃ source pattern, json = .string source ∧ Entries.find? patterns source = some pattern ∧
    Pattern.read source = .ok pattern

/-- The patterns stand under the texts that are declared, once each, and are read from them. -/
structure KeepsExactly (declared : Json → Prop) (patterns : Patterns) : Prop where
  distinct : Entries.Distinct patterns
  read : Read patterns
  mem_names_iff : ∀ source, source ∈ Entries.names patterns ↔ declared (.string source)

/-! ### The options that are read -/

/-- The option under a key, if it is set. -/
def optionUnder (options : Options) (key : String) : List (String × Json) :=
  ((Entries.find? options key).map fun json => (key, json)).toList

/-- The options that write patterns. -/
def patternOptions (options : Options) : List (String × Json) :=
  optionUnder options matchOption ++ optionUnder options keyMatchOption

theorem mem_optionUnder_iff {options : Options} {key : String} {option : String × Json} :
    option ∈ optionUnder options key ↔
      option.1 = key ∧ Entries.find? options key = some option.2 := by
  rw [optionUnder, Option.mem_toList, Option.map_eq_some_iff]
  constructor
  · rintro ⟨json, hjson, rfl⟩
    exact ⟨rfl, hjson⟩
  · rintro ⟨rfl, hjson⟩
    exact ⟨option.2, hjson, rfl⟩

theorem mem_patternOptions_iff {options : Options} {option : String × Json} :
    option ∈ patternOptions options ↔
      (option.1 = matchOption ∨ option.1 = keyMatchOption) ∧
        Entries.find? options option.1 = some option.2 := by
  rw [patternOptions, List.mem_append, mem_optionUnder_iff, mem_optionUnder_iff]
  constructor
  · rintro (⟨hkey, hjson⟩ | ⟨hkey, hjson⟩)
    · exact ⟨.inl hkey, hkey ▸ hjson⟩
    · exact ⟨.inr hkey, hkey ▸ hjson⟩
  · rintro ⟨hkey | hkey, hjson⟩
    · exact .inl ⟨hkey, hkey ▸ hjson⟩
    · exact .inr ⟨hkey, hkey ▸ hjson⟩

mutual

/-- The options inside a type that write patterns, in the order in which they are read. -/
def optionsOfType : FieldType → List (String × Json)
  | .nested fields => optionsOfFields fields
  | .array element => optionsOfType element
  | .map values => optionsOfField values
  | _ => []

/-- The options of a field and inside its type that write patterns. -/
def optionsOfField : FieldOf FieldType → List (String × Json)
  | ⟨type, _, _, options⟩ => patternOptions options ++ optionsOfType type

/-- The options of fields that write patterns. -/
def optionsOfFields : List (String × FieldOf FieldType) → List (String × Json)
  | [] => []
  | (_, field) :: rest => optionsOfField field ++ optionsOfFields rest

end

/-! ### The options are those of every field -/

theorem optionsOfField_eq (field : Field) :
    optionsOfField field = patternOptions field.options ++ optionsOfType field.type := by
  obtain ⟨type, required, reference, options⟩ := field
  rfl

theorem optionsOfType_innermost : ∀ type : FieldType,
    optionsOfType type.innermost = optionsOfType type
  | .array element => by
      have helement : optionsOfType element.innermost = optionsOfType element :=
        optionsOfType_innermost element
      exact helement
  | .scalar _ => rfl
  | .objectId => rfl
  | .nested _ => rfl
  | .map _ => rfl

theorem optionsOfField_subset {fields : Fields} {name : String} {field : Field}
    (hmem : (name, field) ∈ fields) : optionsOfField field ⊆ optionsOfFields fields := by
  induction fields with
  | nil => cases hmem
  | cons head rest ih =>
      obtain ⟨other, declared⟩ := head
      rw [optionsOfFields]
      rcases List.mem_cons.1 hmem with heq | hmem
      · cases heq
        exact List.subset_append_left ..
      · exact List.Subset.trans (ih hmem) (List.subset_append_right ..)

theorem optionsOfField_subset_of_hasField {definition : Fields} {field : Field}
    (h : definition.HasField field) : optionsOfField field ⊆ optionsOfFields definition := by
  have hinner : ∀ field : Field, optionsOfType field.type.innermost ⊆ optionsOfField field := by
    intro field
    rw [optionsOfType_innermost, optionsOfField_eq]
    exact List.subset_append_right ..
  induction h with
  | own hmem => exact optionsOfField_subset hmem
  | @nested outer field _ fields _ htype hmem ih =>
      have houter := hinner outer
      rw [htype] at houter
      exact List.Subset.trans (List.Subset.trans (optionsOfField_subset hmem) houter) ih
  | @values outer values _ htype ih =>
      have houter := hinner outer
      rw [htype] at houter
      exact List.Subset.trans houter ih

/-- The type is that of a field of the definition, or of what its arrays hold. -/
def Occurs (definition : Fields) (type : FieldType) : Prop :=
  ∃ field, definition.HasField field ∧ field.type.innermost = type.innermost

mutual

theorem exists_of_mem_optionsOfType {definition : Fields} {option : String × Json} :
    ∀ {type : FieldType}, Occurs definition type → option ∈ optionsOfType type →
      ∃ field, definition.HasField field ∧ option ∈ patternOptions field.options
  | .nested _, ⟨_, hfield, htype⟩, hmem =>
      exists_of_mem_optionsOfFields (fun _ _ hinner => .nested hfield htype hinner) hmem
  | .array element, hoccurs, hmem => by
      have helement : Occurs definition element := hoccurs
      exact exists_of_mem_optionsOfType helement hmem
  | .map _, ⟨_, hfield, htype⟩, hmem =>
      exists_of_mem_optionsOfField (.values hfield htype) hmem

theorem exists_of_mem_optionsOfField {definition : Fields} {option : String × Json} :
    ∀ {field : FieldOf FieldType}, definition.HasField field → option ∈ optionsOfField field →
      ∃ field, definition.HasField field ∧ option ∈ patternOptions field.options
  | ⟨_, _, _, _⟩, hfield, hmem => by
      rcases List.mem_append.1 hmem with hmem | hmem
      · exact ⟨_, hfield, hmem⟩
      · exact exists_of_mem_optionsOfType ⟨_, hfield, rfl⟩ hmem

theorem exists_of_mem_optionsOfFields {definition : Fields} {option : String × Json} :
    ∀ {fields : List (String × FieldOf FieldType)},
      (∀ name field, (name, field) ∈ fields → definition.HasField field) →
        option ∈ optionsOfFields fields →
          ∃ field, definition.HasField field ∧ option ∈ patternOptions field.options
  | (name, field) :: _, hfields, hmem => by
      rcases List.mem_append.1 hmem with hmem | hmem
      · exact exists_of_mem_optionsOfField (hfields name field (List.mem_cons_self ..)) hmem
      · exact exists_of_mem_optionsOfFields
          (fun name field hinner => hfields name field (List.mem_cons_of_mem _ hinner)) hmem

end

theorem writesPattern_iff {field : Field} {json : Json} :
    field.WritesPattern json ↔ ∃ option ∈ patternOptions field.options, option.2 = json := by
  simp only [mem_patternOptions_iff, FieldOf.WritesPattern, FieldOf.option?]
  constructor
  · rintro (hjson | hjson)
    · exact ⟨(matchOption, json), ⟨.inl rfl, hjson⟩, rfl⟩
    · exact ⟨(keyMatchOption, json), ⟨.inr rfl, hjson⟩, rfl⟩
  · rintro ⟨⟨key, _⟩, ⟨rfl | rfl, hjson⟩, rfl⟩
    · exact .inl hjson
    · exact .inr hjson

/-- The patterns that a definition declares are those of the list. -/
theorem declaresPattern_iff {definition : Fields} {json : Json} :
    definition.DeclaresPattern json ↔ ∃ option ∈ optionsOfFields definition, option.2 = json := by
  simp only [Fields.DeclaresPattern, writesPattern_iff]
  constructor
  · rintro ⟨field, hfield, option, hmem, hjson⟩
    have hmem' : option ∈ optionsOfField field := by
      rw [optionsOfField_eq]
      exact List.mem_append_left _ hmem
    exact ⟨option, optionsOfField_subset_of_hasField hfield hmem', hjson⟩
  · rintro ⟨option, hmem, hjson⟩
    obtain ⟨field, hfield, hoption⟩ :=
      exists_of_mem_optionsOfFields (fun _ _ hinner => .own hinner) hmem
    exact ⟨field, hfield, option, hoption, hjson⟩

/-! ### Reading goes through the list -/

/-- Reads the pattern of an option unless its text was read before. -/
def readOption (patterns : Patterns) (option : String × Json) : Except SchemaFault Patterns :=
  addOption [option] option.1 patterns

theorem addOption_eq (options : Options) (key : String) (patterns : Patterns) :
    addOption options key patterns = (optionUnder options key).foldlM readOption patterns := by
  cases hjson : Entries.find? options key with
  | none => simp [addOption, optionUnder, hjson, pure, Except.pure]
  | some json => simp [addOption, optionUnder, readOption, hjson, Entries.find?_cons]

mutual

/-- The patterns inside a type are read by going through its options, one after the other. -/
theorem addType_eq : ∀ (type : FieldType) (patterns : Patterns),
    addType type patterns = (optionsOfType type).foldlM readOption patterns
  | .scalar _, _ => rfl
  | .objectId, _ => rfl
  | .nested fields, patterns => addFields_eq fields patterns
  | .array element, patterns => by
      have helement : addType element patterns
          = (optionsOfType element).foldlM readOption patterns := addType_eq element patterns
      exact helement
  | .map values, patterns => addField_eq values patterns

theorem addField_eq : ∀ (field : FieldOf FieldType) (patterns : Patterns),
    addField field patterns = (optionsOfField field).foldlM readOption patterns
  | ⟨type, _, _, options⟩, patterns => by
      have hkeyMatch : addOption options keyMatchOption = fun patterns =>
          (optionUnder options keyMatchOption).foldlM readOption patterns :=
        funext (addOption_eq options keyMatchOption)
      rw [optionsOfField, patternOptions, List.foldlM_append, List.foldlM_append, ← addOption_eq,
        addField, hkeyMatch]
      change _ = ((addOption options matchOption patterns).bind _).bind _
      cases (addOption options matchOption patterns).bind _ with
      | error fault => rfl
      | ok middle => exact addType_eq type middle

theorem addFields_eq : ∀ (fields : List (String × FieldOf FieldType)) (patterns : Patterns),
    addFields fields patterns = (optionsOfFields fields).foldlM readOption patterns
  | [], _ => rfl
  | (_, field) :: rest, patterns => by
      rw [optionsOfFields, List.foldlM_append, ← addField_eq field patterns, addFields]
      cases addField field patterns with
      | error fault => rfl
      | ok middle => exact addFields_eq rest middle

end

/-- Where nothing else is kept than what was read, an option is read exactly if it writes a pattern,
and the pattern is kept under its text. -/
theorem readOption_eq_ok_iff {patterns later : Patterns} {option : String × Json}
    (hread : Read patterns) :
    readOption patterns option = .ok later ↔ ∃ source pattern, option.2 = .string source ∧
      Pattern.read source = .ok pattern ∧ later = Entries.write patterns source pattern := by
  obtain ⟨key, json⟩ := option
  have hfind : Entries.find? [(key, json)] key = some json := by simp [Entries.find?_cons]
  simp only [readOption, addOption, hfind]
  cases json with
  | string source =>
      simp only [Json.string.injEq, exists_and_left, exists_eq_left']
      cases hfound : Entries.find? patterns source with
      | some kept =>
          -- What was read before is read again as the same, and writing it again changes nothing.
          have hsource := hread source kept hfound
          have hwrite := Entries.write_eq_self hfound
          simp [Entries.has, hfound, hsource, hwrite, eq_comm]
      | none =>
          cases hsource : Pattern.read source with
          | error fault => simp [Entries.has, hfound]
          | ok pattern => simp [Entries.has, hfound, eq_comm]
  | _ => simp

theorem KeepsExactly.write {declared : Json → Prop} {patterns : Patterns} {source : String}
    {pattern : Pattern} (h : KeepsExactly declared patterns)
    (hsource : Pattern.read source = .ok pattern) :
    KeepsExactly (fun json => declared json ∨ .string source = json)
      (Entries.write patterns source pattern) := by
  refine ⟨Entries.distinct_write h.distinct source pattern, ?_, fun other => ?_⟩
  · intro other found hfound
    rw [Entries.find?_write] at hfound
    split at hfound
    · rename_i heq
      cases hfound
      rw [← heq]
      exact hsource
    · exact h.read other found hfound
  · rw [Entries.mem_names_write, h.mem_names_iff, or_comm, Json.string.injEq, eq_comm]

theorem keepsExactly_of_foldlM {options : List (String × Json)} {declared : Json → Prop}
    {patterns later : Patterns} (h : KeepsExactly declared patterns)
    (hlater : options.foldlM readOption patterns = .ok later) :
    KeepsExactly (fun json => declared json ∨ ∃ option ∈ options, option.2 = json) later := by
  induction options generalizing declared patterns with
  | nil =>
      cases hlater
      simpa using h
  | cons option rest ih =>
      obtain ⟨middle, hmiddle, hrest⟩ := bind_eq_ok_iff.1 hlater
      obtain ⟨source, pattern, hjson, hsource, rfl⟩ := (readOption_eq_ok_iff h.read).1 hmiddle
      obtain ⟨hdistinct, hread, hnames⟩ := ih (h.write hsource) hrest
      refine ⟨hdistinct, hread, fun other => ?_⟩
      rw [hnames, or_assoc]
      simp only [List.mem_cons, exists_eq_or_imp, hjson]

theorem exists_foldlM_iff {options : List (String × Json)} {declared : Json → Prop}
    {patterns : Patterns} (h : KeepsExactly declared patterns) :
    (∃ later, options.foldlM readOption patterns = .ok later) ↔
      ∀ option ∈ options, Readable option.2 := by
  induction options generalizing declared patterns with
  | nil =>
      constructor
      · intro _ option hmem
        cases hmem
      · intro _
        exact ⟨patterns, rfl⟩
  | cons option rest ih =>
      rw [List.forall_mem_cons]
      constructor
      · rintro ⟨later, hlater⟩
        obtain ⟨middle, hmiddle, hrest⟩ := bind_eq_ok_iff.1 hlater
        obtain ⟨source, pattern, hjson, hsource, rfl⟩ := (readOption_eq_ok_iff h.read).1 hmiddle
        exact ⟨⟨source, pattern, hjson, hsource⟩, (ih (h.write hsource)).1 ⟨later, hrest⟩⟩
      · rintro ⟨⟨source, pattern, hjson, hsource⟩, hrest⟩
        have hmiddle := (readOption_eq_ok_iff h.read).2 ⟨source, pattern, hjson, hsource, rfl⟩
        obtain ⟨later, hlater⟩ := (ih (h.write hsource)).2 hrest
        exact ⟨later, bind_eq_ok_iff.2 ⟨_, hmiddle, hlater⟩⟩

/-! ### The patterns of a definition -/

theorem keepsExactly_nil : KeepsExactly (fun _ => False) [] := by
  refine ⟨List.nodup_nil, ?_, fun source => by simp [Entries.names]⟩
  intro source pattern hfind
  cases hfind

/-- A definition has patterns exactly if every pattern that it declares can be read. -/
theorem exists_ofFields_iff {fields : Fields} :
    (∃ patterns, ofFields fields = .ok patterns) ↔
      ∀ json, fields.DeclaresPattern json → Readable json := by
  simp only [ofFields, addFields_eq, exists_foldlM_iff keepsExactly_nil, declaresPattern_iff]
  constructor
  · rintro h _ ⟨option, hmem, rfl⟩
    exact h option hmem
  · intro h option hmem
    exact h option.2 ⟨option, hmem, rfl⟩

/-- Arrays hide no pattern: the bracket that is not closed is reported. -/
example : ofFields [("rows", { type := .array (.array (.nested
    [("label", { type := .scalar .string, required := false,
                 options := [("match", .string "(")] })])), required := false })]
      = .error (.badPattern "(" .malformed) := rfl

/-- The patterns of a definition are those that it declares. -/
theorem keepsExactly_of_ofFields {fields : Fields} {patterns : Patterns}
    (h : ofFields fields = .ok patterns) : KeepsExactly fields.DeclaresPattern patterns := by
  rw [ofFields, addFields_eq] at h
  have hkept := keepsExactly_of_foldlM keepsExactly_nil h
  refine ⟨hkept.distinct, hkept.read, fun source => ?_⟩
  rw [hkept.mem_names_iff, declaresPattern_iff, false_or]

theorem holds_of_ofFields {fields : Fields} {patterns : Patterns}
    (h : ofFields fields = .ok patterns) {json : Json} (hjson : fields.DeclaresPattern json) :
    patterns.Holds json := by
  obtain ⟨source, pattern, rfl, hsource⟩ := exists_ofFields_iff.1 ⟨patterns, h⟩ json hjson
  have hkept := keepsExactly_of_ofFields h
  obtain ⟨found, hfound⟩ := Entries.mem_names_iff.1 ((hkept.mem_names_iff source).2 hjson)
  exact ⟨source, found, rfl, hfound, hkept.read source found hfound⟩

theorem covers_of_holds {patterns : Patterns} {options : Options} {key : String}
    (hkey : key = matchOption ∨ key = keyMatchOption)
    (h : ∀ option ∈ patternOptions options, patterns.Holds option.2) :
    Covers patterns options key :=
  fun json hjson => h (key, json) (mem_patternOptions_iff.2 ⟨hkey, hjson⟩)

mutual

theorem coversType_of_holds {patterns : Patterns} : ∀ {type : FieldType},
    (∀ option ∈ optionsOfType type, patterns.Holds option.2) → CoversType patterns type
  | .scalar _, _ => trivial
  | .objectId, _ => trivial
  | .nested _, h => coversFields_of_holds h
  | .array element, h => by
      have helement : CoversType patterns element := coversType_of_holds h
      exact helement
  | .map _, h => coversField_of_holds h

theorem coversField_of_holds {patterns : Patterns} : ∀ {field : FieldOf FieldType},
    (∀ option ∈ optionsOfField field, patterns.Holds option.2) → CoversField patterns field
  | ⟨_, _, _, _⟩, h => by
      obtain ⟨hown, htype⟩ := List.forall_mem_append.1 h
      exact ⟨covers_of_holds (.inl rfl) hown, covers_of_holds (.inr rfl) hown,
        coversType_of_holds htype⟩

theorem coversFields_of_holds {patterns : Patterns} :
    ∀ {fields : List (String × FieldOf FieldType)},
      (∀ option ∈ optionsOfFields fields, patterns.Holds option.2) → CoversFields patterns fields
  | [], _ => trivial
  | (_, _) :: _, h => by
      obtain ⟨hfield, hrest⟩ := List.forall_mem_append.1 h
      exact ⟨coversField_of_holds hfield, coversFields_of_holds hrest⟩

end

/-- The patterns of a definition cover all of its fields. -/
theorem coversFields_of_ofFields {fields : Fields} {patterns : Patterns}
    (h : ofFields fields = .ok patterns) : CoversFields patterns fields :=
  coversFields_of_holds fun option hmem =>
    holds_of_ofFields h (declaresPattern_iff.2 ⟨option, hmem, rfl⟩)

end Patterns

end TypedCollections
