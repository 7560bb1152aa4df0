import TypedCollections.Proofs.Validation.Results
/-!
# No pattern is skipped

A check that looks up a pattern in vain would accept any text. The look-ups of a check are listed
here in the order in which they are made, up to the first violation. What they ask for are options
that reading the patterns came across, so that they find it. And they are all that a check asks of
the patterns: where they are answered alike, the result is the same.
-/

namespace TypedCollections

namespace Validation

/-- A look-up of the pattern that stands under a key of options. -/
structure Lookup where
  options : Options
  key : String

namespace Lookup

/-- What is found: the pattern, with its text. -/
def answer? (lookup : Lookup) (patterns : Patterns) : Option (String × Pattern) :=
  patternOf? patterns lookup.options lookup.key

/-- The option that is asked for is not set, or it is a text and the pattern that it writes is
found. -/
def Finds (lookup : Lookup) (patterns : Patterns) : Prop :=
  ∀ json, Entries.find? lookup.options lookup.key = some json →
    ∃ source pattern, json = .string source ∧ Pattern.read source = .ok pattern ∧
      lookup.answer? patterns = some (source, pattern)

/-- The option that is asked for, if it is set. -/
def option (lookup : Lookup) : List (String × Json) :=
  Patterns.optionUnder lookup.options lookup.key

end Lookup

/-- The look-ups have the same answers among other patterns. -/
def SameAnswers (patterns others : Patterns) (lookups : List Lookup) : Prop :=
  ∀ lookup ∈ lookups, lookup.answer? others = lookup.answer? patterns

/-! ### The look-ups of a check -/

/-- The look-ups of a check of a scalar: only a text has a pattern to match. -/
def lookupsOfScalar : ScalarKind → Options → Value → List Lookup
  | .string, options, .string _ => [⟨options, matchOption⟩]
  | _, _, _ => []

/-- The look-ups inside the items of an array, up to the first violation. -/
def lookupsOfItems (check : Value → Check Value) (lookups : Value → List Lookup) :
    List Value → List Lookup
  | [] => []
  | item :: rest =>
      lookups item ++
        match check item with
        | .error _ => []
        | .ok _ => lookupsOfItems check lookups rest

/-- The look-ups inside the entries of a map, up to the first violation. -/
def lookupsOfEntries (pattern : Option (String × Pattern)) (required : Bool)
    (check : Value → Check Value) (lookups : Value → List Lookup) :
    List (String × Value) → List Lookup
  | [] => []
  | (key, value) :: rest =>
      match checkKey pattern key with
      | .error _ => []
      | .ok _ =>
          (if value.isNull then [] else lookups value) ++
            match checkEntry required check value with
            | .error _ => []
            | .ok _ => lookupsOfEntries pattern required check lookups rest

mutual

/-- The look-ups of a check of a value against a type. The pattern of keys is looked up once for a
map. -/
def lookupsOfType (patterns : Patterns) : FieldType → Options → Value → List Lookup
  | .scalar kind, options, value => lookupsOfScalar kind options value
  | .objectId, _, _ => []
  | .nested fields, _, value =>
      match value with
      | .object members => lookupsOfFields patterns fields (keepDeclared fields members)
      | _ => []
  | .array element, options, value =>
      match value with
      | .array items =>
          lookupsOfItems (checkType patterns element options)
            (lookupsOfType patterns element options) items
      | _ => []
  | .map values, options, value =>
      match value with
      | .object members =>
          ⟨options, keyMatchOption⟩ ::
            lookupsOfEntries (patternOf? patterns options keyMatchOption) values.required
              (checkField patterns values) (lookupsOfField patterns values) members
      | _ => []

/-- The look-ups of a check of a value against a field. -/
def lookupsOfField (patterns : Patterns) : FieldOf FieldType → Value → List Lookup
  | ⟨type, _, _, options⟩, value => lookupsOfType patterns type options value

/-- The look-ups of a check of declared fields, up to the first violation. -/
def lookupsOfFields (patterns : Patterns) :
    List (String × FieldOf FieldType) → List (String × Value) → List Lookup
  | [], _ => []
  | (name, field) :: rest, values =>
      (match slotValue? name field.options values with
        | some value => lookupsOfField patterns field value
        | none => []) ++
        match checkSlot name field.required field.options (checkField patterns field) values with
        | .error _ => []
        | .ok values => lookupsOfFields patterns rest values

end

/-- The look-ups that the check of a document makes, in order. -/
def lookups (patterns : Patterns) (fields : Fields) (values : List (String × Value)) :
    List Lookup :=
  lookupsOfFields patterns fields (keepDeclared fields values)

variable {patterns others : Patterns}

theorem sameAnswers_append_iff {first second : List Lookup} :
    SameAnswers patterns others (first ++ second) ↔
      SameAnswers patterns others first ∧ SameAnswers patterns others second :=
  List.forall_mem_append

/-! ### What is asked for was read -/

theorem exists_of_mem_lookupsOfItems {check : Value → Check Value} {lookups : Value → List Lookup}
    {items : List Value} {lookup : Lookup} (h : lookup ∈ lookupsOfItems check lookups items) :
    ∃ item, lookup ∈ lookups item := by
  induction items with
  | nil => cases h
  | cons item rest ih =>
      rw [lookupsOfItems] at h
      rcases List.mem_append.1 h with h | h
      · exact ⟨item, h⟩
      · split at h
        · cases h
        · exact ih h

theorem exists_of_mem_lookupsOfEntries {pattern : Option (String × Pattern)} {required : Bool}
    {check : Value → Check Value} {lookups : Value → List Lookup}
    {members : List (String × Value)} {lookup : Lookup}
    (h : lookup ∈ lookupsOfEntries pattern required check lookups members) :
    ∃ value, lookup ∈ lookups value := by
  induction members with
  | nil => cases h
  | cons member rest ih =>
      obtain ⟨key, value⟩ := member
      rw [lookupsOfEntries] at h
      split at h
      · cases h
      · rcases List.mem_append.1 h with h | h
        · split at h
          · cases h
          · exact ⟨value, h⟩
        · split at h
          · cases h
          · exact ih h

open Patterns (patternOptions optionsOfType optionsOfField optionsOfFields)

theorem option_subset_of_scalar {kind : ScalarKind} {options : Options} {value : Value}
    {lookup : Lookup} (h : lookup ∈ lookupsOfScalar kind options value) :
    lookup.option ⊆ patternOptions options := by
  unfold lookupsOfScalar at h
  split at h
  · obtain rfl := List.mem_singleton.1 h
    exact List.subset_append_left ..
  · cases h

mutual

/-- What is looked up for a value is an option of its field or stands inside the type. -/
theorem option_subset_of_type : ∀ {type : FieldType} {options : Options} {value : Value}
    {lookup : Lookup}, lookup ∈ lookupsOfType patterns type options value →
      lookup.option ⊆ patternOptions options ++ optionsOfType type
  | .scalar _, _, _, _, h => by
      rw [lookupsOfType] at h
      exact List.Subset.trans (option_subset_of_scalar h) (List.subset_append_left ..)
  | .objectId, _, _, _, h => by cases h
  | .nested fields, _, value, _, h => by
      cases value with
      | object members =>
          exact List.Subset.trans (option_subset_of_fields h) (List.subset_append_right ..)
      | _ => cases h
  | .array element, options, value, lookup, h => by
      cases value with
      | array items =>
          obtain ⟨item, hitem⟩ := exists_of_mem_lookupsOfItems h
          have helement : lookup.option ⊆ patternOptions options ++ optionsOfType element :=
            option_subset_of_type hitem
          exact helement
      | _ => cases h
  | .map values, options, value, _, h => by
      cases value with
      | object members =>
          rcases List.mem_cons.1 h with rfl | h
          · exact List.Subset.trans (List.subset_append_right ..) (List.subset_append_left ..)
          · obtain ⟨value, hvalue⟩ := exists_of_mem_lookupsOfEntries h
            exact List.Subset.trans (option_subset_of_field hvalue) (List.subset_append_right ..)
      | _ => cases h

theorem option_subset_of_field : ∀ {field : FieldOf FieldType} {value : Value} {lookup : Lookup},
    lookup ∈ lookupsOfField patterns field value → lookup.option ⊆ optionsOfField field
  | ⟨_, _, _, _⟩, _, _, h => option_subset_of_type h

theorem option_subset_of_fields : ∀ {fields : List (String × FieldOf FieldType)}
    {values : List (String × Value)} {lookup : Lookup},
    lookup ∈ lookupsOfFields patterns fields values → lookup.option ⊆ optionsOfFields fields
  | [], _, _, h => by cases h
  | (name, field) :: rest, values, _, h => by
      rw [lookupsOfFields] at h
      rcases List.mem_append.1 h with h | h
      · split at h
        · exact List.Subset.trans (option_subset_of_field h) (List.subset_append_left ..)
        · cases h
      · split at h
        · cases h
        · exact List.Subset.trans (option_subset_of_fields h) (List.subset_append_right ..)

end

/-! ### Nothing else is asked for -/

theorem checkScalar_congr {kind : ScalarKind} {options : Options} {value : Value}
    (h : SameAnswers patterns others (lookupsOfScalar kind options value)) :
    checkScalar others kind options value = checkScalar patterns kind options value := by
  unfold checkScalar
  split
  · rename_i text
    have hpattern : patternOf? others options matchOption
        = patternOf? patterns options matchOption := h _ (List.mem_singleton_self _)
    simp only [checkText, hpattern]
  · rfl
  · rfl
  · rfl

theorem checkItems_congr {check other : Value → Check Value} {lookups : Value → List Lookup}
    (hcheck : ∀ item, SameAnswers patterns others (lookups item) → other item = check item)
    {items : List Value} (index : Nat)
    (h : SameAnswers patterns others (lookupsOfItems check lookups items)) :
    checkItems other index items = checkItems check index items := by
  induction items generalizing index with
  | nil => rfl
  | cons item rest ih =>
      rw [lookupsOfItems, sameAnswers_append_iff] at h
      rw [checkItems, checkItems, hcheck item h.1]
      cases hitem : check item with
      | error violated => rfl
      | ok result =>
          rw [hitem] at h
          rw [ih (index + 1) h.2]

theorem checkEntries_congr {pattern : Option (String × Pattern)} {required : Bool}
    {check other : Value → Check Value} {lookups : Value → List Lookup}
    (hcheck : ∀ value, SameAnswers patterns others (lookups value) → other value = check value)
    {members : List (String × Value)}
    (h : SameAnswers patterns others (lookupsOfEntries pattern required check lookups members)) :
    checkEntries pattern required other members = checkEntries pattern required check members := by
  induction members with
  | nil => rfl
  | cons member rest ih =>
      obtain ⟨key, value⟩ := member
      rw [lookupsOfEntries] at h
      rw [checkEntries, checkEntries]
      cases hkey : checkKey pattern key with
      | error violated => rfl
      | ok passed =>
          rw [hkey, sameAnswers_append_iff] at h
          have hentry : checkEntry required other value = checkEntry required check value := by
            unfold checkEntry
            split
            · rfl
            · rename_i hnull
              rw [if_neg hnull] at h
              exact hcheck value h.1
          simp only [Except.bind, hentry]
          cases hvalue : checkEntry required check value with
          | error violated => rfl
          | ok result =>
              rw [hvalue] at h
              rw [ih h.2]

mutual

/-- A check against a type asks for nothing but its look-ups. -/
theorem checkType_congr : ∀ {type : FieldType} {options : Options} {value : Value},
    SameAnswers patterns others (lookupsOfType patterns type options value) →
      checkType others type options value = checkType patterns type options value
  | .scalar _, _, _, h => checkScalar_congr h
  | .objectId, _, _, _ => rfl
  | .nested fields, _, value, h => by
      cases value with
      | object members => rw [checkType, checkType, checkFields_congr h]
      | _ => rfl
  | .array element, options, value, h => by
      cases value with
      | array items =>
          have hitems : checkItems (checkType others element options) 0 items
              = checkItems (checkType patterns element options) 0 items :=
            checkItems_congr (fun item hitem => checkType_congr hitem) 0 h
          rw [checkType, checkType, hitems]
      | _ => rfl
  | .map values, options, value, h => by
      cases value with
      | object members =>
          obtain ⟨hkeys, hentries⟩ := List.forall_mem_cons.1 h
          have hpattern : patternOf? others options keyMatchOption
              = patternOf? patterns options keyMatchOption := hkeys
          rw [checkType, checkType, hpattern,
            checkEntries_congr (fun value hvalue => checkField_congr hvalue) hentries]
      | _ => rfl

theorem checkField_congr : ∀ {field : FieldOf FieldType} {value : Value},
    SameAnswers patterns others (lookupsOfField patterns field value) →
      checkField others field value = checkField patterns field value
  | ⟨_, _, _, _⟩, _, h => checkType_congr h

theorem checkFields_congr : ∀ {fields : List (String × FieldOf FieldType)}
    {values : List (String × Value)},
    SameAnswers patterns others (lookupsOfFields patterns fields values) →
      checkFields others fields values = checkFields patterns fields values
  | [], _, _ => rfl
  | (name, field) :: rest, values, h => by
      rw [lookupsOfFields, sameAnswers_append_iff] at h
      have hslot : checkSlot name field.required field.options (checkField others field) values
          = checkSlot name field.required field.options (checkField patterns field) values := by
        unfold checkSlot
        cases hvalue : slotValue? name field.options values with
        | none => rfl
        | some value =>
            rw [hvalue] at h
            simp only [checkField_congr h.1]
      rw [checkFields, checkFields, hslot]
      cases hchecked : checkSlot name field.required field.options (checkField patterns field)
          values with
      | error violated => rfl
      | ok checked =>
          rw [hchecked] at h
          exact checkFields_congr h.2

end

/-! ### What is asked for is found -/

/-- A check asks for declared patterns only. -/
theorem declares_of_mem_lookups {fields : Fields} {values : List (String × Value)} {lookup : Lookup}
    (h : lookup ∈ lookups patterns fields values) {json : Json}
    (hjson : Entries.find? lookup.options lookup.key = some json) : fields.DeclaresPattern json :=
  Patterns.declaresPattern_iff.2 ⟨(lookup.key, json),
    option_subset_of_fields h (Patterns.mem_optionUnder_iff.2 ⟨rfl, hjson⟩), rfl⟩

theorem finds_of_covers {lookup : Lookup} (h : patterns.Covers lookup.options lookup.key) :
    lookup.Finds patterns := by
  intro json hjson
  obtain ⟨source, pattern, rfl, hfind, hread⟩ := h json hjson
  have hanswer : lookup.answer? patterns = some (source, pattern) := by
    simp [Lookup.answer?, patternOf?, hjson, Json.string?, hfind]
  exact ⟨source, pattern, rfl, hread, hanswer⟩

/-- The patterns of a definition can be read exactly if everything declared as a pattern, by a field
at any depth, is a text that writes one. Then these texts are kept, once each, with the patterns
that they write, and every look-up of every check finds the pattern it asks for. The look-ups are
all that a check asks of the patterns. -/
theorem declared_patterns_found (fields : Fields) :
    ((∃ patterns, Patterns.ofFields fields = .ok patterns) ↔
      ∀ json, fields.DeclaresPattern json → Patterns.Readable json) ∧
    (∀ patterns, Patterns.ofFields fields = .ok patterns →
      patterns.KeepsExactly fields.DeclaresPattern ∧
      ∀ values, ∀ lookup ∈ lookups patterns fields values, lookup.Finds patterns) ∧
    ∀ patterns others values, SameAnswers patterns others (lookups patterns fields values) →
      validate others fields values = validate patterns fields values := by
  refine ⟨Patterns.exists_ofFields_iff, fun patterns h => ?_, fun patterns others values h => ?_⟩
  · refine ⟨Patterns.keepsExactly_of_ofFields h, fun values lookup hmem => ?_⟩
    refine finds_of_covers fun json hjson => ?_
    exact Patterns.holds_of_ofFields h (declares_of_mem_lookups hmem hjson)
  · exact checkFields_congr h

end Validation

namespace Sample

open Validation

/-- A label is a word. -/
def labelField : Field :=
  { type := .scalar .string, required := true, options := [("match", .string "^[a-z]+$")] }

/-- A note is a digit. -/
def noteField : Field :=
  { type := .scalar .string, required := false, options := [("match", .string "^[0-9]$")] }

/-- Boards: rows of labelled cells, and leaves with notes under words. -/
def boards : Fields :=
  [("rows", { type := .array (.array (.nested [("label", labelField)])), required := true }),
   ("leaves", { type := .array (.map noteField), required := false,
                options := [("keyMatch", .string "^[a-z]+$")] })]

/-- A board with two rows and one leaf. -/
def board : List (String × Value) :=
  [("leaves", .array [.object [("top", .string "1"), ("end", .null)]]),
   ("rows", .array [.array [.object [("label", .string "a")]],
                    .array [.object [("label", .string "b")]]])]

/-- The pattern of single digits. -/
def digit : Pattern :=
  .seq (.assertion .textStart) (.seq (.set ⟨[48, 58]⟩) (.assertion .textEnd))

/-- The patterns of boards. -/
def boardPatterns : Patterns := [("^[a-z]+$", lowercase), ("^[0-9]$", digit)]

theorem ofFields_boards : Patterns.ofFields boards = .ok boardPatterns := by decide +kernel

/-- The patterns of boards and one that no board declares. -/
def morePatterns : Patterns := boardPatterns ++ [("^$", .empty)]

end Sample

theorem Validation.patterns_of_boards_found :
    Sample.boardPatterns.KeepsExactly Sample.boards.DeclaresPattern ∧
    (lookups Sample.boardPatterns Sample.boards Sample.board).map (fun lookup =>
        (lookup.key, (lookup.answer? Sample.boardPatterns).map Prod.fst))
      = [("match", some "^[a-z]+$"), ("match", some "^[a-z]+$"), ("keyMatch", some "^[a-z]+$"),
         ("match", some "^[0-9]$")] ∧
    (∀ lookup ∈ lookups Sample.boardPatterns Sample.boards Sample.board,
      lookup.Finds Sample.boardPatterns) ∧
    validate Sample.morePatterns Sample.boards Sample.board
      = validate Sample.boardPatterns Sample.boards Sample.board := by
  obtain ⟨-, hfound, hsame⟩ := declared_patterns_found Sample.boards
  obtain ⟨hkept, hfinds⟩ := hfound Sample.boardPatterns Sample.ofFields_boards
  refine ⟨hkept, by decide +kernel, hfinds Sample.board, ?_⟩
  have hanswers : SameAnswers Sample.boardPatterns Sample.morePatterns
      (lookups Sample.boardPatterns Sample.boards Sample.board) := by
    unfold SameAnswers
    decide +kernel
  exact hsame Sample.boardPatterns Sample.morePatterns Sample.board hanswers

end TypedCollections
