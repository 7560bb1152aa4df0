import TypedCollections.Proofs.Definition.Faults
import TypedCollections.Proofs.Validation.Edits
/-!
# The first broken rule

A check stops at the first thing it finds wrong. What it would have looked at is listed here in full
and without checking anything: each rule with its place and the violation reported there, in
declared order inside objects and in the given order inside arrays and maps, asked of the values
that were given or filled in. A check fails exactly with the first rule of this list that is broken,
so nothing that comes later has a say.
-/

namespace TypedCollections

/-- What a step adds to the text of a place. -/
def ValueStep.text : ValueStep → String
  | .name written => written
  | .index place => toString place

private theorem intercalate_cons_cons_dot (before text : String) (texts : List String) :
    ".".intercalate (before :: text :: texts)
      = ".".intercalate ((before ++ "." ++ text) :: texts) := by
  cases texts with
  | nil => simp
  | cons next texts => simp [String.append_assoc]

/-- Behind a name that is not empty every step adds a dot and its text. -/
theorem Place.text_eq_intercalate {name : String} {rest : Place} (hname : name ≠ "") :
    Place.text (.name name :: rest)
      = ".".intercalate ((ValueStep.name name :: rest).map ValueStep.text) := by
  change rest.foldl _ name = ".".intercalate (name :: rest.map ValueStep.text)
  induction rest generalizing name with
  | nil => simp
  | cons step rest ih =>
      -- The text so far is never empty again, so the induction is over all such texts.
      have hmore : name ++ "." ++ step.text ≠ "" := by simp [hname]
      rw [List.foldl_cons, List.map_cons, intercalate_cons_cons_dot, ← ih hmore]
      cases step with
      | name next => simp [ValueStep.text, hname]
      | index index => rfl

namespace Validation

open Description (Matches)

/-- What is asked at a place of a document: the violation to be reported there, and when there is
none. -/
structure Rule where
  place : Place
  violation : Violation
  met : Prop

namespace Rule

/-- A rule for a value, seen from the value. -/
def here (violation : Violation) (met : Prop) : Rule := ⟨[], violation, met⟩

/-- The same rule one step further out. -/
def within (step : ValueStep) (rule : Rule) : Rule := { rule with place := step :: rule.place }

/-- What is reported of a broken rule. -/
def violated (rule : Rule) : Violated := ⟨rule.place, rule.violation⟩

end Rule

open Rule (here)

/-! ### The rules of a definition -/

/-- The rules of a value inside another one. -/
def rulesInside (step : ValueStep) (rules : List Rule) : List Rule := rules.map (.within step)

/-- The rule of an option, if the option is set. -/
def optionRule {α : Type} (option : Option α) (rule : α → Rule) : List Rule :=
  (option.map rule).toList

/-- A value is of a kind. -/
def ofKind (expected : String) (kind : Kind) (value : Value) : Rule :=
  here (.wrongKind expected value.kind) (value.kind = kind)

/-- A value is no identifier, which would be written as an object with a reserved key. -/
def notIdentifier (value : Value) : Rule :=
  ⟨[.name oidKey], .reservedKey, value.kind ≠ .objectId⟩

/-- A text matches its pattern, has as many characters as it should, and is allowed. -/
def textRules (options : Options) (text : String) : List Rule :=
  optionRule ((Entries.find? options matchOption).bind Json.string?) (fun source =>
      here (.mismatch source) (Matches (.string source) text)) ++
    optionRule (natOption? options "minlength") (fun least =>
      here (.tooShort least) (least ≤ text.length)) ++
    optionRule (natOption? options "maxlength") (fun most =>
      here (.tooLong most) (text.length ≤ most)) ++
    optionRule (allowed? options) (fun texts => here .notAllowed (.string text ∈ texts))

/-- A number is within its bounds. -/
def numberRules (options : Options) (number : Number) : List Rule :=
  optionRule (numberOption? options "min") (fun least =>
      here (.below least) (number.below least = false)) ++
    optionRule (numberOption? options "max") (fun most =>
      here (.above most) (most.below number = false))

def scalarRules : ScalarKind → Options → Value → List Rule
  | .string, options, value =>
      ofKind ScalarKind.string.typeName .string value :: value.string?.elim [] (textRules options)
  | .number, options, value =>
      ofKind ScalarKind.number.typeName .number value :: value.number?.elim [] (numberRules options)
  | .boolean, _, value => [ofKind ScalarKind.boolean.typeName .boolean value]

/-- A value denotes an identifier. -/
def identifierRule (value : Value) : Rule :=
  match value with
  | .string text => here (.notAnIdentifier text) (∃ id, value.Denotes id)
  | _ => here (.wrongKind "ObjectId" value.kind) (∃ id, value.Denotes id)

/-- The rules of the items of an array, in order. -/
def itemRules (rules : Value → List Rule) : Nat → List Value → List Rule
  | _, [] => []
  | index, item :: rest =>
      rulesInside (.index index) (rules item) ++ itemRules rules (index + 1) rest

/-- A key is not reserved and matches the pattern of keys. -/
def keyRules (options : Options) (key : String) : List Rule :=
  here .reservedKey (key.startsWith "$" = false) ::
    optionRule ((Entries.find? options keyMatchOption).bind Json.string?) (fun source =>
      here (.keyMismatch source) (Matches (.string source) key))

/-- The rules of an entry of a map: those of its key, and its value is right or is null where it may
be. -/
def entryRules (options : Options) (required : Bool) (rules : Value → List Rule)
    (entry : String × Value) : List Rule :=
  rulesInside (.name entry.1) <| keyRules options entry.1 ++
    here .valueRequired (required = true → entry.2.isNull = false) ::
      (if entry.2.isNull then [] else rules entry.2)

/-- The rules of a declared field: it is supplied with a value if it must have one, and the value is
right. -/
def slotRules (name : String) (required : Bool) (options : Options) (rules : Value → List Rule)
    (values : List (String × Value)) : List Rule :=
  rulesInside (.name name) <|
    here .required (required = true → ∃ value, Supplied name options values value) ::
      (slotValue? name options values).elim [] rules

mutual

/-- The rules of a value of a type, in order. The options are those of the field. -/
def rulesOfType : FieldType → Options → Value → List Rule
  | .scalar kind, options, value => scalarRules kind options value
  | .objectId, _, value => [identifierRule value]
  | .nested fields, _, value =>
      notIdentifier value :: ofKind "object" .object value ::
        value.object?.elim [] (rulesOfFields fields)
  | .array element, options, value =>
      ofKind "array" .array value ::
        value.array?.elim [] (itemRules (rulesOfType element options) 0)
  | .map values, options, value =>
      notIdentifier value :: ofKind "map" .object value ::
        value.object?.elim []
          (List.flatMap (entryRules options values.required (rulesOfField values)))

/-- The rules of a value of a field. -/
def rulesOfField : FieldOf FieldType → Value → List Rule
  | ⟨type, _, _, options⟩, value => rulesOfType type options value

/-- The rules of declared fields, in declared order. -/
def rulesOfFields : List (String × FieldOf FieldType) → List (String × Value) → List Rule
  | [], _ => []
  | (name, field) :: rest, values =>
      slotRules name field.required field.options (rulesOfField field) values ++
        rulesOfFields rest values

end

/-- The rules that a definition asks of the values of a document, in order. -/
def rules (fields : Fields) (values : List (String × Value)) : List Rule :=
  rulesOfFields fields values

/-! ### The first one that is broken -/

/-- The violation is that of the first broken rule: every rule before it is met. -/
def FirstBroken (rules : List Rule) (violated : Violated) : Prop :=
  ∃ before rule after, rules = before ++ rule :: after ∧ (∀ earlier ∈ before, earlier.met) ∧
    ¬ rule.met ∧ violated = rule.violated

theorem not_firstBroken_nil (violated : Violated) : ¬ FirstBroken [] violated := by
  rintro ⟨before, rule, after, h, -⟩
  simp at h

theorem firstBroken_cons {rule : Rule} {rules : List Rule} {violated : Violated} :
    FirstBroken (rule :: rules) violated ↔
      ¬ rule.met ∧ violated = rule.violated ∨ rule.met ∧ FirstBroken rules violated := by
  constructor
  · rintro ⟨before, broken, after, h, hbefore, hbroken, hviolated⟩
    obtain ⟨rfl, hhead⟩ | ⟨earlier, rfl, rfl⟩ := List.cons_eq_append_iff.1 h
    · obtain ⟨rfl, rfl⟩ := List.cons.inj hhead
      exact .inl ⟨hbroken, hviolated⟩
    · exact .inr ⟨hbefore rule (List.mem_cons_self ..), earlier, broken, after, rfl,
        fun other hmem => hbefore other (List.mem_cons_of_mem _ hmem), hbroken, hviolated⟩
  · rintro (⟨hbroken, hviolated⟩ | ⟨hmet, before, broken, after, rfl, hbefore, hbroken, hviolated⟩)
    · exact ⟨[], rule, rules, rfl, by simp, hbroken, hviolated⟩
    · exact ⟨rule :: before, broken, after, rfl, List.forall_mem_cons.2 ⟨hmet, hbefore⟩, hbroken,
        hviolated⟩

theorem firstBroken_append {rules more : List Rule} {violated : Violated} :
    FirstBroken (rules ++ more) violated ↔
      FirstBroken rules violated ∨ (∀ rule ∈ rules, rule.met) ∧ FirstBroken more violated := by
  induction rules with
  | nil => simp [not_firstBroken_nil]
  | cons rule rest ih =>
      rw [List.cons_append, firstBroken_cons, firstBroken_cons, ih, List.forall_mem_cons]
      tauto

theorem firstBroken_rulesInside {step : ValueStep} {rules : List Rule} {violated : Violated} :
    FirstBroken (rulesInside step rules) violated ↔
      ∃ inner, FirstBroken rules inner ∧ violated = inner.within step := by
  induction rules with
  | nil => simp [rulesInside, not_firstBroken_nil]
  | cons rule rest ih =>
      change FirstBroken (rule.within step :: rulesInside step rest) violated ↔ _
      simp only [firstBroken_cons, ih]
      constructor
      · rintro (⟨hbroken, rfl⟩ | ⟨hmet, inner, hinner, rfl⟩)
        · exact ⟨rule.violated, .inl ⟨hbroken, rfl⟩, rfl⟩
        · exact ⟨inner, .inr ⟨hmet, hinner⟩, rfl⟩
      · rintro ⟨inner, ⟨hbroken, rfl⟩ | ⟨hmet, hinner⟩, rfl⟩
        · exact .inl ⟨hbroken, rfl⟩
        · exact .inr ⟨hmet, inner, hinner, rfl⟩

/-- Some rule is the first broken one unless all are met. -/
theorem exists_firstBroken_iff {rules : List Rule} :
    (∃ violated, FirstBroken rules violated) ↔ ¬ ∀ rule ∈ rules, rule.met := by
  induction rules with
  | nil => simp [not_firstBroken_nil]
  | cons rule rest ih =>
      simp only [firstBroken_cons, List.forall_mem_cons, exists_or, exists_and_left,
        exists_eq, and_true, ih]
      tauto

/-! ### Checks that report the first broken rule -/

/-- A check fails exactly with what is reported of the first broken rule. -/
def Reports {α : Type} (check : Check α) (rules : List Rule) : Prop :=
  ∀ violated, check = .error violated ↔ FirstBroken rules violated

namespace Reports

variable {α β : Type} {check : Check α} {rules more : List Rule}

theorem ok (result : α) : Reports (.ok result) [] := fun violated => by
  simp [not_firstBroken_nil]

/-- A check that reports the first broken rule succeeds exactly if all are met. -/
theorem ok_iff (h : Reports check rules) :
    (∃ result, check = .ok result) ↔ ∀ rule ∈ rules, rule.met := by
  have hbroken : (∃ violated, FirstBroken rules violated) ↔ ¬ ∀ rule ∈ rules, rule.met :=
    exists_firstBroken_iff
  simp only [← h _] at hbroken
  cases check with
  | ok result => simpa using hbroken
  | error violated => simpa using hbroken

theorem broken (rule : Rule) (hbroken : ¬ rule.met) :
    Reports (.error rule.violated : Check α) (rule :: rules) := fun violated => by
  rw [firstBroken_cons]
  simp [hbroken, eq_comm]

theorem fail {violation : Violation} {met : Prop} (hbroken : ¬ met) :
    Reports (Validation.fail violation : Check α) (here violation met :: rules) :=
  broken (here violation met) hbroken

/-- A rule that is met need not be looked at. -/
theorem skip {rule : Rule} (hmet : rule.met) (h : Reports check rules) :
    Reports check (rule :: rules) := fun violated => by
  rw [firstBroken_cons, h violated]
  simp [hmet]

theorem ensure {condition : Bool} {violation : Violation} {met : Prop}
    (hmet : condition = true ↔ met) :
    Reports (Validation.ensure condition violation) [here violation met] := by
  unfold Validation.ensure
  split
  · rename_i hcondition
    exact skip (hmet.1 hcondition) (ok ())
  · rename_i hcondition
    exact fail fun h => hcondition (hmet.2 h)

theorem map (f : α → β) (h : Reports check rules) : Reports (check.map f) rules :=
  fun violated => map_eq_error_iff.trans (h violated)

theorem bind {next : α → Check β} (h : Reports check rules)
    (hnext : ∀ result, check = .ok result → Reports (next result) more) :
    Reports (check.bind next) (rules ++ more) := fun violated => by
  rw [bind_eq_error_iff, firstBroken_append, h violated, ← h.ok_iff]
  refine or_congr_right ⟨?_, ?_⟩
  · rintro ⟨result, hresult, herror⟩
    exact ⟨⟨result, hresult⟩, (hnext result hresult violated).1 herror⟩
  · rintro ⟨⟨result, hresult⟩, hbroken⟩
    exact ⟨result, hresult, (hnext result hresult violated).2 hbroken⟩

theorem within (step : ValueStep) (h : Reports check rules) :
    Reports (at? step check) (rulesInside step rules) := fun violated => by
  rw [at?, mapError_eq_error_iff, firstBroken_rulesInside]
  exact exists_congr fun inner => and_congr_left fun _ => h inner

end Reports

variable {patterns : Patterns}

/-! ### Texts, numbers and identifiers -/

theorem reports_checkOption {α : Type} {option : Option α} {check : α → Check Unit}
    {rule : α → Rule} (h : ∀ found, Reports (check found) [rule found]) :
    Reports (checkOption option check) (optionRule option rule) := by
  cases option with
  | none => exact .ok ()
  | some found => exact h found

/-- Where the patterns cover an option, a text is matched against the pattern that the option
holds. -/
theorem reports_checkPattern {options : Options} {key text : String}
    {violation : String → Violation} (hcovers : patterns.Covers options key) :
    Reports
      (checkOption (patternOf? patterns options key) fun found =>
        Validation.ensure (found.2.isMatch text) (violation found.1))
      (optionRule ((Entries.find? options key).bind Json.string?) fun source =>
        here (violation source) (Matches (.string source) text)) := by
  cases hjson : Entries.find? options key with
  | none =>
      have hpattern : patternOf? patterns options key = none := by simp [patternOf?, hjson]
      rw [hpattern]
      exact .ok ()
  | some json =>
      obtain ⟨source, pattern, rfl, hpattern, hmatches⟩ :=
        Compiler.patternOf?_of_covers hcovers hjson
      rw [hpattern]
      exact .ensure (hmatches text).symm

theorem reports_checkText {options : Options} (hcovers : patterns.Covers options matchOption)
    (text : String) : Reports (checkText patterns options text) (textRules options text) := by
  rw [checkText_eq, textRules, List.append_assoc, List.append_assoc]
  refine .bind (reports_checkPattern hcovers) fun _ _ => ?_
  refine .bind (reports_checkOption fun least => .ensure (by simp)) fun _ _ => ?_
  refine .bind (reports_checkOption fun most => .ensure (by simp)) fun _ _ => ?_
  exact reports_checkOption fun texts => .ensure any_string?_eq_true_iff

theorem reports_checkNumber (options : Options) (number : Number) :
    Reports (checkNumber options number) (numberRules options number) := by
  rw [checkNumber_eq, numberRules]
  refine .bind (reports_checkOption fun least => .ensure (by simp)) fun _ _ => ?_
  exact reports_checkOption fun most => .ensure (by simp)

theorem reports_checkScalar {kind : ScalarKind} {options : Options}
    (hcovers : patterns.Covers options matchOption) (value : Value) :
    Reports (checkScalar patterns kind options value) (scalarRules kind options value) := by
  cases kind with
  | string =>
      cases value with
      | string text => exact .skip rfl (.map _ (reports_checkText hcovers text))
      | _ => exact .fail nofun
  | number =>
      cases value with
      | number number => exact .skip rfl (.map _ (reports_checkNumber options number))
      | _ => exact .fail nofun
  | boolean =>
      cases value with
      | bool truth => exact .skip rfl (.ok _)
      | _ => exact .fail nofun

/-- An identifier stands where an object should, as the object that it is written as. -/
theorem reports_reservedKey {α : Type} (id : ObjectId) (rules : List Rule) :
    Reports (reservedKey oidKey : Check α) (notIdentifier (.objectId id) :: rules) :=
  .broken (notIdentifier (.objectId id)) fun hmet => hmet rfl

theorem reports_castObjectId (value : Value) :
    Reports (castObjectId value) [identifierRule value] := by
  by_cases hdenotes : ∃ id, value.Denotes id
  · obtain ⟨id, hid⟩ := hdenotes
    have hmet : (identifierRule value).met := by
      unfold identifierRule
      split
      · exact ⟨id, hid⟩
      · exact ⟨id, hid⟩
    rw [castObjectId_eq_ok_iff.2 ⟨id, hid, rfl⟩]
    exact .skip hmet (.ok _)
  · cases value with
    | string text =>
        have hnone : ObjectId.ofHex? text = none := by
          rw [Option.eq_none_iff_forall_ne_some]
          intro id hid
          rw [← ObjectId.hex_of_ofHex? hid] at hdenotes
          exact hdenotes ⟨id, .text id⟩
        have hfail : castObjectId (.string text) = fail (.notAnIdentifier text) := by
          simp [castObjectId, hnone]
        rw [hfail]
        exact .fail hdenotes
    | objectId id => exact absurd ⟨id, .identifier id⟩ hdenotes
    | document id fields populated => exact absurd ⟨id, .document id fields populated⟩ hdenotes
    | _ => exact .fail hdenotes

/-! ### Items, entries and fields -/

theorem reports_checkItems {check : Value → Check Value} {rules : Value → List Rule}
    (h : ∀ value, Reports (check value) (rules value)) (index : Nat) (items : List Value) :
    Reports (checkItems check index items) (itemRules rules index items) := by
  induction items generalizing index with
  | nil => exact .ok []
  | cons item rest ih =>
      have hcons : checkItems check index (item :: rest)
          = (at? (.index index) (check item)).bind fun checked =>
              (checkItems check (index + 1) rest).map (checked :: ·) := by
        rw [checkItems]
        cases at? (.index index) (check item) <;> rfl
      rw [hcons]
      exact .bind (.within _ (h item)) fun _ _ => .map _ (ih (index + 1))

theorem reports_checkKey {options : Options} (hcovers : patterns.Covers options keyMatchOption)
    (key : String) :
    Reports (checkKey (patternOf? patterns options keyMatchOption) key) (keyRules options key) := by
  have hpattern : Reports
      (checkOption (patternOf? patterns options keyMatchOption) fun found =>
        ensure (found.2.isMatch key) (.keyMismatch found.1))
      (optionRule ((Entries.find? options keyMatchOption).bind Json.string?) fun source =>
        here (.keyMismatch source) (Matches (.string source) key)) := reports_checkPattern hcovers
  unfold checkKey
  split
  · rename_i hreserved
    exact .fail (by simp [hreserved])
  · rename_i hreserved
    have hfree : key.startsWith "$" = false := by simpa using hreserved
    refine .skip hfree ?_
    cases hfound : patternOf? patterns options keyMatchOption with
    | none =>
        rw [hfound] at hpattern
        exact hpattern
    | some found =>
        rw [hfound] at hpattern
        exact hpattern

theorem reports_checkEntry {check : Value → Check Value} {rules : Value → List Rule}
    (required : Bool) {value : Value} (h : Reports (check value) (rules value)) :
    Reports (checkEntry required check value)
      (here .valueRequired (required = true → value.isNull = false) ::
        (if value.isNull then [] else rules value)) := by
  unfold checkEntry
  cases hnull : value.isNull with
  | false => exact .skip (fun _ => rfl) h
  | true =>
      cases required with
      | true => exact .fail (by simp)
      | false => exact .skip (fun hrequired => by cases hrequired) (.ok value)

theorem reports_checkEntries {options : Options} {check : Value → Check Value}
    {rules : Value → List Rule} (hcovers : patterns.Covers options keyMatchOption) (required : Bool)
    (h : ∀ value, Reports (check value) (rules value)) (members : List (String × Value)) :
    Reports (checkEntries (patternOf? patterns options keyMatchOption) required check members)
      (members.flatMap (entryRules options required rules)) := by
  induction members with
  | nil => exact .ok []
  | cons member rest ih =>
      obtain ⟨key, value⟩ := member
      have hcons : checkEntries (patternOf? patterns options keyMatchOption) required check
          ((key, value) :: rest)
          = (at? (.name key) ((checkKey (patternOf? patterns options keyMatchOption) key).bind
              fun _ => checkEntry required check value)).bind fun checked =>
            (checkEntries (patternOf? patterns options keyMatchOption) required check rest).map
              ((key, checked) :: ·) := by
        rw [checkEntries]
        cases at? (.name key) ((checkKey (patternOf? patterns options keyMatchOption) key).bind
              fun _ => checkEntry required check value) <;> rfl
      rw [hcons, List.flatMap_cons]
      refine .bind (.within _ ?_) fun _ _ => .map _ ih
      exact .bind (reports_checkKey hcovers key) fun _ _ => reports_checkEntry required (h value)

/-- A field is checked among values that may hold something else under other names. -/
theorem reports_checkSlot {name : String} {required : Bool} {options : Options}
    {check : Value → Check Value} {rules : Value → List Rule} {values given : List (String × Value)}
    (h : ∀ value, Reports (check value) (rules value))
    (hfind : Entries.find? values name = Entries.find? given name) :
    Reports (checkSlot name required options check values)
      (slotRules name required options rules given) := by
  have hvalue : slotValue? name options values = slotValue? name options given := by
    unfold slotValue?
    rw [hfind]
  unfold checkSlot slotRules
  rw [hvalue]
  refine .within _ ?_
  cases hslot : slotValue? name options given with
  | some value =>
      exact .skip (fun _ => ⟨value, slotValue?_eq_some_iff.1 hslot⟩) (.map _ (h value))
  | none =>
      have hnone := slotValue?_eq_none_iff_forall.1 hslot
      cases required with
      | true => exact .fail fun hmet => (hmet rfl).elim hnone
      | false => exact .skip (fun hrequired => by cases hrequired) (.ok values)

mutual

/-- A check of a value against a type reports the first broken rule. -/
theorem reports_checkType : ∀ {type : FieldType} {options : Options}, type.WellFormed →
    patterns.CoversType type → patterns.Covers options matchOption →
      patterns.Covers options keyMatchOption → ∀ value,
        Reports (checkType patterns type options value) (rulesOfType type options value)
  | .scalar _, _, _, _, hmatch, _, value => by
      rw [checkType]
      exact reports_checkScalar hmatch value
  | .objectId, _, _, _, _, _, value => by
      rw [checkType]
      exact reports_castObjectId value
  | .nested fields, _, hwell, hcovers, _, _, value => by
      cases value with
      | object members =>
          have hmembers : Reports (checkFields patterns fields (keepDeclared fields members))
              (rulesOfFields fields members) :=
            reports_checkFields hwell.2 hwell.1 hcovers fun _ hmem => find?_keepDeclared hmem
          exact .skip nofun (.skip rfl (.map _ hmembers))
      | objectId id => exact reports_reservedKey id _
      | _ => exact .skip nofun (.fail nofun)
  | .array element, options, hwell, hcovers, hmatch, hkeyMatch, value => by
      have hwell : element.WellFormed := hwell
      have hcovers : patterns.CoversType element := hcovers
      cases value with
      | array items =>
          have hitems : ∀ item, Reports (checkType patterns element options item)
              (rulesOfType element options item) :=
            reports_checkType hwell hcovers hmatch hkeyMatch
          exact .skip rfl (.map _ (reports_checkItems hitems 0 items))
      | _ => exact .fail nofun
  | .map values, options, hwell, hcovers, _, hkeyMatch, value => by
      cases value with
      | object members =>
          have hvalues : ∀ value, Reports (checkField patterns values value)
              (rulesOfField values value) := reports_checkField hwell hcovers
          exact .skip nofun
            (.skip rfl (.map _ (reports_checkEntries hkeyMatch values.required hvalues members)))
      | objectId id => exact reports_reservedKey id _
      | _ => exact .skip nofun (.fail nofun)

theorem reports_checkField : ∀ {field : FieldOf FieldType}, FieldType.WellFormedField field →
    patterns.CoversField field → ∀ value,
      Reports (checkField patterns field value) (rulesOfField field value)
  | ⟨_, _, _, _⟩, hwell, hcovers, value =>
      reports_checkType hwell.2 hcovers.2.2 hcovers.1 hcovers.2.1 value

/-- The rules of later fields are asked of the values given, although earlier fields have been
written by then. -/
theorem reports_checkFields : ∀ {fields : List (String × FieldOf FieldType)}
    {values given : List (String × Value)}, FieldType.WellFormedFields fields →
      Entries.Distinct fields → patterns.CoversFields fields →
        (∀ name ∈ Entries.names fields, Entries.find? values name = Entries.find? given name) →
          Reports (checkFields patterns fields values) (rulesOfFields fields given)
  | [], values, _, _, _, _, _ => by
      rw [checkFields]
      exact .ok values
  | (name, field) :: rest, values, given, hwell, hdistinct, hcovers, hfind => by
      have hcons : checkFields patterns ((name, field) :: rest) values
          = (checkSlot name field.required field.options (checkField patterns field) values).bind
              (checkFields patterns rest) := by
        rw [checkFields]
        cases checkSlot name field.required field.options (checkField patterns field) values <;> rfl
      rw [hcons, rulesOfFields]
      have hfield : ∀ value, Reports (checkField patterns field value) (rulesOfField field value) :=
        reports_checkField hwell.1 hcovers.1
      refine .bind (reports_checkSlot hfield (hfind name (List.mem_cons_self ..))) ?_
      intro middle hmiddle
      refine reports_checkFields hwell.2 (List.nodup_cons.1 hdistinct).2 hcovers.2 ?_
      intro other hmem
      have hne : name ≠ other := by
        rintro rfl
        exact (List.nodup_cons.1 hdistinct).1 hmem
      rw [find?_of_checkSlot hmiddle hne]
      exact hfind other (List.mem_cons_of_mem _ hmem)

end

/-! ### The first violation of a document -/

theorem reports_validate {fields : Fields} (hfields : fields.WellFormed)
    (hpatterns : Patterns.ofFields fields = .ok patterns) (values : List (String × Value)) :
    Reports (validate patterns fields values) (rules fields values) :=
  reports_checkFields hfields.each hfields.distinct (Patterns.coversFields_of_ofFields hpatterns)
    fun _ hmem => find?_keepDeclared hmem

/-- Every rule of declared fields stands inside one of them. -/
theorem exists_name_of_mem_rules {fields : Fields} {values : List (String × Value)} {rule : Rule}
    (hmem : rule ∈ rules fields values) :
    ∃ name rest, name ∈ Entries.names fields ∧ rule.place = .name name :: rest := by
  induction fields with
  | nil => simp [rules, rulesOfFields] at hmem
  | cons head rest ih =>
      obtain ⟨name, field⟩ := head
      rw [rules, rulesOfFields, List.mem_append] at hmem
      rcases hmem with hmem | hmem
      · obtain ⟨inner, -, rfl⟩ := List.mem_map.1 hmem
        exact ⟨name, inner.place, List.mem_cons_self .., rfl⟩
      · obtain ⟨other, place, hother, hplace⟩ := ih hmem
        exact ⟨other, place, List.mem_cons_of_mem _ hother, hplace⟩

theorem ne_empty_of_compile {description : ObjectDescription} {fields : Fields}
    (hcompile : compile description = .ok fields) {name : String}
    (hmem : name ∈ Entries.names fields) : name ≠ "" := by
  obtain ⟨properties, declared, additional, notes⟩ := description
  have hfields : Compiler.compileProperties declared properties = .ok fields := hcompile
  rw [Compiler.names_compileProperties hfields, List.mem_filter] at hmem
  obtain ⟨⟨other, node⟩, hproperty, rfl⟩ := List.mem_map.1 hmem.1
  have hid : other ≠ idField := by simpa using hmem.2
  obtain ⟨hblank, -⟩ := Compiler.accepted_of_compileProperties hfields hproperty hid
  rintro (rfl : other = "")
  cases hblank

/-- Where a check of a document fails, it reports the first rule that is broken: what is reported
stands in the list of all rules, it is not met, all before it are, and with other values that have
the same rules up to there the check fails in the same way. Its place reads as the names, indices
and keys on the way, joined by dots. -/
theorem first_violation_of_validate {description : ObjectDescription} {fields : Fields}
    {values : List (String × Value)} {violated : Violated}
    (hdescription : Description.WellFormedShape description)
    (hcompile : compile description = .ok fields)
    (hpatterns : Patterns.ofFields fields = .ok patterns)
    (h : validate patterns fields values = .error violated) :
    (∃ before rule after, rules fields values = before ++ rule :: after ∧
      (∀ earlier ∈ before, earlier.met) ∧ ¬ rule.met ∧ violated = rule.violated ∧
      ∀ others later, rules fields others = before ++ rule :: later →
        validate patterns fields others = .error violated) ∧
    violated.place.text = ".".intercalate (violated.place.map ValueStep.text) := by
  have hreports := reports_validate (wellFormed_compile hdescription hcompile).1 hpatterns
  obtain ⟨before, rule, after, hrules, hbefore, hbroken, rfl⟩ := (hreports values _).1 h
  refine ⟨⟨before, rule, after, hrules, hbefore, hbroken, rfl, ?_⟩, ?_⟩
  · intro others later hothers
    exact (hreports others _).2 ⟨before, rule, later, hothers, hbefore, hbroken, rfl⟩
  · have hmem : rule ∈ rules fields values := by simp [hrules]
    obtain ⟨name, rest, hname, hplace⟩ := exists_name_of_mem_rules hmem
    change rule.place.text = ".".intercalate (rule.place.map ValueStep.text)
    rw [hplace, Place.text_eq_intercalate (ne_empty_of_compile hcompile hname)]

end Validation

/-- The second tag is the first violation, although its successor breaks a rule as well. -/
theorem Validation.first_violation_of_tags :
    (∃ before rule after,
      rules Sample.taggedFields
          [("tags", .array [.string "new", .string "crimson", .null])]
        = before ++ rule :: after ∧
      (∀ earlier ∈ before, earlier.met) ∧ ¬ rule.met ∧
      (⟨[.name "tags", .index 1], .tooLong 3⟩ : Violated) = rule.violated) ∧
    Place.text [.name "tags", .index 1] = "tags.1" := by
  have hpatterns : Patterns.ofFields Sample.taggedFields = .ok [] := rfl
  have hvalidate : validate [] Sample.taggedFields
      [("tags", .array [.string "new", .string "crimson", .null])]
        = .error ⟨[.name "tags", .index 1], .tooLong 3⟩ := rfl
  obtain ⟨⟨before, rule, after, hrules, hbefore, hbroken, hviolated, -⟩, htext⟩ :=
    first_violation_of_validate Sample.wellFormed_tagged Sample.compile_tagged hpatterns hvalidate
  refine ⟨⟨before, rule, after, hrules, hbefore, hbroken, hviolated⟩, htext.trans ?_⟩
  decide +kernel

end TypedCollections
