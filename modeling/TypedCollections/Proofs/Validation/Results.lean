import TypedCollections.Proofs.Definition.Meaning
/-!
# The results of a check

What a definition asks of the values of a document, said of the definition alone: an option that
holds a pattern is the text of a pattern that matches, wherever the patterns read for a check are
kept. The results of a check are exactly the values that meet the definition, and a check gives
these back as they are.
-/

namespace TypedCollections

namespace Validation

open Description (Matches)

/-- A text is within the options: its pattern, its length in characters, and the allowed texts. -/
structure MeetsText (options : Options) (text : String) : Prop where
  pattern : ∀ json, Entries.find? options matchOption = some json → Matches json text
  least : ∀ least, natOption? options "minlength" = some least → least ≤ text.length
  most : ∀ most, natOption? options "maxlength" = some most → text.length ≤ most
  allowed : ∀ texts, allowed? options = some texts → .string text ∈ texts

/-- A scalar is of its kind and within the options. -/
def MeetsScalar : ScalarKind → Options → Value → Prop
  | .string, options, value => ∃ text, value = .string text ∧ MeetsText options text
  | .number, options, value => ∃ number, value = .number number ∧ FitsNumber options number
  | .boolean, _, value => ∃ truth, value = .bool truth

/-- A key of a map is not reserved and matches the pattern of keys. -/
structure MeetsKey (options : Options) (key : String) : Prop where
  not_reserved : key.startsWith "$" = false
  pattern : ∀ json, Entries.find? options keyMatchOption = some json → Matches json key

/-- A declared field has no value, where it need not have one and no default is left to be filled
in, or a value other than null that is right for it. -/
def MeetsSlot (name : String) (required : Bool) (options : Options) (meets : Value → Prop)
    (values : List (String × Value)) : Prop :=
  Missing name values ∧ required = false ∧ Entries.find? options defaultOption = none ∨
    ∃ value, Entries.find? values name = some value ∧ value ≠ .null ∧ meets value

/-- A value of a map is null, where it may be, or another value that is right for it. -/
def MeetsEntry (required : Bool) (meets : Value → Prop) (value : Value) : Prop :=
  value = .null ∧ required = false ∨ value ≠ .null ∧ meets value

mutual

/-- A value meets a type. The options are those of the field. -/
def Meets : FieldType → Options → Value → Prop
  | .scalar kind, options, value => MeetsScalar kind options value
  | .objectId, _, value => ∃ id, value = .objectId id
  | .nested fields, _, value =>
      ∃ members, value = .object members ∧ Declared fields members ∧ MeetsFields fields members
  | .array element, options, value =>
      ∃ items, value = .array items ∧ ∀ item ∈ items, Meets element options item
  | .map values, options, value =>
      ∃ members, value = .object members ∧ ∀ member ∈ members,
        MeetsKey options member.1 ∧ MeetsEntry values.required (MeetsField values) member.2

/-- A value meets a field. -/
def MeetsField : FieldOf FieldType → Value → Prop
  | ⟨type, _, _, options⟩, value => Meets type options value

/-- The values of every declared field meet it. -/
def MeetsFields : List (String × FieldOf FieldType) → List (String × Value) → Prop
  | [], _ => True
  | (name, field) :: rest, values =>
      MeetsSlot name field.required field.options (MeetsField field) values ∧
        MeetsFields rest values

end

/-- The values of a document meet a definition: all are declared, and every field is met. -/
structure MeetsDefinition (fields : Fields) (values : List (String × Value)) : Prop where
  declared : Declared fields values
  fields : MeetsFields fields values

/-! ### With the patterns of the definition -/

variable {patterns : Patterns}

/-- A text matches the pattern that is kept for an option if it matches the option. -/
private theorem isMatch_of_matches {options : Options} {key text : String}
    (h : ∀ json, Entries.find? options key = some json → Matches json text)
    (hread : patterns.Covers options key) :
    ∀ source pattern, patternOf? patterns options key = some (source, pattern) →
      pattern.isMatch text = true := by
  intro source pattern hpattern
  cases hjson : Entries.find? options key with
  | none => simp [patternOf?, hjson] at hpattern
  | some json =>
      obtain ⟨_, _, -, hkept, hmatches⟩ := Compiler.patternOf?_of_covers hread hjson
      rw [hkept] at hpattern
      cases hpattern
      exact (hmatches text).1 (h json hjson)

private theorem meetsPattern_iff {options : Options} {key text : String}
    (hcovers : patterns.Covers options key) :
    (∀ json, Entries.find? options key = some json → Matches json text) ↔
      ∀ source pattern, patternOf? patterns options key = some (source, pattern) →
        pattern.isMatch text = true :=
  ⟨fun h => isMatch_of_matches h hcovers,
    fun h _ hjson => Compiler.matches_of_covers hcovers h hjson⟩

theorem meetsScalar_iff {kind : ScalarKind} {options : Options} {value : Value}
    (hcovers : patterns.Covers options matchOption) :
    MeetsScalar kind options value ↔ FitsScalar patterns kind options value := by
  have htext : ∀ text, MeetsText options text ↔ FitsText patterns options text := by
    intro text
    constructor
    · intro h
      exact ⟨(meetsPattern_iff hcovers).1 h.pattern, h.least, h.most, h.allowed⟩
    · intro h
      exact ⟨(meetsPattern_iff hcovers).2 h.pattern, h.least, h.most, h.allowed⟩
  cases kind with
  | string => simp only [MeetsScalar, FitsScalar, htext]
  | number => exact Iff.rfl
  | boolean => exact Iff.rfl

theorem meetsKey_iff {options : Options} {key : String}
    (hcovers : patterns.Covers options keyMatchOption) :
    MeetsKey options key ↔ FitsKey (patternOf? patterns options keyMatchOption) key := by
  constructor
  · intro h
    exact ⟨h.not_reserved, (meetsPattern_iff hcovers).1 h.pattern⟩
  · intro h
    exact ⟨h.not_reserved, (meetsPattern_iff hcovers).2 h.pattern⟩

theorem meetsSlot_iff {name : String} {required : Bool} {options : Options}
    {meets fits : Value → Prop} {values : List (String × Value)} (hnull : ¬ fits .null)
    (h : ∀ value, meets value ↔ fits value) :
    MeetsSlot name required options meets values ↔ FitsSlot name required options fits values := by
  unfold MeetsSlot FitsSlot
  rw [or_comm]
  refine or_congr_left (exists_congr fun value => and_congr_right fun _ => ?_)
  rw [h]
  refine and_iff_right_of_imp ?_
  rintro hfits rfl
  exact hnull hfits

theorem meetsEntry_iff {required : Bool} {meets fits : Value → Prop} {value : Value}
    (hnull : ¬ fits .null) (h : meets value ↔ fits value) :
    MeetsEntry required meets value ↔ value = .null ∧ required = false ∨ fits value := by
  unfold MeetsEntry
  rw [h]
  refine or_congr_right (and_iff_right_of_imp ?_)
  rintro hfits rfl
  exact hnull hfits

mutual

/-- With patterns that cover the type, the values that meet it are those that fit it. -/
theorem meets_iff : ∀ {type : FieldType} {options : Options} {value : Value},
    patterns.CoversType type → patterns.Covers options matchOption →
      patterns.Covers options keyMatchOption →
        (Meets type options value ↔ Fits patterns type options value)
  | .scalar _, _, _, _, hmatch, _ => meetsScalar_iff hmatch
  | .objectId, _, _, _, _, _ => Iff.rfl
  | .nested fields, _, _, hcovers, _, _ =>
      exists_congr fun _ => and_congr_right fun _ => and_congr_right fun _ =>
        meetsFields_iff hcovers
  | .array element, options, _, hcovers, hmatch, hkeyMatch => by
      have hcovers : patterns.CoversType element := hcovers
      exact exists_congr fun _ => and_congr_right fun _ => forall₂_congr fun item _ =>
        meets_iff hcovers hmatch hkeyMatch
  | .map values, _, _, hcovers, _, hkeyMatch => by
      have hcovers : patterns.CoversField values := hcovers
      exact exists_congr fun _ => and_congr_right fun _ => forall₂_congr fun member _ =>
        and_congr (meetsKey_iff hkeyMatch)
          (meetsEntry_iff (not_fitsField_null values) (meetsField_iff hcovers))

theorem meetsField_iff : ∀ {field : FieldOf FieldType} {value : Value},
    patterns.CoversField field → (MeetsField field value ↔ FitsField patterns field value)
  | ⟨_, _, _, _⟩, _, hcovers => meets_iff hcovers.2.2 hcovers.1 hcovers.2.1

theorem meetsFields_iff : ∀ {fields : List (String × FieldOf FieldType)}
    {values : List (String × Value)}, patterns.CoversFields fields →
      (MeetsFields fields values ↔ FitsFields patterns fields values)
  | [], _, _ => Iff.rfl
  | (_, field) :: _, _, hcovers =>
      and_congr
        (meetsSlot_iff (not_fitsField_null field) fun _ => meetsField_iff hcovers.1)
        (meetsFields_iff hcovers.2)

end

/-- Values meet a definition exactly if the check with its patterns gives them back as they are. -/
theorem meetsDefinition_iff {fields : Fields} {values : List (String × Value)}
    (hwell : fields.WellFormed) (hpatterns : Patterns.ofFields fields = .ok patterns) :
    MeetsDefinition fields values ↔ validate patterns fields values = .ok values := by
  have hfields : MeetsFields fields values ↔ FitsFields patterns fields values :=
    meetsFields_iff (Patterns.coversFields_of_ofFields hpatterns)
  rw [← conforms_iff hwell]
  constructor
  · intro h
    exact ⟨h.declared, hfields.1 h.fields⟩
  · intro h
    exact ⟨h.declared, hfields.2 h.fits⟩

/-- The results of a check are exactly the values that meet the definition. A check gives these back
as they are, so a second check changes nothing. -/
theorem results_of_validate {fields : Fields} (hwell : fields.WellFormed)
    (hpatterns : Patterns.ofFields fields = .ok patterns) :
    (∀ checked, (∃ values, validate patterns fields values = .ok checked) ↔
      MeetsDefinition fields checked) ∧
    (∀ values, MeetsDefinition fields values → validate patterns fields values = .ok values) ∧
    ∀ values checked, validate patterns fields values = .ok checked →
      validate patterns fields checked = .ok checked := by
  have hmeets : ∀ {values}, MeetsDefinition fields values ↔
      validate patterns fields values = .ok values :=
    meetsDefinition_iff hwell hpatterns
  have hagain : ∀ values checked, validate patterns fields values = .ok checked →
      validate patterns fields checked = .ok checked := by
    intro values checked h
    exact (conforms_iff hwell).1 (conforms_of_validate hwell h)
  refine ⟨fun checked => ⟨?_, fun h => ⟨checked, hmeets.1 h⟩⟩, fun _ => hmeets.1, hagain⟩
  rintro ⟨values, h⟩
  exact hmeets.2 (hagain values checked h)

end Validation

namespace Sample

open Validation

/-- The name of an account is a lowercase word. -/
def nameField : Field :=
  { type := .scalar .string, required := true,
    options := [("match", .string "^[a-z]+$"), ("minlength", .ofNat 2)] }

/-- The scores of an account stand under lowercase words. -/
def scoresField : Field :=
  { type := .map { type := .scalar .number, required := false }, required := true,
    options := [("keyMatch", .string "^[a-z]+$")] }

/-- Accounts: a name, a role with a default, friends by identifier, a home and scores. -/
def accounts : Fields :=
  [("name", nameField),
   ("role", { type := .scalar .string, required := false,
              options := [("enum", .array [.string "reader", .string "writer"]),
                          ("default", .string "reader")] }),
   ("friends", { type := .array .objectId, required := false }),
   ("home", { type := .nested [("city", { type := .scalar .string, required := true })],
              required := false }),
   ("scores", scoresField)]

theorem length_friend : (List.replicate 12 (1 : UInt8)).length = 12 := rfl

/-- The identifier of a friend. -/
def friend : ObjectId := ⟨List.replicate 12 1, length_friend⟩

/-- An account as it is given. -/
def givenAccount : List (String × Value) :=
  [("spare", .bool true), ("name", .string "ada"), ("role", .null),
   ("friends", .array [.string "010101010101010101010101"]),
   ("home", .object [("zip", .null), ("city", .string "Turin")]),
   ("scores", .object [("go", .number (Number.ofInt 3)), ("chess", .null)])]

/-- The account as it is kept. -/
def keptAccount : List (String × Value) :=
  [("name", .string "ada"), ("role", .string "reader"),
   ("friends", .array [.objectId friend]),
   ("home", .object [("city", .string "Turin")]),
   ("scores", .object [("go", .number (Number.ofInt 3)), ("chess", .null)])]

/-- The pattern of lowercase words. -/
def lowercase : Pattern :=
  .seq (.assertion .textStart)
    (.seq (.repetition (.set ⟨[97, 123]⟩) 1 none false) (.assertion .textEnd))

/-- The patterns of accounts. -/
def accountPatterns : Patterns := [("^[a-z]+$", lowercase)]

theorem ofFields_accounts : Patterns.ofFields accounts = .ok accountPatterns := by decide +kernel

theorem wellFormed_accounts : accounts.WellFormed := by
  refine ⟨?_, ⟨⟨?_, trivial⟩, ⟨?_, trivial⟩, ⟨trivial, trivial⟩, ⟨trivial, ?_⟩,
    ⟨⟨trivial, trivial⟩, trivial, trivial⟩, trivial⟩⟩
  · simp [Entries.Distinct, Entries.names, accounts]
  · refine ⟨trivial, ?_, trivial⟩
    simp [Json.ofNat, Json.WellFormed, Numeral.Fits]
  · exact ⟨⟨trivial, trivial, trivial⟩, trivial, trivial⟩
  · refine ⟨?_, ⟨trivial, trivial⟩, trivial⟩
    simp [Entries.Distinct, Entries.names]

theorem checkField_name :
    checkField accountPatterns nameField (.string "ada") = .ok (.string "ada") := by
  have htext : checkText accountPatterns nameField.options "ada" = .ok () := by decide +kernel
  have hfits : FitsScalar accountPatterns .string nameField.options (.string "ada") :=
    ⟨"ada", rfl, checkText_eq_ok_iff.1 htext⟩
  exact checkScalar_eq_ok_iff.2 ⟨hfits, rfl⟩

theorem checkField_scores : checkField accountPatterns scoresField
    (.object [("go", .number (Number.ofInt 3)), ("chess", .null)])
      = .ok (.object [("go", .number (Number.ofInt 3)), ("chess", .null)]) := by
  have hkey : ∀ key ∈ ["go", "chess"], checkKey
      (patternOf? accountPatterns scoresField.options keyMatchOption) key = .ok () := by
    decide +kernel
  refine checkType_map_eq_ok_iff.2 ⟨_, _, rfl, List.forall₂_same.2 fun member hmem => ?_, rfl⟩
  refine ⟨rfl, checkKey_eq_ok_iff.1 (hkey _ (List.mem_map_of_mem hmem)), ?_⟩
  rcases List.mem_pair.1 hmem with rfl | rfl
  · exact .inr rfl
  · exact .inl ⟨rfl, rfl, rfl⟩

theorem validate_accounts : validate accountPatterns accounts givenAccount = .ok keptAccount := by
  refine checkFields_cons_eq_ok_iff.2
    ⟨_, checkSlot_eq_ok_iff.2 (.inl ⟨_, _, rfl, checkField_name, rfl⟩), ?_⟩
  refine checkFields_cons_eq_ok_iff.2 ⟨_, rfl, ?_⟩
  refine checkFields_cons_eq_ok_iff.2 ⟨_, rfl, ?_⟩
  refine checkFields_cons_eq_ok_iff.2 ⟨_, rfl, ?_⟩
  exact checkFields_cons_eq_ok_iff.2
    ⟨_, checkSlot_eq_ok_iff.2 (.inl ⟨_, _, rfl, checkField_scores, rfl⟩), rfl⟩

end Sample

theorem Validation.meetsDefinition_accounts :
    MeetsDefinition Sample.accounts Sample.keptAccount ∧
      validate Sample.accountPatterns Sample.accounts Sample.keptAccount
        = .ok Sample.keptAccount := by
  obtain ⟨hmeets, hunchanged, -⟩ :=
    results_of_validate Sample.wellFormed_accounts Sample.ofFields_accounts
  have hkept : MeetsDefinition Sample.accounts Sample.keptAccount :=
    (hmeets _).1 ⟨Sample.givenAccount, Sample.validate_accounts⟩
  exact ⟨hkept, hunchanged _ hkept⟩

end TypedCollections
