import Mathlib.Data.List.Forall2
import TypedCollections.Proofs.Definition.WellFormed
import TypedCollections.Proofs.Except
import TypedCollections.Proofs.Value
import TypedCollections.Validation.Check
/-!
# Values that fit a definition

What a check promises of the values it gives back, said without running it: every object holds
declared names only, every field that must have a value has one, no default is left to be filled in,
and every value is of its kind and within its options. Main statement: the values that fit are
exactly those the check gives back unchanged.
-/

namespace TypedCollections

namespace Validation

variable {patterns : Patterns}

/-- A text is within the options: its pattern, its length in characters, and the allowed texts. -/
structure FitsText (patterns : Patterns) (options : Options) (text : String) : Prop where
  pattern : ∀ source pattern, patternOf? patterns options matchOption = some (source, pattern) →
    pattern.isMatch text = true
  least : ∀ least, natOption? options "minlength" = some least → least ≤ text.length
  most : ∀ most, natOption? options "maxlength" = some most → text.length ≤ most
  allowed : ∀ texts, allowed? options = some texts → .string text ∈ texts

/-- A number is within the bounds. -/
structure FitsNumber (options : Options) (number : Number) : Prop where
  least : ∀ least, numberOption? options "min" = some least → number.below least = false
  most : ∀ most, numberOption? options "max" = some most → most.below number = false

/-- A scalar is of its kind and within the options. -/
def FitsScalar (patterns : Patterns) : ScalarKind → Options → Value → Prop
  | .string, options, value => ∃ text, value = .string text ∧ FitsText patterns options text
  | .number, options, value => ∃ number, value = .number number ∧ FitsNumber options number
  | .boolean, _, value => ∃ truth, value = .bool truth

/-- A key of a map is not reserved and matches the pattern of keys. -/
structure FitsKey (pattern : Option (String × Pattern)) (key : String) : Prop where
  not_reserved : key.startsWith "$" = false
  pattern : ∀ source keyPattern, pattern = some (source, keyPattern) → keyPattern.isMatch key = true

/-- A name has no value, or null. -/
def Missing (name : String) (values : List (String × Value)) : Prop :=
  ∀ value, Entries.find? values name = some value → value = .null

/-- A declared field has a value that fits, or has none where it may do without and no default is
left to be filled in. -/
def FitsSlot (name : String) (required : Bool) (options : Options) (fits : Value → Prop)
    (values : List (String × Value)) : Prop :=
  (∃ value, Entries.find? values name = some value ∧ fits value) ∨
    Missing name values ∧ required = false ∧ Entries.find? options defaultOption = none

/-- Every name among the values is declared. -/
def Declared {α : Type} (fields : List (String × α)) (values : List (String × Value)) : Prop :=
  ∀ name ∈ Entries.names values, name ∈ Entries.names fields

mutual

/-- A value fits a type. The options are those of the field. -/
def Fits (patterns : Patterns) : FieldType → Options → Value → Prop
  | .scalar kind, options, value => FitsScalar patterns kind options value
  | .objectId, _, value => ∃ id, value = .objectId id
  | .nested fields, _, value =>
      ∃ members, value = .object members ∧ Declared fields members ∧
        FitsFields patterns fields members
  | .array element, options, value =>
      ∃ items, value = .array items ∧ ∀ item ∈ items, Fits patterns element options item
  | .map values, options, value =>
      ∃ members, value = .object members ∧ ∀ member ∈ members,
        FitsKey (patternOf? patterns options keyMatchOption) member.1 ∧
          (member.2 = .null ∧ values.required = false ∨ FitsField patterns values member.2)

/-- A value fits a field. -/
def FitsField (patterns : Patterns) : FieldOf FieldType → Value → Prop
  | ⟨type, _, _, options⟩, value => Fits patterns type options value

/-- The values of every declared field fit. -/
def FitsFields (patterns : Patterns) :
    List (String × FieldOf FieldType) → List (String × Value) → Prop
  | [], _ => True
  | (name, field) :: rest, values =>
      FitsSlot name field.required field.options (FitsField patterns field) values ∧
        FitsFields patterns rest values

end

/-- The values of a document conform to a definition. -/
structure Conforms (patterns : Patterns) (fields : Fields) (values : List (String × Value)) :
    Prop where
  declared : Declared fields values
  fits : FitsFields patterns fields values

/-! ### Scalars and keys -/

theorem ensure_eq_ok_iff {condition : Bool} {violation : Violation} :
    ensure condition violation = .ok () ↔ condition = true := by
  unfold ensure
  cases condition with
  | true => simp
  | false => simp [fail]

theorem then_eq_ok_iff {α : Type} {check : Check Unit} {next : Unit → Check α} {result : α} :
    check.bind next = .ok result ↔ check = .ok () ∧ next () = .ok result := by
  rw [bind_eq_ok_iff]
  constructor
  · intro h
    obtain ⟨_, hcheck, hnext⟩ := h
    exact ⟨hcheck, hnext⟩
  · intro h
    obtain ⟨hcheck, hnext⟩ := h
    exact ⟨(), hcheck, hnext⟩

/-- A check with an option that may not be set. -/
def checkOption {α : Type} (option : Option α) (check : α → Check Unit) : Check Unit :=
  match option with
  | some found => check found
  | none => .ok ()

theorem checkOption_eq_ok_iff {α : Type} {option : Option α} {check : α → Check Unit} :
    checkOption option check = .ok () ↔ ∀ found, option = some found → check found = .ok () := by
  cases option with
  | none => simp [checkOption]
  | some found => simp [checkOption]

theorem checkText_eq (options : Options) (text : String) :
    checkText patterns options text
      = (checkOption (patternOf? patterns options matchOption) fun found =>
          ensure (found.2.isMatch text) (.mismatch found.1)).bind fun _ =>
        (checkOption (natOption? options "minlength") fun least =>
          ensure (least ≤ text.length) (.tooShort least)).bind fun _ =>
        (checkOption (natOption? options "maxlength") fun most =>
          ensure (text.length ≤ most) (.tooLong most)).bind fun _ =>
        checkOption (allowed? options) fun texts =>
          ensure (texts.any fun json => json.string? = some text) .notAllowed := by
  unfold checkText
  cases patternOf? patterns options matchOption <;> cases natOption? options "minlength" <;>
    cases natOption? options "maxlength" <;> cases allowed? options <;> rfl

private theorem string?_eq_some_iff {json : Json} {text : String} :
    json.string? = some text ↔ json = .string text := by
  cases json with
  | string other => simp [Json.string?]
  | _ => simp [Json.string?]

theorem any_string?_eq_true_iff {texts : List Json} {text : String} :
    (texts.any fun json => json.string? = some text) = true ↔ .string text ∈ texts := by
  simp [List.any_eq_true, string?_eq_some_iff]

theorem checkText_eq_ok_iff {options : Options} {text : String} :
    checkText patterns options text = .ok () ↔ FitsText patterns options text := by
  rw [checkText_eq]
  simp only [then_eq_ok_iff, checkOption_eq_ok_iff, ensure_eq_ok_iff, decide_eq_true_eq,
    any_string?_eq_true_iff]
  constructor
  · intro h
    obtain ⟨hpattern, hleast, hmost, htexts⟩ := h
    exact ⟨fun source pattern h => hpattern (source, pattern) h, hleast, hmost, htexts⟩
  · intro h
    exact ⟨fun found hfound => h.pattern found.1 found.2 hfound, h.least, h.most, h.allowed⟩

theorem checkNumber_eq (options : Options) (number : Number) :
    checkNumber options number
      = (checkOption (numberOption? options "min") fun least =>
          ensure (!number.below least) (.below least)).bind fun _ =>
        checkOption (numberOption? options "max") fun most =>
          ensure (!most.below number) (.above most) := by
  unfold checkNumber
  cases numberOption? options "min" <;> cases numberOption? options "max" <;> rfl

theorem checkNumber_eq_ok_iff {options : Options} {number : Number} :
    checkNumber options number = .ok () ↔ FitsNumber options number := by
  rw [checkNumber_eq]
  simp only [then_eq_ok_iff, checkOption_eq_ok_iff, ensure_eq_ok_iff, Bool.not_eq_true']
  constructor
  · intro h
    obtain ⟨hleast, hmost⟩ := h
    exact ⟨hleast, hmost⟩
  · intro h
    exact ⟨h.least, h.most⟩

private theorem map_const_eq_ok_iff {check : Check Unit} {value checked : Value} :
    (check.map fun _ => value) = .ok checked ↔ check = .ok () ∧ checked = value := by
  rw [map_eq_ok_iff]
  constructor
  · intro h
    obtain ⟨_, hcheck, rfl⟩ := h
    exact ⟨hcheck, rfl⟩
  · intro h
    obtain ⟨hcheck, rfl⟩ := h
    exact ⟨(), hcheck, rfl⟩

/-- A scalar is given back as it is, if it fits. -/
theorem checkScalar_eq_ok_iff {kind : ScalarKind} {options : Options} {value checked : Value} :
    checkScalar patterns kind options value = .ok checked ↔
      FitsScalar patterns kind options value ∧ checked = value := by
  cases kind with
  | string =>
      cases value with
      | string text => simp [checkScalar, map_const_eq_ok_iff, checkText_eq_ok_iff, FitsScalar]
      | _ => simp [checkScalar, wrongKind, fail, FitsScalar]
  | number =>
      cases value with
      | number number =>
          simp [checkScalar, map_const_eq_ok_iff, checkNumber_eq_ok_iff, FitsScalar]
      | _ => simp [checkScalar, wrongKind, fail, FitsScalar]
  | boolean =>
      cases value with
      | bool truth => simp [checkScalar, FitsScalar, eq_comm]
      | _ => simp [checkScalar, wrongKind, fail, FitsScalar]

theorem at?_eq_ok_iff {α : Type} {step : ValueStep} {check : Check α} {result : α} :
    at? step check = .ok result ↔ check = .ok result :=
  mapError_eq_ok_iff

theorem checkKey_eq_ok_iff {pattern : Option (String × Pattern)} {key : String} :
    checkKey pattern key = .ok () ↔ FitsKey pattern key := by
  unfold checkKey
  split
  · rename_i hreserved
    constructor
    · intro h
      cases h
    · intro h
      rw [h.not_reserved] at hreserved
      cases hreserved
  · rename_i hreserved
    have hreserved : key.startsWith "$" = false := by simpa using hreserved
    cases pattern with
    | none => exact ⟨fun _ => ⟨hreserved, by simp⟩, fun _ => rfl⟩
    | some found =>
        obtain ⟨source, pattern⟩ := found
        simp only [ensure_eq_ok_iff]
        constructor
        · intro hmatch
          refine ⟨hreserved, ?_⟩
          rintro _ _ ⟨⟩
          exact hmatch
        · intro h
          exact h.pattern source pattern rfl

/-! ### Items and entries -/

theorem checkItems_eq_ok_iff {check : Value → Check Value} {index : Nat}
    {items checked : List Value} :
    checkItems check index items = .ok checked ↔
      List.Forall₂ (fun item result => check item = .ok result) items checked := by
  induction items generalizing index checked with
  | nil => simp [checkItems, eq_comm]
  | cons item rest ih =>
      unfold checkItems
      rw [List.forall₂_cons_left_iff]
      cases hitem : check item with
      | error violated => simp [at?]
      | ok result =>
          simp only [at?, mapError_ok, map_eq_ok_iff, ih]
          constructor
          · intro h
            obtain ⟨results, hrest, rfl⟩ := h
            exact ⟨result, results, rfl, hrest, rfl⟩
          · intro h
            obtain ⟨result, results, ⟨⟩, hrest, rfl⟩ := h
            exact ⟨results, hrest, rfl⟩

theorem checkEntry_eq_ok_iff {required : Bool} {check : Value → Check Value}
    {value checked : Value} (hnull : ∀ result, check .null ≠ .ok result) :
    checkEntry required check value = .ok checked ↔
      checked = .null ∧ value = .null ∧ required = false ∨ check value = .ok checked := by
  unfold checkEntry
  cases value with
  | null =>
      have hcheck : ¬ check .null = .ok checked := hnull checked
      cases required with
      | true => simp [Value.isNull, fail, hcheck]
      | false => simp [Value.isNull, hcheck, eq_comm]
  | _ => simp [Value.isNull]

theorem checkEntries_eq_ok_iff {pattern : Option (String × Pattern)} {required : Bool}
    {check : Value → Check Value} {members checked : List (String × Value)} :
    checkEntries pattern required check members = .ok checked ↔
      List.Forall₂ (fun member result => result.1 = member.1 ∧ FitsKey pattern member.1 ∧
        checkEntry required check member.2 = .ok result.2) members checked := by
  induction members generalizing checked with
  | nil => simp [checkEntries, eq_comm]
  | cons member rest ih =>
      obtain ⟨key, value⟩ := member
      unfold checkEntries
      rw [List.forall₂_cons_left_iff]
      cases hentry : at? (.name key)
          ((checkKey pattern key).bind fun _ => checkEntry required check value) with
      | error violated =>
          constructor
          · intro h
            cases h
          · intro h
            obtain ⟨result, results, ⟨-, hkey, hvalue⟩, -, -⟩ := h
            have hok : at? (.name key)
                ((checkKey pattern key).bind fun _ => checkEntry required check value)
                  = .ok result.2 := by
              rw [at?_eq_ok_iff, then_eq_ok_iff, checkKey_eq_ok_iff]
              exact ⟨hkey, hvalue⟩
            rw [hok] at hentry
            cases hentry
      | ok result =>
          rw [at?_eq_ok_iff, then_eq_ok_iff, checkKey_eq_ok_iff] at hentry
          obtain ⟨hkey, hvalue⟩ := hentry
          simp only [map_eq_ok_iff, ih]
          constructor
          · intro h
            obtain ⟨results, hrest, rfl⟩ := h
            exact ⟨(key, result), results, ⟨rfl, hkey, hvalue⟩, hrest, rfl⟩
          · intro h
            obtain ⟨⟨name, other⟩, results, ⟨rfl, -, hother⟩, hrest, rfl⟩ := h
            rw [hvalue] at hother
            cases hother
            exact ⟨results, hrest, rfl⟩

/-! ### Declared names -/

theorem declared_keepDeclared {α : Type} (fields : List (String × α))
    (values : List (String × Value)) : Declared fields (keepDeclared fields values) := by
  intro name hmem
  obtain ⟨value, hvalue, rfl⟩ := List.mem_map.1 hmem
  have hhas : Entries.has fields value.1 = true := (List.mem_filter.1 hvalue).2
  exact Entries.has_iff.1 hhas

theorem distinct_keepDeclared {α : Type} (fields : List (String × α))
    {values : List (String × Value)} (h : Entries.Distinct values) :
    Entries.Distinct (keepDeclared fields values) :=
  List.Nodup.sublist (List.Sublist.map _ List.filter_sublist) h

theorem wellFormed_keepDeclared {α : Type} (fields : List (String × α))
    {values : List (String × Value)} (h : Value.WellFormedMembers values) :
    Value.WellFormedMembers (keepDeclared fields values) :=
  Value.wellFormedMembers_iff.2 fun value hmem =>
    Value.wellFormedMembers_iff.1 h value (List.mem_filter.1 hmem).1

theorem keepDeclared_eq_self {α : Type} {fields : List (String × α)}
    {values : List (String × Value)} (h : Declared fields values) :
    keepDeclared fields values = values := by
  apply List.filter_eq_self.2
  intro value hmem
  have hname : value.1 ∈ Entries.names values := List.mem_map_of_mem hmem
  exact Entries.has_iff.2 (h value.1 hname)

theorem find?_keepDeclared {α : Type} {fields : List (String × α)} {values : List (String × Value)}
    {name : String} (h : name ∈ Entries.names fields) :
    Entries.find? (keepDeclared fields values) name = Entries.find? values name := by
  induction values with
  | nil => rfl
  | cons value rest ih =>
      unfold keepDeclared at ih ⊢
      rw [Entries.find?_cons]
      by_cases hname : value.1 = name
      · rw [List.filter_cons_of_pos (by rw [hname]; exact Entries.has_iff.2 h),
          Entries.find?_cons, if_pos hname, if_pos hname]
      · rw [if_neg hname, ← ih, List.filter_cons]
        split
        · rw [Entries.find?_cons, if_neg hname]
        · rfl

theorem names_keepDeclared {α : Type} (fields : List (String × α))
    (values : List (String × Value)) :
    Entries.names (keepDeclared fields values)
      = (Entries.names values).filter fun name => Entries.has fields name := by
  simp [Entries.names, keepDeclared, List.filter_map, Function.comp_def]

/-- Writing under a name that stands already or is not declared leaves the declared names as they
are. -/
theorem names_keepDeclared_write {α : Type} {fields : List (String × α)}
    {values : List (String × Value)} {name : String} (value : Value)
    (h : name ∈ Entries.names fields → name ∈ Entries.names values) :
    Entries.names (keepDeclared fields (Entries.write values name value))
      = Entries.names (keepDeclared fields values) := by
  rw [names_keepDeclared, names_keepDeclared, Entries.names_write]
  split
  · rfl
  · rename_i hnew
    have hundeclared : ¬ Entries.has fields name = true := fun hhas =>
      hnew (h (Entries.has_iff.1 hhas))
    rw [List.filter_append, List.filter_cons_of_neg hundeclared, List.filter_nil, List.append_nil]

end Validation

end TypedCollections
