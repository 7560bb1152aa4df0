import TypedCollections.Proofs.Definition.Compiler
import TypedCollections.Proofs.Validation.Conformance
import TypedCollections.Proofs.Validation.Patterns
/-!
# What a description asks of a document

The meaning of a description, read off its nodes without compiling it. What a store accepts by the
compiled definition has this meaning at every depth, although compiling puts the annotations of an
array and of everything inside it into one list of options.
-/

namespace TypedCollections

/-- The value that a node's own annotations give an option: that of the last entry of this name,
with the attributes after the constraints. -/
def Annotations.own? (notes : Annotations) (key : String) : Option Json :=
  ((notes.constraints ++ notes.attributes).reverse.find? fun option =>
    optionKey option.1 = key).map Prod.snd

namespace Description

/-- The JSON value is the text of a pattern that matches. -/
def Matches (json : Json) (text : String) : Prop :=
  ∃ source pattern, json = .string source ∧ Pattern.read source = .ok pattern ∧
    pattern.isMatch text = true

/-- The text is within what the annotations say of texts. -/
structure AdmitsText (notes : Annotations) (text : String) : Prop where
  pattern : ∀ json, notes.own? matchOption = some json → Matches json text
  least : ∀ least, (notes.own? "minlength").bind Json.nat? = some least → least ≤ text.length
  most : ∀ most, (notes.own? "maxlength").bind Json.nat? = some most → text.length ≤ most
  allowed : ∀ texts, (notes.own? "enum").bind Json.array? = some texts → .string text ∈ texts

/-- The number is within the bounds of the annotations. -/
structure AdmitsNumber (notes : Annotations) (number : Number) : Prop where
  least : ∀ least, (notes.own? "min").bind Json.number? = some least → number.below least = false
  most : ∀ most, (notes.own? "max").bind Json.number? = some most → most.below number = false

/-- The scalar is of its kind and within the annotations. -/
def AdmitsScalar : ScalarKind → Annotations → Value → Prop
  | .string, notes, value => ∃ text, value = .string text ∧ AdmitsText notes text
  | .number, notes, value => ∃ number, value = .number number ∧ AdmitsNumber notes number
  | .boolean, _, value => ∃ truth, value = .bool truth

/-- The key is not reserved and matches the pattern of keys. -/
def AdmitsKey (keyOptions : Options) (key : String) : Prop :=
  key.startsWith "$" = false ∧
    ∀ json, Entries.find? keyOptions "pattern" = some json → Matches json key

/-- An object requires a property: the declared set decides if there is one, and otherwise the mark
of the property's node. -/
def Requires (declared : Option NameSet) (name : String) (node : Description) : Prop :=
  match declared with
  | some names => names.has name = true
  | none => node.isOptional = false

/-- The identifiers that a reference stands for: one, or an array of them. -/
def AdmitsReference (many : Bool) (value : Value) : Prop :=
  if many then ∃ items, value = .array items ∧ ∀ item ∈ items, ∃ id, item = .objectId id
  else ∃ id, value = .objectId id

mutual

/-- The value is what the node describes. -/
def Admits : Description → Value → Prop
  | .scalar kind notes, value => AdmitsScalar kind notes value
  | .object shape, value => ∃ members, value = .object members ∧ AdmitsShape shape members
  | .array items _, value =>
      ∃ elements, value = .array elements ∧ ∀ element ∈ elements, Admits items element
  | .dictionary values keyOptions _, value =>
      ∃ members, value = .object members ∧ ∀ member ∈ members, AdmitsKey keyOptions member.1 ∧
        (member.2 = .null ∧ values.isOptional = true ∨ Admits values member.2)
  | .reference _ _ many _, value => AdmitsReference many value

/-- Every name is a property of the object other than the identifier, and the properties have the
values they describe. -/
def AdmitsShape : ObjectShape Description → List (String × Value) → Prop
  | ⟨properties, declared, _, _⟩, members =>
      (∀ name ∈ Entries.names members, name ∈ Entries.names properties ∧ name ≠ idField) ∧
        AdmitsProperties declared properties members

/-- Every property other than the identifier has a value if it is required, and the value is what
its node describes or null. -/
def AdmitsProperties (declared : Option NameSet) :
    List (String × Description) → List (String × Value) → Prop
  | [], _ => True
  | (name, node) :: rest, members =>
      (name ≠ idField →
        (Requires declared name node →
          ∃ value, Entries.find? members name = some value ∧ value ≠ .null) ∧
        ∀ value, Entries.find? members name = some value → value = .null ∨ Admits node value) ∧
      AdmitsProperties declared rest members

end

end Description

namespace Compiler

/-! ### The innermost annotations decide -/

theorem find?_writeAll_renamed (entries front : Options) (key : String) :
    Entries.find? (Entries.writeAll front (renamed entries)) key =
      ((entries.reverse.find? fun option => optionKey option.1 = key).map Prod.snd).or
        (Entries.find? front key) := by
  induction entries generalizing front with
  | nil => rfl
  | cons option rest ih =>
      have hstep : Entries.writeAll front (renamed (option :: rest))
          = Entries.writeAll (Entries.write front (optionKey option.1) option.2) (renamed rest) := rfl
      rw [hstep, ih, Entries.find?_write, List.reverse_cons, List.find?_append]
      cases rest.reverse.find? fun option => optionKey option.1 = key with
      | some found => simp
      | none =>
          by_cases hkey : optionKey option.1 = key
          · simp [hkey]
          · simp [hkey]

/-- The options hold what the innermost node says of itself: the own annotations of a scalar, the
pattern of a dictionary's keys. -/
def Settles : Description → Options → Prop
  | .array items _, options => Settles items options
  | .scalar _ notes, options =>
      ∀ key json, notes.own? key = some json → Entries.find? options key = some json
  | .dictionary _ keyOptions _, options =>
      ∀ json, Entries.find? keyOptions "pattern" = some json →
        Entries.find? options keyMatchOption = some json
  | _, _ => True

private theorem settles_writeAll : ∀ (node : Description) (front : Options),
    Settles node (addKeyPattern (Entries.writeAll front
      (renamed ((chain node).flatMap fun note => note.constraints ++ note.attributes)))
        (keyPattern? node))
  | .array items notes, front => by
      have hchain : renamed ((chain (.array items notes)).flatMap fun note =>
          note.constraints ++ note.attributes)
            = renamed (notes.constraints ++ notes.attributes) ++
              renamed ((chain items).flatMap fun note => note.constraints ++ note.attributes) := by
        rw [chain, List.flatMap_cons, renamed, List.map_append]
        rfl
      -- The notes of the items are written last, so whatever stands before them is in `front`.
      rw [hchain, Entries.writeAll, List.foldl_append]
      exact settles_writeAll items _
  | .scalar kind notes, front => by
      intro key json hown
      show Entries.find? (Entries.writeAll front (renamed ([notes].flatMap fun note =>
        note.constraints ++ note.attributes))) key = some json
      rw [find?_writeAll_renamed]
      simp only [List.flatMap_cons, List.flatMap_nil, List.append_nil]
      unfold Annotations.own? at hown
      rw [hown]
      rfl
  | .dictionary values keyOptions notes, front => by
      intro json hjson
      rw [show keyPattern? (.dictionary values keyOptions notes) = some json from hjson,
        addKeyPattern, Entries.find?_write, if_pos rfl]
  | .object _, _ => trivial
  | .reference .., _ => trivial

theorem settles_of_optionsOf {node : Description} {options : Options}
    (h : optionsOf (chain node) = .ok options) :
    Settles node (addKeyPattern options (keyPattern? node)) := by
  rw [optionsOf_eq_ok h]
  exact settles_writeAll node []

/-! ### What is accepted has the meaning -/

open Description Validation

variable {patterns : Patterns}

/-- Where the patterns cover an option, the pattern that is kept for it is that of its text. -/
theorem patternOf?_of_covers {options : Options} {key : String}
    (hcovers : patterns.Covers options key) {json : Json}
    (h : Entries.find? options key = some json) :
    ∃ source pattern, json = .string source ∧
      patternOf? patterns options key = some (source, pattern) ∧
      ∀ text, Matches json text ↔ pattern.isMatch text = true := by
  obtain ⟨source, pattern, rfl, hfind, hread⟩ := hcovers json h
  refine ⟨source, pattern, rfl, by simp [patternOf?, h, Json.string?, hfind], fun text => ?_⟩
  constructor
  · rintro ⟨_, read, ⟨⟩, hread', hmatch⟩
    rw [hread] at hread'
    cases hread'
    exact hmatch
  · intro hmatch
    exact ⟨source, pattern, rfl, hread, hmatch⟩

theorem matches_of_covers {options : Options} {key text : String}
    (hcovers : patterns.Covers options key)
    (hmatch : ∀ source pattern, patternOf? patterns options key = some (source, pattern) →
      pattern.isMatch text = true) {json : Json} (h : Entries.find? options key = some json) :
    Matches json text := by
  obtain ⟨source, pattern, -, hpattern, hmatches⟩ := patternOf?_of_covers hcovers h
  exact (hmatches text).2 (hmatch source pattern hpattern)

private theorem admitsScalar_of_fits {kind : ScalarKind} {notes : Annotations} {options : Options}
    {value : Value} (hcovers : patterns.Covers options matchOption)
    (hsettles : ∀ key json, notes.own? key = some json → Entries.find? options key = some json)
    (h : FitsScalar patterns kind options value) : AdmitsScalar kind notes value := by
  have hbind : ∀ {α : Type} {key : String} {read : Json → Option α} {found : α},
      (notes.own? key).bind read = some found → (Entries.find? options key).bind read = some found := by
    intro α key read found hfound
    obtain ⟨json, hown, hread⟩ := Option.bind_eq_some_iff.1 hfound
    rw [hsettles key json hown]
    exact hread
  cases kind with
  | string =>
      obtain ⟨text, rfl, hfits⟩ := h
      refine ⟨text, rfl, fun json hown => ?_, fun least hleast => hfits.least least (hbind hleast),
        fun most hmost => hfits.most most (hbind hmost),
        fun texts htexts => hfits.allowed texts (hbind htexts)⟩
      exact matches_of_covers hcovers hfits.pattern (hsettles matchOption json hown)
  | number =>
      obtain ⟨number, rfl, hfits⟩ := h
      exact ⟨number, rfl, fun least hleast => hfits.least least (hbind hleast),
        fun most hmost => hfits.most most (hbind hmost)⟩
  | boolean => exact h

private theorem admitsReference_of_fits {many : Bool} {options : Options} {value : Value}
    (h : Fits patterns (if many then .array .objectId else .objectId) options value) :
    AdmitsReference many value := by
  cases many with
  | true => exact h
  | false => exact h

/-- A value that fits the field of a node is admitted, if values that fit its type are. -/
private theorem admits_of_fitsField {node : Description} {required : Bool} {field : Field}
    {value : Value} (hfield : fieldOf node required (resolve node) = .ok field)
    (hcovers : patterns.CoversField field) (hfits : FitsField patterns field value)
    (hnode : ∀ {type options}, resolve node = .ok type → patterns.CoversType type →
      patterns.Covers options matchOption → patterns.Covers options keyMatchOption →
      Settles node options → Fits patterns type options value → Admits node value) :
    Admits node value := by
  cases node with
  | reference target collection many notes =>
      obtain ⟨options, -, rfl⟩ := referenceField_eq_ok hfield
      exact admitsReference_of_fits hfits
  | _ =>
      obtain ⟨type, options, hresolve, hoptions, rfl⟩ := fieldOf_eq_ok id hfield
      exact hnode hresolve hcovers.2.2 hcovers.1 hcovers.2.1 (settles_of_optionsOf hoptions) hfits

theorem required_fieldOf {node : Description} {required : Bool} {field : Field}
    (h : fieldOf node required (resolve node) = .ok field) : field.required = required := by
  cases node with
  | reference target collection many notes =>
      obtain ⟨options, -, rfl⟩ := referenceField_eq_ok h
      rfl
  | _ =>
      obtain ⟨type, options, -, -, rfl⟩ := fieldOf_eq_ok id h
      rfl

theorem isRequired_iff {declared : Option NameSet} {name : String} {node : Description} :
    isRequired declared name node = true ↔ Requires declared name node := by
  cases declared with
  | some names => rfl
  | none => simp [isRequired, Requires]

theorem names_of_declared {declared : Option NameSet} {properties : List (String × Description)}
    {fields : Fields} {members : List (String × Value)}
    (hfields : compileProperties declared properties = .ok fields)
    (h : Declared fields members) :
    ∀ name ∈ Entries.names members, name ∈ Entries.names properties ∧ name ≠ idField := by
  intro name hmem
  have hname := h name hmem
  rw [names_compileProperties hfields] at hname
  obtain ⟨hname, hid⟩ := List.mem_filter.1 hname
  exact ⟨hname, by simpa using hid⟩

mutual

/-- A value that fits the type of a node is what the node describes. -/
theorem admits_of_fits : ∀ {node : Description} {type : FieldType} {options : Options}
    {value : Value}, resolve node = .ok type → patterns.CoversType type →
      patterns.Covers options matchOption → patterns.Covers options keyMatchOption →
      Settles node options → Fits patterns type options value → Admits node value
  | .scalar kind notes, _, _, _, hresolve, _, hmatch, _, hsettles, h => by
      rw [resolve] at hresolve
      cases hresolve
      exact admitsScalar_of_fits hmatch hsettles h
  | .object ⟨properties, declared, _, _⟩, _, _, _, hresolve, hcovers, _, _, _, h => by
      obtain ⟨fields, hfields, rfl⟩ := resolve_object_eq_ok hresolve
      obtain ⟨members, rfl, hdeclared, hfits⟩ := h
      exact ⟨members, rfl, names_of_declared hfields hdeclared,
        admitsProperties_of_fitsFields hfields hcovers hfits⟩
  | .array items notes, _, options, _, hresolve, hcovers, hmatch, hkeyMatch, hsettles, h => by
      obtain ⟨element, helement, rfl⟩ := resolve_array_eq_ok hresolve
      obtain ⟨elements, rfl, hfits⟩ := h
      have hcovers : patterns.CoversType element := hcovers
      have hsettles : Settles items options := hsettles
      exact ⟨elements, rfl, fun value hmem =>
        admits_of_fits helement hcovers hmatch hkeyMatch hsettles (hfits value hmem)⟩
  | .dictionary values keyOptions notes, _, _, _, hresolve, hcovers, _, hkeyMatch, hsettles, h => by
      obtain ⟨field, hfield, rfl⟩ := resolve_dictionary_eq_ok hresolve
      obtain ⟨members, rfl, hfits⟩ := h
      refine ⟨members, rfl, fun member hmem => ?_⟩
      obtain ⟨hkey, hvalue⟩ := hfits member hmem
      refine ⟨⟨hkey.not_reserved, fun json hjson => ?_⟩, ?_⟩
      · exact matches_of_covers hkeyMatch hkey.pattern (hsettles json hjson)
      · rcases hvalue with ⟨hnull, hrequired⟩ | hvalue
        · rw [required_fieldOf hfield] at hrequired
          exact .inl ⟨hnull, by simpa using hrequired⟩
        · have hcovers : patterns.CoversField field := hcovers
          exact .inr (admits_of_fitsField hfield hcovers hvalue admits_of_fits)
  | .reference .., _, _, _, hresolve, _, _, _, _, _ => by
      rw [resolve] at hresolve
      cases hresolve

/-- Values that fit the fields of an object are what its properties describe. -/
theorem admitsProperties_of_fitsFields : ∀ {properties : List (String × Description)}
    {declared : Option NameSet} {fields : Fields} {members : List (String × Value)},
    compileProperties declared properties = .ok fields → patterns.CoversFields fields →
      FitsFields patterns fields members → AdmitsProperties declared properties members
  | [], _, _, _, _, _, _ => trivial
  | (name, node) :: rest, declared, fields, members, hfields, hcovers, h => by
      obtain ⟨hname, hrest⟩ | ⟨hname, field, others, hfield, hrest, rfl⟩ :=
        compileProperties_cons_eq_ok hfields
      · exact ⟨fun hne => absurd hname hne, admitsProperties_of_fitsFields hrest hcovers h⟩
      · refine ⟨fun _ => ?_, admitsProperties_of_fitsFields hrest hcovers.2 h.2⟩
        rcases h.1 with ⟨value, hfind, hfits⟩ | ⟨hmissing, hrequired, -⟩
        · have hvalue : Admits node value :=
            admits_of_fitsField hfield hcovers.1 hfits admits_of_fits
          constructor
          · intro _
            refine ⟨value, hfind, ?_⟩
            rintro rfl
            exact not_fitsField_null field hfits
          · intro other hother
            rw [hfind] at hother
            cases hother
            exact .inr hvalue
        · constructor
          · intro hrequires
            rw [required_fieldOf hfield, isRequired_iff.2 hrequires] at hrequired
            cases hrequired
          · intro value hvalue
            exact .inl (hmissing value hvalue)

end

end Compiler

/-- What passes the check of a compiled description is what the description describes. -/
theorem admits_of_validate {description : ObjectDescription} {fields : Fields}
    {patterns : Patterns} {values checked : List (String × Value)}
    (hdescription : Description.WellFormedShape description)
    (hcompile : compile description = .ok fields)
    (hpatterns : Patterns.ofFields fields = .ok patterns)
    (h : Validation.validate patterns fields values = .ok checked) :
    Description.AdmitsShape description checked := by
  have hconforms := Validation.conforms_of_validate (wellFormed_compile hdescription hcompile).1 h
  obtain ⟨properties, declared, additional, notes⟩ := description
  exact ⟨Compiler.names_of_declared hcompile hconforms.declared,
    Compiler.admitsProperties_of_fitsFields hcompile (Patterns.coversFields_of_ofFields hpatterns)
      hconforms.fits⟩

namespace Sample

/-- Short tags: the items allow fewer characters than the array says. -/
def tagged : ObjectDescription :=
  { properties :=
      [("tags", .array (.scalar .string { constraints := [("maxlength", .ofNat 3)] })
        { optional := true, attributes := [("maxlength", .ofNat 9)] })] }

/-- The definition of short tags. -/
def taggedFields : Fields :=
  [("tags", { type := .array (.scalar .string), required := false,
              options := [("maxlength", .ofNat 3)] })]

theorem compile_tagged : compile tagged = .ok taggedFields := by
  have hname : Text.isBlank "tags" = false := by decide +kernel
  simp only [compile, tagged, Compiler.compileShape, Compiler.compileProperties, hname]
  rfl

theorem wellFormed_tagged : Description.WellFormedShape tagged := by
  have hlength : ∀ n : Nat, n < 10 → Json.WellFormedMembers [("maxlength", .ofNat n)] := by
    intro n hn
    refine ⟨?_, trivial⟩
    simp only [Json.ofNat, Json.WellFormed, Numeral.Fits]
    omega
  refine ⟨?_, ⟨⟨⟨trivial, hlength 3 (by decide)⟩, hlength 9 (by decide), trivial⟩, trivial⟩,
    trivial, trivial⟩
  simp [Entries.Distinct, Entries.names]

end Sample

theorem admits_tagged :
    Description.AdmitsShape Sample.tagged [("tags", .array [.string "new", .string "red"])] := by
  have hpatterns : Patterns.ofFields Sample.taggedFields = .ok [] := rfl
  have hvalidate : Validation.validate [] Sample.taggedFields
      [("tags", .array [.string "new", .string "red"]), ("spare", .null)]
        = .ok [("tags", .array [.string "new", .string "red"])] := rfl
  exact admits_of_validate Sample.wellFormed_tagged Sample.compile_tagged hpatterns hvalidate

end TypedCollections
