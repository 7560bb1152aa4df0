import TypedCollections.Proofs.Validation.Conformance
/-!
# Conforming values inside JSON

A conforming value whose numbers are finite is kept by JSON, unless the definition declares an
object that looks like an identifier. The numbers of JSON are finite, and a check keeps them so. What
is read back of a conforming value conforms again: conformance is a property of the stored text, not
only of the values in memory.
-/

namespace TypedCollections

namespace Value

mutual

/-- Every number inside the value is finite. -/
def Finite : Value → Prop
  | .number value => ∃ finite, value = .finite finite
  | .array items => FiniteList items
  | .object members => FiniteMembers members
  | .document _ fields populated => FiniteMembers fields ∧ FiniteMembers populated
  | _ => True

/-- Every number inside the items is finite. -/
def FiniteList : List Value → Prop
  | [] => True
  | item :: rest => Finite item ∧ FiniteList rest

/-- Every number inside the members' values is finite. -/
def FiniteMembers : List (String × Value) → Prop
  | [] => True
  | (_, value) :: rest => Finite value ∧ FiniteMembers rest

end

theorem finiteList_iff {items : List Value} : FiniteList items ↔ ∀ item ∈ items, item.Finite := by
  induction items with
  | nil => simp [FiniteList]
  | cons item rest ih => simp [FiniteList, ih]

theorem finiteMembers_iff {members : List (String × Value)} :
    FiniteMembers members ↔ ∀ member ∈ members, member.2.Finite := by
  induction members with
  | nil => simp [FiniteMembers]
  | cons member rest ih =>
      obtain ⟨name, value⟩ := member
      simp [FiniteMembers, ih]

mutual

/-- The numbers of JSON are finite. -/
theorem finite_ofJson : ∀ {json : Json}, json.WellFormed → (ofJson json).Finite
  | .null, _ => trivial
  | .bool _, _ => trivial
  | .number _, h => Number.exists_toNumber_eq h
  | .string _, _ => trivial
  | .array _, h => finite_listOfJson h
  | .object members, h => by
      rw [ofJson]
      split
      · trivial
      · exact finite_membersOfJson h.2

theorem finite_listOfJson : ∀ {items : List Json}, Json.WellFormedList items →
    FiniteList (listOfJson items)
  | [], _ => trivial
  | _ :: _, h => ⟨finite_ofJson h.1, finite_listOfJson h.2⟩

theorem finite_membersOfJson : ∀ {members : List (String × Json)}, Json.WellFormedMembers members →
    FiniteMembers (membersOfJson members)
  | [], _ => trivial
  | (_, _) :: _, h => ⟨finite_ofJson h.1, finite_membersOfJson h.2⟩

end

end Value

namespace FieldType

mutual

/-- No property declared inside the type has a name that is reserved for identifiers. -/
def Unmarked : FieldType → Prop
  | .nested fields => (∀ name ∈ Entries.names fields, name.startsWith "$" = false) ∧
      UnmarkedFields fields
  | .array element => Unmarked element
  | .map values => UnmarkedField values
  | _ => True

/-- The type of a field declares no reserved name. -/
def UnmarkedField : FieldOf FieldType → Prop
  | ⟨type, _, _, _⟩ => Unmarked type

/-- The types of the fields declare no reserved name. -/
def UnmarkedFields : List (String × FieldOf FieldType) → Prop
  | [] => True
  | (_, field) :: rest => UnmarkedField field ∧ UnmarkedFields rest

end

end FieldType

namespace Number

theorem below_settled (a b : Finite) :
    below (.finite a.settled) (.finite b) = below (.finite a) (.finite b) := by
  simp only [below, Finite.toUnits_settled]

theorem fitsNumber_settled {options : Options} {value : Finite}
    (h : Validation.FitsNumber options (.finite value)) :
    Validation.FitsNumber options (.finite value.settled) := by
  constructor
  · intro least hleast
    have hbelow := h.least least hleast
    cases least with
    | finite other =>
        rw [below_settled]
        exact hbelow
    | _ => exact hbelow
  · intro most hmost
    have hbelow := h.most most hmost
    cases most with
    | finite other =>
        simp only [below, Finite.toUnits_settled] at hbelow ⊢
        exact hbelow
    | _ => exact hbelow

end Number

namespace Validation

variable {patterns : Patterns}

private theorem ofMembers?_eq_none {members : List (String × Value)}
    (h : ∀ name ∈ Entries.names members, name.startsWith "$" = false) :
    ObjectId.ofMembers? (Value.membersToJson members) = none := by
  unfold ObjectId.ofMembers?
  split
  · rename_i name text heq
    have hnames : Entries.names members = [name] := by
      rw [← Value.names_membersToJson, heq]
      rfl
    have hne : name ≠ oidKey := by
      rintro rfl
      have hreserved : oidKey.startsWith "$" = false := h oidKey (by simp [hnames])
      simp [oidKey] at hreserved
    rw [if_neg hne]
  · rfl

mutual

/-- A value that fits and whose numbers are finite is kept by JSON. -/
theorem kept_of_fits : ∀ {type : FieldType} {options : Options} {value : Value},
    type.Unmarked → value.WellFormed → value.Finite → Fits patterns type options value →
      value.Kept
  | .scalar .string, _, _, _, _, _, h => by
      obtain ⟨text, rfl, -⟩ := h
      trivial
  | .scalar .number, _, _, _, _, hfinite, h => by
      obtain ⟨number, rfl, -⟩ := h
      exact hfinite
  | .scalar .boolean, _, _, _, _, _, h => by
      obtain ⟨truth, rfl⟩ := h
      trivial
  | .objectId, _, _, _, _, _, h => by
      obtain ⟨id, rfl⟩ := h
      trivial
  | .nested fields, _, _, hunmarked, hwell, hfinite, h => by
      obtain ⟨members, rfl, hdeclared, hfits⟩ := h
      refine ⟨ofMembers?_eq_none fun name hmem => hunmarked.1 name (hdeclared name hmem), ?_⟩
      apply Value.keptMembers_iff.2
      intro member hmem
      refine kept_of_fitsFields hunmarked.2 hfits (Entries.find?_eq_of_mem hwell.1 hmem)
        (hdeclared _ (List.mem_map_of_mem hmem)) ?_ ?_
      · exact Value.wellFormedMembers_iff.1 hwell.2 member hmem
      · exact Value.finiteMembers_iff.1 hfinite member hmem
  | .array element, _, _, hunmarked, hwell, hfinite, h => by
      obtain ⟨items, rfl, hfits⟩ := h
      apply Value.keptList_iff.2
      intro item hmem
      have helement : element.Unmarked := hunmarked
      exact kept_of_fits helement (Value.wellFormedList_iff.1 hwell item hmem)
        (Value.finiteList_iff.1 hfinite item hmem) (hfits item hmem)
  | .map values, _, _, hunmarked, hwell, hfinite, h => by
      obtain ⟨members, rfl, hfits⟩ := h
      constructor
      · refine ofMembers?_eq_none fun name hmem => ?_
        obtain ⟨member, hmember, rfl⟩ := List.mem_map.1 hmem
        exact (hfits member hmember).1.not_reserved
      · apply Value.keptMembers_iff.2
        intro member hmem
        rcases (hfits member hmem).2 with ⟨hnull, -⟩ | hfield
        · rw [hnull]
          trivial
        · exact kept_of_fitsField hunmarked (Value.wellFormedMembers_iff.1 hwell.2 member hmem)
            (Value.finiteMembers_iff.1 hfinite member hmem) hfield

theorem kept_of_fitsField : ∀ {field : FieldOf FieldType} {value : Value},
    FieldType.UnmarkedField field → value.WellFormed → value.Finite →
      FitsField patterns field value → value.Kept
  | ⟨_, _, _, _⟩, _, hunmarked, hwell, hfinite, h => kept_of_fits hunmarked hwell hfinite h

theorem kept_of_fitsFields : ∀ {fields : List (String × FieldOf FieldType)}
    {values : List (String × Value)} {name : String} {value : Value},
    FieldType.UnmarkedFields fields → FitsFields patterns fields values →
      Entries.find? values name = some value → name ∈ Entries.names fields → value.WellFormed →
        value.Finite → value.Kept
  | (other, field) :: rest, _, name, value, hunmarked, hfits, hfind, hname, hwell, hfinite => by
      by_cases heq : name = other
      · subst heq
        rcases hfits.1 with ⟨found, hfound, hfield⟩ | ⟨hmissing, -, -⟩
        · rw [hfind] at hfound
          cases hfound
          exact kept_of_fitsField hunmarked.1 hwell hfinite hfield
        · rw [hmissing value hfind]
          trivial
      · have hname : name ∈ Entries.names rest := by
          rcases List.mem_cons.1 hname with h | h
          · exact absurd h heq
          · exact h
        exact kept_of_fitsFields hunmarked.2 hfits.2 hfind hname hwell hfinite

end

/-! ### Finite numbers -/

mutual

/-- A check of finite numbers gives finite numbers back: those of its defaults are finite, too. -/
theorem finite_of_checkType : ∀ {type : FieldType} {options : Options} {value checked : Value},
    type.WellFormed → value.Finite → checkType patterns type options value = .ok checked →
      checked.Finite
  | .scalar _, _, _, _, _, hvalue, h => by
      rw [checkType] at h
      obtain ⟨-, rfl⟩ := checkScalar_eq_ok_iff.1 h
      exact hvalue
  | .objectId, _, _, _, _, _, h => by
      rw [checkType] at h
      obtain ⟨id, rfl⟩ := castObjectId_eq_ok h
      trivial
  | .nested fields, _, _, _, hwell, hvalue, h => by
      obtain ⟨members, results, rfl, hfields, rfl⟩ := checkType_nested_eq_ok_iff.1 h
      apply Value.finiteMembers_iff.2
      refine finite_of_checkFields hwell.2 (fun member hmem => ?_) hfields
      exact Value.finiteMembers_iff.1 hvalue member (List.mem_filter.1 hmem).1
  | .array element, _, _, _, hwell, hvalue, h => by
      obtain ⟨items, results, rfl, hitems, rfl⟩ := checkType_array_eq_ok_iff.1 h
      apply Value.finiteList_iff.2
      intro result hmem
      obtain ⟨item, hitem, hcheck⟩ := exists_of_mem_right hitems hmem
      have helement : element.WellFormed := hwell
      exact finite_of_checkType helement (Value.finiteList_iff.1 hvalue item hitem) hcheck
  | .map values, _, _, _, hwell, hvalue, h => by
      obtain ⟨members, results, rfl, hentries, rfl⟩ := checkType_map_eq_ok_iff.1 h
      apply Value.finiteMembers_iff.2
      intro result hmem
      obtain ⟨member, hmember, -, -, hcheck⟩ := exists_of_mem_right hentries hmem
      rcases hcheck with ⟨hnull, -, -⟩ | hcheck
      · rw [hnull]
        trivial
      · exact finite_of_checkField hwell (Value.finiteMembers_iff.1 hvalue member hmember) hcheck

theorem finite_of_checkField : ∀ {field : FieldOf FieldType} {value checked : Value},
    FieldType.WellFormedField field → value.Finite →
      checkField patterns field value = .ok checked → checked.Finite
  | ⟨_, _, _, _⟩, _, _, hwell, hvalue, h => finite_of_checkType hwell.2 hvalue h

theorem finite_of_checkFields : ∀ {fields : List (String × FieldOf FieldType)}
    {values checked : List (String × Value)}, FieldType.WellFormedFields fields →
      (∀ member ∈ values, member.2.Finite) → checkFields patterns fields values = .ok checked →
        ∀ member ∈ checked, member.2.Finite
  | [], _, _, _, hvalues, h => by
      rw [checkFields] at h
      cases h
      exact hvalues
  | (name, field) :: _, values, _, hwell, hvalues, h => by
      obtain ⟨middle, hslot, hrest⟩ := checkFields_cons_eq_ok_iff.1 h
      obtain ⟨value, result, hfound, hcheck, rfl⟩ | ⟨-, -, rfl⟩ := checkSlot_eq_ok_iff.1 hslot
      · have hvalue : value.Finite := by
          rcases slotValue?_cases (FieldType.wellFormed_options hwell.1) hfound with
            ⟨json, hjson, rfl⟩ | hmem
          · exact Value.finite_ofJson hjson
          · exact hvalues _ hmem
        have hresult : result.Finite := finite_of_checkField hwell.1 hvalue hcheck
        refine finite_of_checkFields hwell.2 (fun member hmem => ?_) hrest
        rcases Entries.mem_write hmem with rfl | hmem
        · exact hresult
        · exact hvalues member hmem
      · exact finite_of_checkFields hwell.2 hvalues hrest

end

/-! ### What is read back -/

private theorem find?_reread {values : List (String × Value)} {name : String} {value : Value}
    (h : Entries.find? values name = some value) :
    Entries.find? (Entries.mapValues Value.reread values) name = some value.reread := by
  rw [Entries.find?_mapValues, h]
  rfl

private theorem missing_reread {values : List (String × Value)} {name : String}
    (h : Missing name values) : Missing name (Entries.mapValues Value.reread values) := by
  intro value hvalue
  rw [Entries.find?_mapValues] at hvalue
  obtain ⟨before, hbefore, rfl⟩ := Option.map_eq_some_iff.1 hvalue
  rw [h before hbefore]
  rfl

mutual

/-- A value that fits still fits after it was read back. -/
theorem fits_reread : ∀ {type : FieldType} {options : Options} {value : Value},
    value.Kept → Fits patterns type options value → Fits patterns type options value.reread
  | .scalar .string, _, _, _, h => by
      obtain ⟨text, rfl, htext⟩ := h
      exact ⟨text, rfl, htext⟩
  | .scalar .number, _, _, hkept, h => by
      obtain ⟨number, rfl, hnumber⟩ := h
      obtain ⟨finite, rfl⟩ := hkept
      rw [Value.reread_finite]
      exact ⟨_, rfl, Number.fitsNumber_settled hnumber⟩
  | .scalar .boolean, _, _, _, h => by
      obtain ⟨truth, rfl⟩ := h
      exact ⟨truth, rfl⟩
  | .objectId, _, _, _, h => by
      obtain ⟨id, rfl⟩ := h
      exact ⟨id, by rw [Value.reread, Value.toJson, Value.ofJson_objectId]⟩
  | .nested fields, _, _, hkept, h => by
      obtain ⟨members, rfl, hdeclared, hfits⟩ := h
      rw [Value.reread_object hkept.1]
      refine ⟨_, rfl, ?_, fitsFields_reread (Value.keptMembers_iff.1 hkept.2) hfits⟩
      intro name hmem
      rw [Entries.names_mapValues] at hmem
      exact hdeclared name hmem
  | .array element, _, _, hkept, h => by
      obtain ⟨items, rfl, hfits⟩ := h
      rw [Value.reread_array]
      refine ⟨_, rfl, fun result hmem => ?_⟩
      obtain ⟨item, hitem, rfl⟩ := List.mem_map.1 hmem
      exact fits_reread (Value.keptList_iff.1 hkept item hitem) (hfits item hitem)
  | .map values, _, _, hkept, h => by
      obtain ⟨members, rfl, hfits⟩ := h
      rw [Value.reread_object hkept.1]
      refine ⟨_, rfl, fun result hmem => ?_⟩
      obtain ⟨member, hmember, rfl⟩ := List.mem_map.1 hmem
      obtain ⟨hkey, hvalue⟩ := hfits member hmember
      refine ⟨hkey, ?_⟩
      rcases hvalue with ⟨hnull, hrequired⟩ | hfield
      · exact .inl ⟨by rw [hnull]; rfl, hrequired⟩
      · exact .inr (fitsField_reread (Value.keptMembers_iff.1 hkept.2 member hmember) hfield)

theorem fitsField_reread : ∀ {field : FieldOf FieldType} {value : Value},
    value.Kept → FitsField patterns field value → FitsField patterns field value.reread
  | ⟨_, _, _, _⟩, _, hkept, h => fits_reread hkept h

theorem fitsFields_reread : ∀ {fields : List (String × FieldOf FieldType)}
    {values : List (String × Value)}, (∀ member ∈ values, member.2.Kept) →
      FitsFields patterns fields values →
        FitsFields patterns fields (Entries.mapValues Value.reread values)
  | [], _, _, _ => trivial
  | (name, field) :: _, values, hkept, h => by
      refine ⟨?_, fitsFields_reread hkept h.2⟩
      rcases h.1 with ⟨value, hfind, hfits⟩ | ⟨hmissing, hrequired, hdefault⟩
      · refine .inl ⟨value.reread, find?_reread hfind, fitsField_reread ?_ hfits⟩
        exact hkept _ (Entries.mem_of_find? hfind)
      · exact .inr ⟨missing_reread hmissing, hrequired, hdefault⟩

end

/-- Conforming fields that JSON keeps still conform after they were read back. -/
theorem Conforms.reread {fields : Fields} {values : List (String × Value)}
    (h : Conforms patterns fields values) (hkept : ∀ member ∈ values, member.2.Kept) :
    Conforms patterns fields (Entries.mapValues Value.reread values) := by
  refine ⟨?_, fitsFields_reread hkept h.fits⟩
  intro name hmem
  rw [Entries.names_mapValues] at hmem
  exact h.declared name hmem

end Validation

end TypedCollections
