import Mathlib.Data.List.Perm.Basic
import TypedCollections.Proofs.Validation.Rules
/-!
# What a check does not look at

Two documents are alike to a definition if they hold the same under every declared name, at any
depth. What else they hold, and in what order an object holds it, is left open. Alike documents have
the same rules in the same order, so a check reports the same violation of both or accepts both, and
what it gives back is the same as a map. The entries of maps are checked in their order. If they are
rearranged as well, the rules are rearranged with them: another violation may come first, but a
document is still accepted with the other one.
-/

namespace TypedCollections

/-- The values are equal if the members of objects have no order. -/
inductive Value.EqualAsMaps : Value → Value → Prop where
  | refl (value : Value) : EqualAsMaps value value
  | array {items others : List Value} (h : List.Forall₂ EqualAsMaps items others) :
      EqualAsMaps (.array items) (.array others)
  | object {members others : List (String × Value)}
      (h : ∀ name,
        Option.Rel EqualAsMaps (Entries.find? members name) (Entries.find? others name)) :
      EqualAsMaps (.object members) (.object others)

namespace Validation

mutual

/-- The values are equal, apart from undeclared members and from the order of members where the type
says which are declared, and with the entries of maps rearranged as is allowed. -/
def Alike (rearranged : List (String × Value) → List (String × Value) → Prop) :
    FieldType → Value → Value → Prop
  | .scalar _, value, other => value = other
  | .objectId, value, other => value = other
  | .nested fields, value, other =>
      value = other ∨ ∃ members others, value = .object members ∧ other = .object others ∧
        AlikeFields rearranged fields members others
  | .array element, value, other =>
      value = other ∨ ∃ items others, value = .array items ∧ other = .array others ∧
        List.Forall₂ (Alike rearranged element) items others
  | .map values, value, other =>
      value = other ∨ ∃ members between others, value = .object members ∧ other = .object others ∧
        rearranged members between ∧
        List.Forall₂ (fun entry entry' => entry.1 = entry'.1 ∧
          AlikeField rearranged values entry.2 entry'.2) between others

/-- The values of a field are alike to its type. -/
def AlikeField (rearranged : List (String × Value) → List (String × Value) → Prop) :
    FieldOf FieldType → Value → Value → Prop
  | ⟨type, _, _, _⟩, value, other => Alike rearranged type value other

/-- Under each declared name both hold nothing, or values that are alike. -/
def AlikeFields (rearranged : List (String × Value) → List (String × Value) → Prop) :
    List (String × FieldOf FieldType) → List (String × Value) → List (String × Value) → Prop
  | [], _, _ => True
  | (name, field) :: rest, values, others =>
      Option.Rel (AlikeField rearranged field) (Entries.find? values name)
          (Entries.find? others name) ∧
        AlikeFields rearranged rest values others

end

variable {rearranged : List (String × Value) → List (String × Value) → Prop}

theorem alike_refl (type : FieldType) (value : Value) : Alike rearranged type value value := by
  cases type with
  | scalar kind => rfl
  | objectId => rfl
  | nested fields => exact .inl rfl
  | array element => exact .inl rfl
  | map values => exact .inl rfl

theorem alikeField_refl (field : Field) (value : Value) :
    AlikeField rearranged field value value := by
  obtain ⟨type, required, reference, options⟩ := field
  exact alike_refl type value

theorem isNull_of_alikeField {field : Field} {value other : Value}
    (h : AlikeField rearranged field value other) : value.isNull = other.isNull := by
  obtain ⟨type, required, reference, options⟩ := field
  have h : Alike rearranged type value other := h
  cases type with
  | scalar kind => exact congrArg Value.isNull h
  | objectId => exact congrArg Value.isNull h
  | nested fields =>
      obtain rfl | ⟨members, others, rfl, rfl, -⟩ := h
      · rfl
      · rfl
  | array element =>
      obtain rfl | ⟨items, others, rfl, rfl, -⟩ := h
      · rfl
      · rfl
  | map values =>
      obtain rfl | ⟨members, between, others, rfl, rfl, -, -⟩ := h
      · rfl
      · rfl

/-- Fields with values that are alike are supplied with values that are alike: a default is the same
for both. -/
theorem slotValue?_of_alike {name : String} {field : Field} {values others : List (String × Value)}
    (h : Option.Rel (AlikeField rearranged field) (Entries.find? values name)
      (Entries.find? others name)) :
    Option.Rel (AlikeField rearranged field) (slotValue? name field.options values)
      (slotValue? name field.options others) := by
  have hdefault : Option.Rel (AlikeField rearranged field)
      ((Entries.find? field.options defaultOption).map Value.ofJson)
      ((Entries.find? field.options defaultOption).map Value.ofJson) := by
    cases Entries.find? field.options defaultOption with
    | none => exact .none
    | some json => exact .some (alikeField_refl field (.ofJson json))
  unfold slotValue?
  generalize Entries.find? values name = found at h
  generalize Entries.find? others name = found' at h
  cases h with
  | none => exact hdefault
  | @some value other halike =>
      have hnull := isNull_of_alikeField halike
      cases value with
      | null =>
          cases other with
          | null => exact hdefault
          | _ => cases hnull
      | _ =>
          cases other with
          | null => cases hnull
          | _ => exact .some halike

/-! ### The rules of documents that are alike -/

/-- What rearranging entries does to the rules: they are related in the same way, wherever they
stand in a list of rules. -/
structure Carries (rearranged : List (String × Value) → List (String × Value) → Prop)
    (related : List Rule → List Rule → Prop) : Prop where
  refl : ∀ rules, related rules rules
  trans : ∀ {rules between others}, related rules between → related between others →
    related rules others
  append : ∀ {rules others more more'}, related rules others → related more more' →
    related (rules ++ more) (others ++ more')
  inside : ∀ step {rules others}, related rules others →
    related (rulesInside step rules) (rulesInside step others)
  flatMap : ∀ rulesOf {members others}, rearranged members others →
    related (members.flatMap rulesOf) (others.flatMap rulesOf)

theorem carries_eq : Carries Eq Eq where
  refl _ := rfl
  trans := Eq.trans
  append h h' := by rw [h, h']
  inside _ _ _ h := by rw [h]
  flatMap _ _ _ h := by rw [h]

theorem carries_perm : Carries List.Perm List.Perm where
  refl := List.Perm.refl
  trans := List.Perm.trans
  append := List.Perm.append
  inside _ _ _ h := h.map _
  flatMap rulesOf _ _ h := h.flatMap_right rulesOf

variable {related : List Rule → List Rule → Prop}

theorem Carries.cons (hcarries : Carries rearranged related) (rule : Rule)
    {rules others : List Rule} (h : related rules others) :
    related (rule :: rules) (rule :: others) :=
  hcarries.append (hcarries.refl [rule]) h

theorem itemRules_of_alike (hcarries : Carries rearranged related) {element : FieldType}
    {rules : Value → List Rule}
    (hrules : ∀ {value other}, Alike rearranged element value other →
      related (rules value) (rules other)) {items others : List Value} (index : Nat)
    (h : List.Forall₂ (Alike rearranged element) items others) :
    related (itemRules rules index items) (itemRules rules index others) := by
  induction h generalizing index with
  | nil => exact hcarries.refl []
  | cons hhead _ ih =>
      exact hcarries.append (hcarries.inside (.index index) (hrules hhead)) (ih (index + 1))

theorem entryRules_of_alike (hcarries : Carries rearranged related) {options : Options}
    {values : Field} {rules : Value → List Rule}
    (hrules : ∀ {value other}, AlikeField rearranged values value other →
      related (rules value) (rules other)) {members others : List (String × Value)}
    (h : List.Forall₂ (fun entry entry' => entry.1 = entry'.1 ∧
      AlikeField rearranged values entry.2 entry'.2) members others) :
    related (members.flatMap (entryRules options values.required rules))
      (others.flatMap (entryRules options values.required rules)) := by
  induction h with
  | nil => exact hcarries.refl []
  | @cons entry entry' _ _ hhead _ ih =>
      obtain ⟨key, value⟩ := entry
      obtain ⟨_, other⟩ := entry'
      obtain ⟨rfl, halike⟩ : key = _ ∧ AlikeField rearranged values value other := hhead
      rw [List.flatMap_cons, List.flatMap_cons]
      refine hcarries.append (hcarries.inside (.name key) ?_) ih
      refine hcarries.append (hcarries.refl (keyRules options key)) ?_
      rw [isNull_of_alikeField halike]
      refine hcarries.cons _ ?_
      split
      · exact hcarries.refl []
      · exact hrules halike

theorem slotRules_of_alike (hcarries : Carries rearranged related) {name : String} {field : Field}
    {rules : Value → List Rule}
    (hrules : ∀ {value other}, AlikeField rearranged field value other →
      related (rules value) (rules other)) {values others : List (String × Value)}
    (h : Option.Rel (AlikeField rearranged field) (Entries.find? values name)
      (Entries.find? others name)) :
    related (slotRules name field.required field.options rules values)
      (slotRules name field.required field.options rules others) := by
  have hslot := slotValue?_of_alike h
  unfold slotRules
  simp only [← slotValue?_eq_some_iff]
  refine hcarries.inside (.name name) ?_
  generalize slotValue? name field.options values = found at hslot
  generalize slotValue? name field.options others = found' at hslot
  cases hslot with
  | none => exact hcarries.refl _
  | some halike =>
      simp only [Option.some.injEq, exists_eq', Option.elim_some]
      exact hcarries.cons _ (hrules halike)

mutual

theorem rulesOfType_of_alike (hcarries : Carries rearranged related) :
    ∀ {type : FieldType} {options : Options} {value other : Value},
    Alike rearranged type value other →
      related (rulesOfType type options value) (rulesOfType type options other)
  | .scalar _, _, _, _, h => by
      have h : _ = _ := h
      rw [h]
      exact hcarries.refl _
  | .objectId, _, _, _, h => by
      have h : _ = _ := h
      rw [h]
      exact hcarries.refl _
  | .nested fields, _, _, _, h => by
      obtain rfl | ⟨members, others, rfl, rfl, hmembers⟩ := h
      · exact hcarries.refl _
      · exact hcarries.cons _ (hcarries.cons _ (rulesOfFields_of_alike hcarries hmembers))
  | .array element, _, _, _, h => by
      obtain rfl | ⟨items, others, rfl, rfl, hitems⟩ := h
      · exact hcarries.refl _
      · refine hcarries.cons _ (itemRules_of_alike hcarries ?_ 0 hitems)
        exact fun h => rulesOfType_of_alike hcarries h
  | .map values, options, _, _, h => by
      obtain rfl | ⟨members, between, others, rfl, rfl, hrearranged, hentries⟩ := h
      · exact hcarries.refl _
      · refine hcarries.cons _ (hcarries.cons _ ?_)
        refine hcarries.trans (hcarries.flatMap _ hrearranged) ?_
        exact entryRules_of_alike hcarries (fun h => rulesOfField_of_alike hcarries h) hentries

theorem rulesOfField_of_alike (hcarries : Carries rearranged related) :
    ∀ {field : FieldOf FieldType} {value other : Value},
    AlikeField rearranged field value other →
      related (rulesOfField field value) (rulesOfField field other)
  | ⟨_, _, _, _⟩, _, _, h => rulesOfType_of_alike hcarries h

theorem rulesOfFields_of_alike (hcarries : Carries rearranged related) :
    ∀ {fields : List (String × FieldOf FieldType)}
    {values others : List (String × Value)}, AlikeFields rearranged fields values others →
      related (rulesOfFields fields values) (rulesOfFields fields others)
  | [], _, _, _ => hcarries.refl []
  | (_, _) :: _, _, _, h =>
      hcarries.append (slotRules_of_alike hcarries (fun h => rulesOfField_of_alike hcarries h) h.1)
        (rulesOfFields_of_alike hcarries h.2)

end

/-! ### Results that are equal as maps -/

private theorem rel_find?_of_forall₂ {R : Value → Value → Prop}
    {results others : List (String × Value)}
    (h : List.Forall₂ (fun result other => result.1 = other.1 ∧ R result.2 other.2) results others)
    (name : String) :
    Option.Rel R (Entries.find? results name) (Entries.find? others name) := by
  induction h with
  | nil => exact .none
  | cons hhead _ ih =>
      rw [Entries.find?_cons, Entries.find?_cons, ← hhead.1]
      split
      · exact .some hhead.2
      · exact ih

/-- Items that are alike and kept have results that are alike. -/
private theorem forall₂_of_kept {α β : Type} {alike : α → α → Prop} {keep : α → β → Prop}
    {same : β → β → Prop} {items others : List α} {results results' : List β}
    (halike : List.Forall₂ alike items others) (hresults : List.Forall₂ keep items results)
    (hresults' : List.Forall₂ keep others results')
    (h : ∀ item ∈ items, ∀ other result result', alike item other → keep item result →
      keep other result' → same result result') : List.Forall₂ same results results' := by
  induction halike generalizing results results' with
  | nil =>
      cases hresults
      cases hresults'
      exact .nil
  | cons hhead _ ih =>
      cases hresults with
      | cons hresult hresults =>
          cases hresults' with
          | cons hresult' hresults' =>
              refine .cons (h _ (List.mem_cons_self ..) _ _ _ hhead hresult hresult') ?_
              exact ih hresults hresults' fun item hmem => h item (List.mem_cons_of_mem _ hmem)

/-- The results of entries that are rearranged and alike hold the same under each key. -/
theorem rel_find?_of_entries {field : Field}
    {members between others results results' : List (String × Value)}
    {keep : String × Value → String × Value → Prop} (hdistinct : Entries.Distinct results)
    (hrearranged : members.Perm between)
    (halike : List.Forall₂ (fun entry entry' => entry.1 = entry'.1 ∧
      AlikeField rearranged field entry.2 entry'.2) between others)
    (hresults : List.Forall₂ keep members results) (hresults' : List.Forall₂ keep others results')
    (hkeep : ∀ entry ∈ members, ∀ entry' result result',
      entry.1 = entry'.1 ∧ AlikeField rearranged field entry.2 entry'.2 → keep entry result →
        keep entry' result' → result.1 = result'.1 ∧ result.2.EqualAsMaps result'.2)
    (name : String) :
    Option.Rel Value.EqualAsMaps (Entries.find? results name) (Entries.find? results' name) := by
  -- The results are rearranged as the entries were, which no key notices.
  obtain ⟨moved, hmoved, hperm⟩ := List.perm_comp_forall₂ hrearranged.symm hresults
  rw [Entries.find?_of_perm hperm.symm hdistinct]
  refine rel_find?_of_forall₂ (forall₂_of_kept halike hmoved hresults' ?_) name
  exact fun entry hmem => hkeep entry (hrearranged.mem_iff.2 hmem)

/-- Fields that are supplied with values that are alike are checked to values that are equal as
maps. -/
theorem rel_find?_of_checkSlot {name : String} {field : Field}
    {values others passed passed' : List (String × Value)}
    (h : Option.Rel (AlikeField rearranged field) (Entries.find? values name)
      (Entries.find? others name))
    (hequal : ∀ value, Supplied name field.options values value → ∀ other checked checked',
      AlikeField rearranged field value other → checkField patterns field value = .ok checked →
        checkField patterns field other = .ok checked' → checked.EqualAsMaps checked')
    (hpassed : checkSlot name field.required field.options (checkField patterns field) values
      = .ok passed)
    (hpassed' : checkSlot name field.required field.options (checkField patterns field) others
      = .ok passed') :
    Option.Rel Value.EqualAsMaps (Entries.find? passed name) (Entries.find? passed' name) := by
  have hslot := slotValue?_of_alike h
  obtain ⟨value, checked, hvalue, hcheck, rfl⟩ | ⟨hnone, -, rfl⟩ := checkSlot_eq_ok_iff.1 hpassed
  · obtain ⟨other, checked', hother, hcheck', rfl⟩ | ⟨hnone, -, rfl⟩ :=
      checkSlot_eq_ok_iff.1 hpassed'
    · rw [hvalue, hother, Option.rel_some_some] at hslot
      have hsupplied := slotValue?_eq_some_iff.1 hvalue
      rw [Entries.find?_write, if_pos rfl, Entries.find?_write, if_pos rfl]
      exact .some (hequal value hsupplied other checked checked' hslot hcheck hcheck')
    · rw [hvalue, hnone] at hslot
      cases hslot
  · obtain ⟨other, checked', hother, -, -⟩ | ⟨hnone', -, rfl⟩ := checkSlot_eq_ok_iff.1 hpassed'
    · rw [hnone, hother] at hslot
      cases hslot
    · -- Both are left as they are: missing or null.
      have hmissing := (slotValue?_eq_none_iff.1 hnone).1
      have hmissing' := (slotValue?_eq_none_iff.1 hnone').1
      unfold Missing at hmissing hmissing'
      generalize Entries.find? passed name = found at h hmissing
      generalize Entries.find? passed' name = found' at h hmissing'
      cases h with
      | none => exact .none
      | some _ =>
          rw [hmissing _ rfl, hmissing' _ rfl]
          exact .some (.refl .null)

/-- Entries that are alike are both null, or neither is. -/
theorem equalAsMaps_of_entry {field : Field} {value other a b : Value}
    (halike : AlikeField rearranged field value other)
    (hequal : checkField patterns field value = .ok a → checkField patterns field other = .ok b →
      a.EqualAsMaps b)
    (ha : a = .null ∧ value = .null ∧ field.required = false ∨
      checkField patterns field value = .ok a)
    (hb : b = .null ∧ other = .null ∧ field.required = false ∨
      checkField patterns field other = .ok b) : a.EqualAsMaps b := by
  have hnull := isNull_of_alikeField halike
  obtain ⟨rfl, rfl, -⟩ | ha := ha
  · obtain ⟨rfl, -, -⟩ | hb := hb
    · exact .refl .null
    · cases other with
      | null => exact absurd hb (checkField_null field b)
      | _ => cases hnull
  · obtain ⟨rfl, rfl, -⟩ | hb := hb
    · cases value with
      | null => exact absurd ha (checkField_null field a)
      | _ => cases hnull
    · exact hequal ha hb

/-- Checked objects are equal as maps if they hold the same under each declared name: they hold
nothing else. -/
theorem equalAsMaps_of_declared {fields : Fields}
    {members others results results' : List (String × Value)}
    (hresults : checkFields patterns fields (keepDeclared fields members) = .ok results)
    (hresults' : checkFields patterns fields (keepDeclared fields others) = .ok results')
    (h : ∀ name ∈ Entries.names fields,
      Option.Rel Value.EqualAsMaps (Entries.find? results name) (Entries.find? results' name)) :
    (Value.object results).EqualAsMaps (.object results') := by
  refine .object fun name => ?_
  by_cases hname : name ∈ Entries.names fields
  · exact h name hname
  · have hnone := declared_of_checkFields (declared_keepDeclared fields members) hresults
    have hnone' := declared_of_checkFields (declared_keepDeclared fields others) hresults'
    rw [Entries.find?_eq_none_iff.2 fun hmem => hname (hnone name hmem),
      Entries.find?_eq_none_iff.2 fun hmem => hname (hnone' name hmem)]
    exact .none

private theorem equalAsMaps_of_eq {check : Check Value} {a b : Value} (ha : check = .ok a)
    (hb : check = .ok b) : a.EqualAsMaps b := by
  rw [hb] at ha
  cases ha
  exact .refl a

mutual

theorem equalAsMaps_of_checkType (hperm : ∀ members between, rearranged members between →
    members.Perm between) : ∀ {type : FieldType} {options : Options} {value other a b : Value},
    type.WellFormed → value.WellFormed → Alike rearranged type value other →
      checkType patterns type options value = .ok a →
        checkType patterns type options other = .ok b → a.EqualAsMaps b
  | .scalar _, _, _, _, _, _, _, _, h, ha, hb => by
      have h : _ = _ := h
      rw [h] at ha
      exact equalAsMaps_of_eq ha hb
  | .objectId, _, _, _, _, _, _, _, h, ha, hb => by
      have h : _ = _ := h
      rw [h] at ha
      exact equalAsMaps_of_eq ha hb
  | .nested fields, _, _, _, _, _, hwell, hvalue, h, ha, hb => by
      obtain rfl | ⟨members, others, rfl, rfl, hmembers⟩ := h
      · exact equalAsMaps_of_eq ha hb
      · obtain ⟨_, results, ⟨⟩, hresults, rfl⟩ := checkType_nested_eq_ok_iff.1 ha
        obtain ⟨_, results', ⟨⟩, hresults', rfl⟩ := checkType_nested_eq_ok_iff.1 hb
        refine equalAsMaps_of_declared hresults hresults' ?_
        exact rel_find?_of_alike hperm hwell.2 hvalue.2 hmembers
          (passesEach_of_kept hwell.1 hresults) (passesEach_of_kept hwell.1 hresults')
  | .array element, options, _, _, _, _, hwell, hvalue, h, ha, hb => by
      obtain rfl | ⟨items, others, rfl, rfl, hitems⟩ := h
      · exact equalAsMaps_of_eq ha hb
      · obtain ⟨_, results, ⟨⟩, hresults, rfl⟩ := checkType_array_eq_ok_iff.1 ha
        obtain ⟨_, results', ⟨⟩, hresults', rfl⟩ := checkType_array_eq_ok_iff.1 hb
        have helement : element.WellFormed := hwell
        refine .array (forall₂_of_kept hitems hresults hresults' ?_)
        intro item hmem other a b hitem
        have hvalue : item.WellFormed := Value.wellFormedList_iff.1 hvalue item hmem
        exact equalAsMaps_of_checkType hperm helement hvalue hitem
  | .map values, options, _, _, _, _, hwell, hvalue, h, ha, hb => by
      obtain rfl | ⟨members, between, others, rfl, rfl, hrearranged, hentries⟩ := h
      · exact equalAsMaps_of_eq ha hb
      · have hdistinct := wellFormed_of_checkType hwell hvalue ha
        obtain ⟨_, results, ⟨⟩, hresults, rfl⟩ := checkType_map_eq_ok_iff.1 ha
        obtain ⟨_, results', ⟨⟩, hresults', rfl⟩ := checkType_map_eq_ok_iff.1 hb
        refine .object (rel_find?_of_entries hdistinct.1 (hperm _ _ hrearranged) hentries hresults
          hresults' ?_)
        rintro ⟨key, value⟩ hmem ⟨_, other⟩ ⟨_, a⟩ ⟨_, b⟩ ⟨hkey, halike⟩ ⟨rfl, -, ha⟩ ⟨rfl, -, hb⟩
        have hvalue : value.WellFormed := Value.wellFormedMembers_iff.1 hvalue.2 _ hmem
        refine ⟨hkey, equalAsMaps_of_entry halike ?_ ha hb⟩
        exact equalAsMaps_of_checkField hperm hwell hvalue halike

theorem equalAsMaps_of_checkField (hperm : ∀ members between, rearranged members between →
    members.Perm between) : ∀ {field : FieldOf FieldType} {value other a b : Value},
    FieldType.WellFormedField field → value.WellFormed → AlikeField rearranged field value other →
      checkField patterns field value = .ok a → checkField patterns field other = .ok b →
        a.EqualAsMaps b
  | ⟨_, _, _, _⟩, _, _, _, _, hwell, hvalue, h, ha, hb =>
      equalAsMaps_of_checkType hperm hwell.2 hvalue h ha hb

theorem rel_find?_of_alike (hperm : ∀ members between, rearranged members between →
    members.Perm between) : ∀ {fields : List (String × FieldOf FieldType)}
    {values others checked checked' : List (String × Value)}, FieldType.WellFormedFields fields →
      Value.WellFormedMembers values → AlikeFields rearranged fields values others →
        PassesEach patterns fields values checked → PassesEach patterns fields others checked' →
        ∀ name ∈ Entries.names fields,
          Option.Rel Value.EqualAsMaps (Entries.find? checked name) (Entries.find? checked' name)
  | [], _, _, _, _, _, _, _, _, _, _, hmem => by cases hmem
  | (name, field) :: _, values, _, _, _, hwell, hvalues, halike, h, h', other, hmem => by
      rcases List.mem_cons.1 hmem with rfl | hmem
      · obtain ⟨passed, hpassed, hfind⟩ := h _ field (List.mem_cons_self ..)
        obtain ⟨passed', hpassed', hfind'⟩ := h' _ field (List.mem_cons_self ..)
        rw [hfind, hfind']
        refine rel_find?_of_checkSlot halike.1 ?_ hpassed hpassed'
        intro value hvalue other checked checked' hother hcheck hcheck'
        have hwellFormed := hvalue.wellFormed (FieldType.wellFormed_options hwell.1) hvalues
        exact equalAsMaps_of_checkField hperm hwell.1 hwellFormed hother hcheck hcheck'
      · exact rel_find?_of_alike hperm hwell.2 hvalues halike.2 h.tail h'.tail other hmem

end

/-! ### Documents that are alike -/

/-- Results of documents that are alike are equal as maps. -/
theorem equalAsMaps_of_validate (hperm : ∀ members between, rearranged members between →
    members.Perm between) {fields : Fields} {values others checked checked' : List (String × Value)}
    (hfields : fields.WellFormed) (hvalues : (Value.object values).WellFormed)
    (halike : AlikeFields rearranged fields values others)
    (h : validate patterns fields values = .ok checked)
    (h' : validate patterns fields others = .ok checked') :
    (Value.object checked).EqualAsMaps (.object checked') :=
  equalAsMaps_of_declared h h' (rel_find?_of_alike hperm hfields.each hvalues.2 halike
    (passesEach_of_kept hfields.distinct h) (passesEach_of_kept hfields.distinct h'))

/-- Undeclared members and the order of members make no difference to a check: documents that are
alike apart from them fail in the same way, or are accepted with results that are equal as maps. If
the entries of maps are rearranged as well, both fail or both are accepted, again with results that
are equal as maps. -/
theorem outcome_of_alike {fields : Fields} {values others : List (String × Value)}
    (hfields : fields.WellFormed) (hpatterns : Patterns.ofFields fields = .ok patterns)
    (hvalues : (Value.object values).WellFormed) :
    (AlikeFields Eq fields values others →
      (∃ violated, validate patterns fields values = .error violated ∧
        validate patterns fields others = .error violated) ∨
      ∃ checked checked', validate patterns fields values = .ok checked ∧
        validate patterns fields others = .ok checked' ∧
        (Value.object checked).EqualAsMaps (.object checked')) ∧
    (AlikeFields List.Perm fields values others →
      (∃ violated violated', validate patterns fields values = .error violated ∧
        validate patterns fields others = .error violated') ∨
      ∃ checked checked', validate patterns fields values = .ok checked ∧
        validate patterns fields others = .ok checked' ∧
        (Value.object checked).EqualAsMaps (.object checked')) := by
  have hreports := reports_validate hfields hpatterns
  constructor
  · intro halike
    have hrules : rules fields values = rules fields others :=
      rulesOfFields_of_alike carries_eq halike
    cases h : validate patterns fields values with
    | error violated =>
        have hbroken := (hreports values violated).1 h
        rw [hrules] at hbroken
        exact .inl ⟨violated, rfl, (hreports others violated).2 hbroken⟩
    | ok checked =>
        have hmet := (hreports values).ok_iff.1 ⟨checked, h⟩
        rw [hrules] at hmet
        obtain ⟨checked', h'⟩ := (hreports others).ok_iff.2 hmet
        have hperm : ∀ members between : List (String × Value), members = between →
            members.Perm between := fun members _ heq => heq ▸ List.Perm.refl members
        exact .inr ⟨checked, checked', rfl, h',
          equalAsMaps_of_validate hperm hfields hvalues halike h h'⟩
  · intro halike
    have hrules : (rules fields values).Perm (rules fields others) :=
      rulesOfFields_of_alike carries_perm halike
    have hboth : (∃ checked, validate patterns fields values = .ok checked) ↔
        ∃ checked, validate patterns fields others = .ok checked := by
      rw [(hreports values).ok_iff, (hreports others).ok_iff]
      exact forall_congr' fun rule => imp_congr_left hrules.mem_iff
    cases h : validate patterns fields values with
    | error violated =>
        cases h' : validate patterns fields others with
        | error violated' => exact .inl ⟨violated, violated', rfl, rfl⟩
        | ok checked' =>
            obtain ⟨checked, hchecked⟩ := hboth.2 ⟨checked', h'⟩
            rw [h] at hchecked
            cases hchecked
    | ok checked =>
        obtain ⟨checked', h'⟩ := hboth.1 ⟨checked, h⟩
        exact .inr ⟨checked, checked', rfl, h',
          equalAsMaps_of_validate (fun _ _ hperm => hperm) hfields hvalues halike h h'⟩

end Validation

namespace Sample

/-- The account in another order, with other undeclared members. -/
def reorderedAccount (scores : List (String × Value)) : List (String × Value) :=
  [("scores", .object scores), ("home", .object [("city", .string "Turin"), ("door", .array [])]),
   ("role", .null), ("note", .string "unread"),
   ("friends", .array [.string "010101010101010101010101"]), ("name", .string "ada")]

end Sample

theorem Validation.outcome_of_accounts :
    (∃ checked, validate Sample.accountPatterns Sample.accounts (Sample.reorderedAccount
        [("go", .number (Number.ofInt 3)), ("chess", .null)]) = .ok checked ∧
      (Value.object Sample.keptAccount).EqualAsMaps (.object checked)) ∧
    ∃ checked, validate Sample.accountPatterns Sample.accounts (Sample.reorderedAccount
        [("chess", .null), ("go", .number (Number.ofInt 3))]) = .ok checked ∧
      (Value.object Sample.keptAccount).EqualAsMaps (.object checked) := by
  have halike : AlikeFields Eq Sample.accounts Sample.givenAccount
      (Sample.reorderedAccount [("go", .number (Number.ofInt 3)), ("chess", .null)]) :=
    ⟨.some rfl, .some rfl, .some (.inl rfl), .some (.inr ⟨_, _, rfl, rfl, .some rfl, trivial⟩),
      .some (.inl rfl), trivial⟩
  have hshuffled : AlikeFields List.Perm Sample.accounts Sample.givenAccount
      (Sample.reorderedAccount [("chess", .null), ("go", .number (Number.ofInt 3))]) :=
    ⟨.some rfl, .some rfl, .some (.inl rfl), .some (.inr ⟨_, _, rfl, rfl, .some rfl, trivial⟩),
      .some (.inr ⟨_, _, _, rfl, rfl, .swap _ _ _, List.forall₂_same.2 fun _ _ =>
        ⟨rfl, alikeField_refl _ _⟩⟩), trivial⟩
  have hkept := Sample.validate_accounts
  constructor
  · obtain ⟨violated, h, -⟩ | ⟨checked, other, h, hother, hequal⟩ :=
      (outcome_of_alike Sample.wellFormed_accounts Sample.ofFields_accounts
        Sample.wellFormed_givenAccount).1 halike
    · rw [hkept] at h
      cases h
    · rw [hkept] at h
      cases h
      exact ⟨other, hother, hequal⟩
  · obtain ⟨violated, other, h, -⟩ | ⟨checked, other, h, hother, hequal⟩ :=
      (outcome_of_alike Sample.wellFormed_accounts Sample.ofFields_accounts
        Sample.wellFormed_givenAccount).2 hshuffled
    · rw [hkept] at h
      cases h
    · rw [hkept] at h
      cases h
      exact ⟨other, hother, hequal⟩

end TypedCollections
