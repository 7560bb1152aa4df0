import TypedCollections.Proofs.Validation.Conformance
/-!
# Fields are checked one by one

Each declared field is checked as if it were the only one: a check of fields succeeds exactly if each
of them passes among the values given, it leaves under each name what the field itself leaves there,
and new names come only at the end.
-/

namespace TypedCollections

namespace Validation

variable {patterns : Patterns}

/-- What a field does depends on what stands under its name only. -/
theorem checkSlot_congr {name : String} {required : Bool} {options : Options}
    {check : Value → Check Value} {values others passed : List (String × Value)}
    (hfind : Entries.find? others name = Entries.find? values name)
    (h : checkSlot name required options check values = .ok passed) :
    ∃ passed', checkSlot name required options check others = .ok passed' ∧
      Entries.find? passed' name = Entries.find? passed name := by
  have hvalue : slotValue? name options others = slotValue? name options values := by
    unfold slotValue?
    rw [hfind]
  obtain ⟨value, result, hslot, hcheck, rfl⟩ | ⟨hnone, hrequired, rfl⟩ := checkSlot_eq_ok_iff.1 h
  · refine ⟨_, checkSlot_eq_ok_iff.2 (.inl ⟨value, result, hvalue.trans hslot, hcheck, rfl⟩), ?_⟩
    rw [Entries.find?_write, Entries.find?_write, if_pos rfl, if_pos rfl]
  · exact ⟨others, checkSlot_eq_ok_iff.2 (.inr ⟨hvalue.trans hnone, hrequired, rfl⟩), hfind⟩

theorem name_ne_of_mem {name other : String} {head field : Field} {rest : Fields}
    (hdistinct : Entries.Distinct ((other, head) :: rest)) (hmem : (name, field) ∈ rest) :
    other ≠ name := by
  rintro rfl
  have hname : other ∈ Entries.names rest := List.mem_map_of_mem hmem
  exact (List.nodup_cons.1 hdistinct).1 hname

/-- Where a check of fields succeeds, each field passes on its own and leaves what it leaves there. -/
theorem exists_checkSlot_of_checkFields {fields : Fields} (hdistinct : Entries.Distinct fields)
    {values checked : List (String × Value)} (h : checkFields patterns fields values = .ok checked)
    {name : String} {field : Field} (hmem : (name, field) ∈ fields) :
    ∃ passed, checkSlot name field.required field.options (checkField patterns field) values
        = .ok passed ∧ Entries.find? checked name = Entries.find? passed name := by
  induction fields generalizing values with
  | nil => cases hmem
  | cons head rest ih =>
      obtain ⟨other, declared⟩ := head
      obtain ⟨middle, hslot, hrest⟩ := checkFields_cons_eq_ok_iff.1 h
      rcases List.mem_cons.1 hmem with heq | hmem
      · cases heq
        exact ⟨middle, hslot, find?_of_checkFields hrest (List.nodup_cons.1 hdistinct).1⟩
      · obtain ⟨passed, hpassed, hfind⟩ := ih (List.nodup_cons.1 hdistinct).2 hrest hmem
        have hmiddle := find?_of_checkSlot hslot (name_ne_of_mem hdistinct hmem)
        obtain ⟨passed', hpassed', hfind'⟩ := checkSlot_congr hmiddle.symm hpassed
        exact ⟨passed', hpassed', hfind.trans hfind'.symm⟩

/-- A check of fields succeeds if each field passes on its own. -/
theorem exists_checkFields {fields : Fields} (hdistinct : Entries.Distinct fields)
    {values : List (String × Value)}
    (h : ∀ name field, (name, field) ∈ fields → ∃ passed,
      checkSlot name field.required field.options (checkField patterns field) values = .ok passed) :
    ∃ checked, checkFields patterns fields values = .ok checked := by
  induction fields generalizing values with
  | nil => exact ⟨values, rfl⟩
  | cons head rest ih =>
      obtain ⟨other, declared⟩ := head
      obtain ⟨middle, hslot⟩ := h other declared (List.mem_cons_self ..)
      obtain ⟨checked, hrest⟩ : ∃ checked, checkFields patterns rest middle = .ok checked := by
        refine ih (List.nodup_cons.1 hdistinct).2 fun name field hmem => ?_
        obtain ⟨passed, hpassed⟩ := h name field (List.mem_cons_of_mem _ hmem)
        have hmiddle := find?_of_checkSlot hslot (name_ne_of_mem hdistinct hmem)
        obtain ⟨passed', hpassed', -⟩ := checkSlot_congr hmiddle hpassed
        exact ⟨passed', hpassed'⟩
      exact ⟨checked, checkFields_cons_eq_ok_iff.2 ⟨middle, hslot, hrest⟩⟩

/-- Each field passes on its own among the values, and what it leaves under its name stands
there. -/
def PassesEach (patterns : Patterns) (fields : Fields) (values checked : List (String × Value)) :
    Prop :=
  ∀ name field, (name, field) ∈ fields → ∃ passed,
    checkSlot name field.required field.options (checkField patterns field) values = .ok passed ∧
      Entries.find? checked name = Entries.find? passed name

theorem PassesEach.tail {head : String × Field} {rest : Fields}
    {values checked : List (String × Value)}
    (h : PassesEach patterns (head :: rest) values checked) :
    PassesEach patterns rest values checked :=
  fun name field hmem => h name field (List.mem_cons_of_mem _ hmem)

/-- Where a check of the declared values succeeds, each field passes among all the values given. -/
theorem passesEach_of_kept {fields : Fields} (hdistinct : Entries.Distinct fields)
    {values checked : List (String × Value)}
    (h : checkFields patterns fields (keepDeclared fields values) = .ok checked) :
    PassesEach patterns fields values checked := by
  intro name field hmem
  obtain ⟨passed, hpassed, hfind⟩ := exists_checkSlot_of_checkFields hdistinct h hmem
  have hname : name ∈ Entries.names fields := List.mem_map_of_mem hmem
  obtain ⟨passed', hpassed', hfind'⟩ := checkSlot_congr (find?_keepDeclared hname).symm hpassed
  exact ⟨passed', hpassed', hfind.trans hfind'.symm⟩

/-- A check of fields keeps the names in their order and adds names of fields at the end: those that
stand nowhere and are checked with a default. -/
theorem exists_added_of_checkFields {fields : Fields} (hdistinct : Entries.Distinct fields)
    {values checked : List (String × Value)}
    (h : checkFields patterns fields values = .ok checked) :
    ∃ added, Entries.names checked = Entries.names values ++ added ∧
      ∀ name ∈ added, name ∉ Entries.names values ∧
        ∃ field, (name, field) ∈ fields ∧ slotValue? name field.options values ≠ none := by
  induction fields generalizing values with
  | nil =>
      rw [checkFields] at h
      cases h
      exact ⟨[], (List.append_nil _).symm, fun name hmem => by cases hmem⟩
  | cons head rest ih =>
      obtain ⟨other, declared⟩ := head
      obtain ⟨middle, hslot, hrest⟩ := checkFields_cons_eq_ok_iff.1 h
      obtain ⟨added, hnames, hadded⟩ := ih (List.nodup_cons.1 hdistinct).2 hrest
      -- What is checked with a default after this field is so among the values given.
      have hlater : ∀ name ∈ added, ∃ field, (name, field) ∈ (other, declared) :: rest ∧
          slotValue? name field.options values ≠ none := by
        intro name hmem
        obtain ⟨-, field, hfield, hvalue⟩ := hadded name hmem
        have hmiddle := find?_of_checkSlot hslot (name_ne_of_mem hdistinct hfield)
        refine ⟨field, List.mem_cons_of_mem _ hfield, ?_⟩
        unfold slotValue? at hvalue ⊢
        rw [hmiddle] at hvalue
        exact hvalue
      obtain ⟨value, result, hvalue, -, rfl⟩ | ⟨-, -, rfl⟩ := checkSlot_eq_ok_iff.1 hslot
      · rw [Entries.names_write] at hnames hadded
        by_cases hstands : other ∈ Entries.names values
        · rw [if_pos hstands] at hnames hadded
          exact ⟨added, hnames, fun name hmem => ⟨(hadded name hmem).1, hlater name hmem⟩⟩
        · rw [if_neg hstands] at hnames hadded
          refine ⟨other :: added, by rw [hnames, List.append_assoc, List.singleton_append], ?_⟩
          intro name hmem
          rcases List.mem_cons.1 hmem with rfl | hmem
          · exact ⟨hstands, declared, List.mem_cons_self .., by rw [hvalue]; simp⟩
          · refine ⟨fun hname => (hadded name hmem).1 ?_, hlater name hmem⟩
            exact List.mem_append_left _ hname
      · exact ⟨added, hnames, fun name hmem => ⟨(hadded name hmem).1, hlater name hmem⟩⟩

end Validation

end TypedCollections
