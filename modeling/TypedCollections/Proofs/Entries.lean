import TypedCollections.Entries
/-!
# Entries with distinct names

Where no name stands twice, what is found under a name is the entry of that name.
-/

namespace TypedCollections

namespace Entries

variable {α : Type}

theorem find?_eq_of_mem {entries : List (String × α)} (h : Distinct entries)
    {entry : String × α} (hmem : entry ∈ entries) : find? entries entry.1 = some entry.2 := by
  induction entries with
  | nil => simp at hmem
  | cons head rest ih =>
      simp only [Distinct, names, List.map_cons, List.nodup_cons] at h
      rw [find?_cons]
      rcases List.mem_cons.1 hmem with rfl | hmem
      · rw [if_pos rfl]
      · have hne : ¬ head.1 = entry.1 := by
          intro heq
          exact h.1 (heq ▸ List.mem_map_of_mem hmem)
        rw [if_neg hne]
        exact ih h.2 hmem

/-- The first entry under a name is still found among the entries under that name. -/
theorem find?_filter_self (entries : List (String × α)) (name : String) :
    find? (entries.filter fun entry => entry.1 = name) name = find? entries name := by
  induction entries with
  | nil => rfl
  | cons entry rest ih =>
      by_cases hname : entry.1 = name
      · rw [List.filter_cons_of_pos (by simpa using hname), find?_cons, find?_cons, if_pos hname,
          if_pos hname]
      · rw [List.filter_cons_of_neg (by simpa using hname), ih, find?_cons, if_neg hname]

/-- What is found under a name does not depend on the order of the entries. -/
theorem find?_of_perm {entries others : List (String × α)} (h : entries.Perm others)
    (hdistinct : Distinct entries) (name : String) : find? entries name = find? others name := by
  have hothers : Distinct others := (h.map Prod.fst).nodup_iff.1 hdistinct
  apply Option.ext
  intro value
  constructor
  · intro hfind
    exact find?_eq_of_mem hothers (h.mem_iff.1 (mem_of_find? hfind))
  · intro hfind
    exact find?_eq_of_mem hdistinct (h.mem_iff.2 (mem_of_find? hfind))

/-- Something is found under exactly the names of the entries. -/
theorem mem_names_iff {entries : List (String × α)} {name : String} :
    name ∈ names entries ↔ ∃ value, find? entries name = some value :=
  has_iff.symm.trans Option.isSome_iff_exists

/-- Entries with the same names in the same order are equal if they hold the same under each name. -/
theorem ext_find? {a b : List (String × α)} (hnames : names a = names b) (hdistinct : Distinct a)
    (h : ∀ name ∈ names a, find? a name = find? b name) : a = b := by
  induction a generalizing b with
  | nil =>
      cases b with
      | nil => rfl
      | cons entry rest => cases hnames
  | cons entry rest ih =>
      cases b with
      | nil => cases hnames
      | cons other others =>
          simp only [names, List.map_cons, List.cons.injEq] at hnames
          obtain ⟨hname, hnames⟩ := hnames
          simp only [Distinct, names, List.map_cons, List.nodup_cons] at hdistinct
          have hhead := h entry.1 (List.mem_cons_self ..)
          rw [find?_cons, if_pos rfl, find?_cons, if_pos hname.symm] at hhead
          have hrest : rest = others := by
            refine ih hnames hdistinct.2 fun name hmem => ?_
            have hfind := h name (List.mem_cons_of_mem _ hmem)
            have hne : entry.1 ≠ name := by
              rintro rfl
              exact hdistinct.1 hmem
            rw [find?_cons, if_neg hne, find?_cons, if_neg (hname ▸ hne)] at hfind
            exact hfind
          rw [hrest]
          exact congrArg (· :: others) (Prod.ext hname (Option.some.inj hhead))

theorem write_eq_self {entries : List (String × α)} {name : String} {value : α}
    (h : find? entries name = some value) : write entries name value = entries := by
  induction entries with
  | nil => simp at h
  | cons head rest ih =>
      rw [find?_cons] at h
      unfold write
      split at h
      · rename_i hname
        cases h
        rw [if_pos hname, ← hname]
      · rename_i hname
        rw [if_neg hname, ih h]

/-- A new name is written at the end. -/
theorem write_eq_append {entries : List (String × α)} {name : String} (h : name ∉ names entries)
    (value : α) : write entries name value = entries ++ [(name, value)] := by
  induction entries with
  | nil => rfl
  | cons head rest ih =>
      simp only [names, List.map_cons, List.mem_cons, not_or] at h
      rw [write, if_neg (Ne.symm h.1), ih h.2, List.cons_append]

theorem writeAll_eq_append {list : List (String × α)} {before : List (String × α)}
    (h : (names (before ++ list)).Nodup) : writeAll before list = before ++ list := by
  induction list generalizing before with
  | nil => simp [writeAll]
  | cons entry rest ih =>
      have hwrite : write before entry.1 entry.2 = before ++ [entry] := by
        apply write_eq_append
        simp only [names, List.map_append, List.map_cons, List.nodup_append] at h
        intro hmem
        exact h.2.2 _ hmem _ (by simp) rfl
      have hrest : writeAll (before ++ [entry]) rest = before ++ [entry] ++ rest :=
        ih (by simpa using h)
      simp only [writeAll, List.foldl_cons] at hrest ⊢
      rw [hwrite, hrest]
      simp

theorem write_write (entries : List (String × α)) (name : String) (first second : α) :
    write (write entries name first) name second = write entries name second := by
  induction entries with
  | nil => simp [write]
  | cons head rest ih =>
      rw [write]
      split
      · rename_i h
        rw [write, if_pos rfl, write, if_pos h]
      · rename_i h
        rw [write, if_neg h, write, if_neg h, ih]

/-- Where one of two names stands already, it does not matter which is written first. -/
theorem write_comm {entries : List (String × α)} {name other : String} (hne : name ≠ other)
    (h : name ∈ names entries) (value value' : α) :
    write (write entries other value') name value = write (write entries name value) other value' := by
  induction entries with
  | nil => cases h
  | cons head rest ih =>
      by_cases hname : head.1 = name
      · have hother : head.1 ≠ other := fun heq => hne (hname.symm.trans heq)
        simp only [write, if_pos hname, if_neg hother, if_neg hne]
      · have hrest : name ∈ names rest := by
          rcases List.mem_cons.1 h with heq | hmem
          · exact absurd heq.symm hname
          · exact hmem
        by_cases hother : head.1 = other
        · simp only [write, if_pos hother, if_neg hname, if_neg (Ne.symm hne)]
        · simp only [write, if_neg hother, if_neg hname, ih hrest]

theorem ofList_eq_self {list : List (String × α)} (h : Distinct list) :
    ofList list = list :=
  writeAll_eq_append (by simpa [Distinct] using h)

/-- Writing under a name that stands already is seen by a function of the entries only as far as it
tells the new entry from the old one. -/
theorem map_write {β : Type} {f g : String × α → β} {entries : List (String × α)} {name : String}
    {old new : α} (h : Distinct entries) (hfind : find? entries name = some old)
    (hname : f (name, new) = g (name, old)) (hother : ∀ entry, entry.1 ≠ name → f entry = g entry) :
    (write entries name new).map f = entries.map g := by
  induction entries with
  | nil => simp at hfind
  | cons head rest ih =>
      simp only [Distinct, names, List.map_cons, List.nodup_cons] at h
      rw [find?_cons] at hfind
      unfold write
      by_cases heq : head.1 = name
      · rw [if_pos heq] at hfind ⊢
        cases hfind
        have hrest : rest.map f = rest.map g := by
          apply List.map_congr_left
          intro entry hmem
          apply hother
          rintro hentry
          exact h.1 (heq.trans hentry.symm ▸ List.mem_map_of_mem hmem)
        rw [List.map_cons, List.map_cons, hname, hrest, ← heq]
      · rw [if_neg heq] at hfind ⊢
        rw [List.map_cons, List.map_cons, hother head heq, ih h.2 hfind]

theorem remove_eq_self {entries : List (String × α)} {name : String} (h : name ∉ names entries) :
    remove entries name = entries := by
  apply List.filter_eq_self.2
  intro entry hmem
  have hne : entry.1 ≠ name := by
    rintro rfl
    exact h (List.mem_map_of_mem hmem)
  simpa using hne

/-- What stands under a name after another one was removed stood there before. -/
theorem find?_of_find?_remove {entries : List (String × α)} {name other : String} {value : α}
    (h : find? (remove entries name) other = some value) : find? entries other = some value := by
  rw [find?_remove] at h
  split at h
  · cases h
  · exact h

theorem not_mem_names_remove (entries : List (String × α)) (name : String) :
    name ∉ names (remove entries name) := by
  rw [names_remove]
  simp

theorem mem_names_write {entries : List (String × α)} {name other : String} {value : α} :
    other ∈ names (write entries name value) ↔ other = name ∨ other ∈ names entries := by
  rw [names_write]
  split
  · rename_i hmem
    exact ⟨.inr, fun h => h.elim (fun heq => heq ▸ hmem) id⟩
  · rw [List.mem_append, List.mem_singleton, or_comm]

/-- Writing two names adds those of them that are new, in this order. -/
theorem names_write_write {first second : String} (hne : first ≠ second)
    (entries : List (String × α)) (value value' : α) :
    names (write (write entries first value) second value')
      = names entries ++ [first, second].filter (· ∉ names entries) := by
  simp only [names_write]
  by_cases hfirst : first ∈ names entries <;> by_cases hsecond : second ∈ names entries <;>
    simp [hfirst, hsecond, Ne.symm hne]

/-- Writing under a name does not change what is kept of the entries if none under that name is
kept. -/
theorem filter_write {keeps : String × α → Bool} {name : String}
    (h : ∀ value, keeps (name, value) = false) (entries : List (String × α)) (value : α) :
    (write entries name value).filter keeps = entries.filter keeps := by
  induction entries with
  | nil => simp [write, h]
  | cons head rest ih =>
      obtain ⟨first, other⟩ := head
      rw [write]
      split
      · rename_i hname
        obtain rfl : first = name := hname
        rw [List.filter_cons_of_neg (by simp [h]), List.filter_cons_of_neg (by simp [h])]
      · rw [List.filter_cons, List.filter_cons, ih]

theorem mem_write {entries : List (String × α)} {name : String} {value : α} {entry : String × α}
    (h : entry ∈ write entries name value) : entry = (name, value) ∨ entry ∈ entries := by
  induction entries with
  | nil => exact .inl (by simpa [write] using h)
  | cons head rest ih =>
      unfold write at h
      split at h
      · rcases List.mem_cons.1 h with h | h
        · exact .inl h
        · exact .inr (by simp [h])
      · rcases List.mem_cons.1 h with h | h
        · exact .inr (by simp [h])
        · rcases ih h with h | h
          · exact .inl h
          · exact .inr (by simp [h])

theorem mem_writeAll {entries more : List (String × α)} {entry : String × α}
    (h : entry ∈ writeAll entries more) : entry ∈ more ∨ entry ∈ entries := by
  induction more generalizing entries with
  | nil => exact .inr h
  | cons head rest ih =>
      have hrest : entry ∈ writeAll (write entries head.1 head.2) rest := h
      rcases ih hrest with h | h
      · exact .inl (by simp [h])
      · rcases mem_write h with h | h
        · exact .inl (by simp [h])
        · exact .inr h

theorem mem_of_mem_ofList {list : List (String × α)} {entry : String × α} (h : entry ∈ ofList list) :
    entry ∈ list := by
  rcases mem_writeAll h with h | h
  · exact h
  · cases h

end Entries

end TypedCollections
