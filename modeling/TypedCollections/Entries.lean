/-!
# Entries in written order

Named values listed in the order in which their names were first written. A name stands at most
once: writing it again replaces the value and keeps its place, so the first writing of a name fixes
the order and the last one the value. Main statements: what a lookup finds after each operation,
and that every operation keeps the names distinct.
-/

namespace TypedCollections

/-- Named values in the order in which the names were first written. -/
abbrev Entries (α : Type) := List (String × α)

namespace Entries

variable {α β : Type}

def names (entries : List (String × α)) : List String := entries.map Prod.fst

/-- No name stands twice. -/
def Distinct (entries : List (String × α)) : Prop := (names entries).Nodup

/-- The value under a name. -/
def find? : List (String × α) → String → Option α
  | [], _ => none
  | (name, value) :: rest, wanted => if name = wanted then some value else find? rest wanted

def has (entries : List (String × α)) (name : String) : Bool := (find? entries name).isSome

/-- Writes a value: in the place of the name if it stands already, at the end otherwise. -/
def write : List (String × α) → String → α → List (String × α)
  | [], name, value => [(name, value)]
  | (name', value') :: rest, name, value =>
      if name' = name then (name, value) :: rest else (name', value') :: write rest name value

/-- Takes a name out and keeps the order of the others. -/
def remove (entries : List (String × α)) (name : String) : List (String × α) :=
  entries.filter fun entry => entry.1 != name

def writeAll (entries more : List (String × α)) : List (String × α) :=
  more.foldl (fun acc entry => write acc entry.1 entry.2) entries

/-- The entries left by writing a list of them into nothing: for a repeated name the place of the
first and the value of the last. -/
def ofList (list : List (String × α)) : List (String × α) := writeAll [] list

/-- Changes the values and keeps names and order. -/
def mapValues (f : α → β) (entries : List (String × α)) : List (String × β) :=
  entries.map fun entry => (entry.1, f entry.2)

@[simp] theorem find?_nil (name : String) : find? ([] : List (String × α)) name = none := rfl

theorem find?_cons (entry : String × α) (rest : List (String × α)) (name : String) :
    find? (entry :: rest) name = if entry.1 = name then some entry.2 else find? rest name := rfl

theorem find?_eq_none_iff {entries : List (String × α)} {name : String} :
    find? entries name = none ↔ name ∉ names entries := by
  induction entries with
  | nil => simp [names]
  | cons entry rest ih =>
      by_cases h : entry.1 = name
      · simp [find?_cons, names, h]
      · have h' : ¬ name = entry.1 := fun e => h e.symm
        simp only [names] at ih
        simp [find?_cons, names, h, h', ih]

theorem has_iff {entries : List (String × α)} {name : String} :
    has entries name = true ↔ name ∈ names entries := by
  have := @find?_eq_none_iff _ entries name
  unfold has
  cases h : find? entries name <;> simp_all

theorem mem_of_find? {entries : List (String × α)} {name : String} {value : α}
    (h : find? entries name = some value) : (name, value) ∈ entries := by
  induction entries with
  | nil => simp at h
  | cons entry rest ih =>
      rw [find?_cons] at h
      split at h
      · rename_i hname
        cases h
        simp [← hname]
      · exact List.mem_cons_of_mem _ (ih h)

theorem find?_write (entries : List (String × α)) (name other : String) (value : α) :
    find? (write entries name value) other
      = if name = other then some value else find? entries other := by
  induction entries with
  | nil => simp [write, find?_cons]
  | cons entry rest ih =>
      unfold write
      split
      · rename_i h
        subst h
        by_cases ho : entry.1 = other <;> simp [find?_cons, ho]
      · rename_i h
        rw [find?_cons, ih, find?_cons]
        by_cases ho : entry.1 = other
        · have : ¬ name = other := fun e => h (ho.trans e.symm)
          simp [ho, this]
        · simp [ho]

theorem names_write (entries : List (String × α)) (name : String) (value : α) :
    names (write entries name value)
      = if name ∈ names entries then names entries else names entries ++ [name] := by
  induction entries with
  | nil => simp [write, names]
  | cons entry rest ih =>
      unfold write
      split
      · rename_i h
        simp [names, h]
      · rename_i h
        have h' : ¬ name = entry.1 := fun e => h e.symm
        simp only [names] at ih
        simp only [names, List.map_cons, ih, List.mem_cons, h', false_or]
        by_cases hmem : name ∈ rest.map Prod.fst <;> simp [hmem]

theorem distinct_write {entries : List (String × α)} (h : Distinct entries) (name : String)
    (value : α) : Distinct (write entries name value) := by
  unfold Distinct at *
  rw [names_write]
  split
  · exact h
  · rename_i hmem
    rw [List.nodup_append]
    refine ⟨h, by simp, ?_⟩
    intro a ha b hb
    simp only [List.mem_singleton] at hb
    subst hb
    exact fun e => hmem (e ▸ ha)

theorem distinct_writeAll {entries : List (String × α)} (h : Distinct entries)
    (more : List (String × α)) : Distinct (writeAll entries more) := by
  unfold writeAll
  induction more generalizing entries with
  | nil => exact h
  | cons entry rest ih => exact ih (distinct_write h entry.1 entry.2)

theorem distinct_ofList (list : List (String × α)) : Distinct (ofList list) :=
  distinct_writeAll (by simp [Distinct, names]) list

theorem names_remove (entries : List (String × α)) (name : String) :
    names (remove entries name) = (names entries).filter fun other => other != name := by
  simp [names, remove, List.filter_map, Function.comp_def]

theorem distinct_remove {entries : List (String × α)} (h : Distinct entries) (name : String) :
    Distinct (remove entries name) := by
  unfold Distinct at *
  rw [names_remove]
  exact h.filter _

theorem find?_remove (entries : List (String × α)) (name other : String) :
    find? (remove entries name) other = if name = other then none else find? entries other := by
  induction entries with
  | nil => simp [remove]
  | cons entry rest ih =>
      simp only [remove] at ih
      by_cases h : entry.1 = name
      · have : remove (entry :: rest) name = rest.filter fun e => e.1 != name := by
          simp [remove, h]
        rw [this, ih, find?_cons]
        by_cases ho : name = other
        · simp [ho]
        · have : ¬ entry.1 = other := fun e => ho (h.symm.trans e)
          simp [ho, this]
      · have : remove (entry :: rest) name = entry :: rest.filter fun e => e.1 != name := by
          simp [remove, h]
        rw [this, find?_cons, ih, find?_cons]
        by_cases ho : entry.1 = other
        · have : ¬ name = other := fun e => h (ho.trans e.symm)
          simp [ho, this]
        · simp [ho]

@[simp] theorem names_mapValues (f : α → β) (entries : List (String × α)) :
    names (mapValues f entries) = names entries := by
  simp [names, mapValues, Function.comp_def]

/-- What is found among values that were changed under their names is what was found, changed. -/
theorem find?_map_named (f : String → α → β) (entries : List (String × α)) (name : String) :
    find? (entries.map fun entry => (entry.1, f entry.1 entry.2)) name
      = (find? entries name).map (f name) := by
  induction entries with
  | nil => rfl
  | cons entry rest ih =>
      rw [List.map_cons, find?_cons, find?_cons, ih]
      split
      · rename_i h
        rw [← h]
        rfl
      · rfl

theorem find?_mapValues (f : α → β) (entries : List (String × α)) (name : String) :
    find? (mapValues f entries) name = (find? entries name).map f :=
  find?_map_named (fun _ => f) entries name

end Entries

end TypedCollections
