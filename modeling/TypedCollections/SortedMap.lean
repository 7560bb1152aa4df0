/-!
# Sorted maps

Finite maps listed in ascending key order. The order is part of the type, so two maps that hold the
same values under the same keys are equal, and what an operation leaves untouched it leaves
untouched as a whole. Main statements: what a lookup finds after each operation, and `ext_find?`.
-/

namespace TypedCollections

/-- A finite map, listed in strictly ascending key order. -/
structure SortedMap (κ ν : Type) [Ord κ] where
  entries : List (κ × ν)
  sorted : entries.Pairwise fun a b => compare a.1 b.1 = .lt

namespace SortedMap

variable {κ ν : Type} [Ord κ]

def empty : SortedMap κ ν := ⟨[], .nil⟩

instance : EmptyCollection (SortedMap κ ν) := ⟨empty⟩

instance : Inhabited (SortedMap κ ν) := ⟨empty⟩

def size (m : SortedMap κ ν) : Nat := m.entries.length

def keys (m : SortedMap κ ν) : List κ := m.entries.map Prod.fst

def values (m : SortedMap κ ν) : List ν := m.entries.map Prod.snd

/-- Looks a key up in a list of entries. -/
def lookup : List (κ × ν) → κ → Option ν
  | [], _ => none
  | (key, value) :: rest, wanted =>
      match compare wanted key with
      | .lt => none
      | .eq => some value
      | .gt => lookup rest wanted

def find? (m : SortedMap κ ν) (key : κ) : Option ν := lookup m.entries key

def has (m : SortedMap κ ν) (key : κ) : Bool := (m.find? key).isSome

/-- Puts a value at its place in an ascending list. -/
def insertEntry : List (κ × ν) → κ → ν → List (κ × ν)
  | [], key, value => [(key, value)]
  | (key', value') :: rest, key, value =>
      match compare key key' with
      | .lt => (key, value) :: (key', value') :: rest
      | .eq => (key, value) :: rest
      | .gt => (key', value') :: insertEntry rest key value

/-- Takes a key out of an ascending list. -/
def eraseEntry : List (κ × ν) → κ → List (κ × ν)
  | [], _ => []
  | (key', value') :: rest, key =>
      match compare key key' with
      | .lt => (key', value') :: rest
      | .eq => rest
      | .gt => (key', value') :: eraseEntry rest key

theorem mem_insertEntry {entries : List (κ × ν)} {key : κ} {value : ν} {entry : κ × ν}
    (h : entry ∈ insertEntry entries key value) : entry = (key, value) ∨ entry ∈ entries := by
  induction entries with
  | nil => simpa [insertEntry] using h
  | cons head rest ih =>
      unfold insertEntry at h
      split at h
      · simpa using h
      · rcases List.mem_cons.1 h with h | h
        · exact .inl h
        · exact .inr (List.mem_cons_of_mem _ h)
      · rcases List.mem_cons.1 h with h | h
        · exact .inr (by simp [h])
        · rcases ih h with h | h
          · exact .inl h
          · exact .inr (List.mem_cons_of_mem _ h)

theorem mem_eraseEntry {entries : List (κ × ν)} {key : κ} {entry : κ × ν}
    (h : entry ∈ eraseEntry entries key) : entry ∈ entries := by
  induction entries with
  | nil => simp [eraseEntry] at h
  | cons head rest ih =>
      unfold eraseEntry at h
      split at h
      · exact h
      · exact List.mem_cons_of_mem _ h
      · rcases List.mem_cons.1 h with h | h
        · simp [h]
        · exact List.mem_cons_of_mem _ (ih h)

section Lawful

variable [Std.TransOrd κ] [Std.LawfulEqOrd κ]

theorem sorted_insertEntry {entries : List (κ × ν)}
    (h : entries.Pairwise fun a b => compare a.1 b.1 = .lt) (key : κ) (value : ν) :
    (insertEntry entries key value).Pairwise fun a b => compare a.1 b.1 = .lt := by
  induction entries with
  | nil => simp [insertEntry]
  | cons head rest ih =>
      obtain ⟨key', value'⟩ := head
      rw [List.pairwise_cons] at h
      unfold insertEntry
      split
      · rename_i hlt
        refine List.pairwise_cons.2 ⟨?_, List.pairwise_cons.2 h⟩
        intro entry hmem
        rcases List.mem_cons.1 hmem with rfl | hmem
        · exact hlt
        · exact Std.TransCmp.lt_trans hlt (h.1 entry hmem)
      · rename_i heq
        have heq := Std.LawfulEqCmp.compare_eq_iff_eq.1 heq
        subst heq
        exact List.pairwise_cons.2 ⟨fun entry hmem => h.1 entry hmem, h.2⟩
      · rename_i hgt
        refine List.pairwise_cons.2 ⟨?_, ih h.2⟩
        intro entry hmem
        rcases mem_insertEntry hmem with rfl | hmem
        · exact Std.OrientedCmp.gt_iff_lt.1 hgt
        · exact h.1 entry hmem

omit [Std.TransOrd κ] [Std.LawfulEqOrd κ] in
theorem sorted_eraseEntry {entries : List (κ × ν)}
    (h : entries.Pairwise fun a b => compare a.1 b.1 = .lt) (key : κ) :
    (eraseEntry entries key).Pairwise fun a b => compare a.1 b.1 = .lt := by
  induction entries with
  | nil => simp [eraseEntry]
  | cons head rest ih =>
      rw [List.pairwise_cons] at h
      unfold eraseEntry
      split
      · exact List.pairwise_cons.2 h
      · exact h.2
      · exact List.pairwise_cons.2 ⟨fun entry hmem => h.1 entry (mem_eraseEntry hmem), ih h.2⟩

def insert (m : SortedMap κ ν) (key : κ) (value : ν) : SortedMap κ ν :=
  ⟨insertEntry m.entries key value, sorted_insertEntry m.sorted key value⟩

omit [Std.TransOrd κ] [Std.LawfulEqOrd κ] in
def erase (m : SortedMap κ ν) (key : κ) : SortedMap κ ν :=
  ⟨eraseEntry m.entries key, sorted_eraseEntry m.sorted key⟩

/-- The map left by writing a list of entries into nothing. -/
def ofList (list : List (κ × ν)) : SortedMap κ ν :=
  list.foldl (fun m entry => m.insert entry.1 entry.2) empty

omit [Std.TransOrd κ] [Std.LawfulEqOrd κ] in
@[simp] theorem find?_empty (key : κ) : (empty : SortedMap κ ν).find? key = none := rfl

omit [Std.TransOrd κ] [Std.LawfulEqOrd κ] in
private theorem lookup_eq_none {entries : List (κ × ν)} {key : κ}
    (h : ∀ entry ∈ entries, compare key entry.1 = .lt) : lookup entries key = none := by
  cases entries with
  | nil => rfl
  | cons head rest => simp [lookup, h head (by simp)]

omit [Std.LawfulEqOrd κ] in
private theorem compare_lt_of_cons {head : κ × ν} {rest : List (κ × ν)} {key : κ}
    (h : (head :: rest).Pairwise fun a b => compare a.1 b.1 = .lt)
    (hlt : compare key head.1 = .lt) :
    ∀ entry ∈ head :: rest, compare key entry.1 = .lt := by
  intro entry hmem
  rcases List.mem_cons.1 hmem with rfl | hmem
  · exact hlt
  · exact Std.TransCmp.lt_trans hlt ((List.pairwise_cons.1 h).1 entry hmem)

theorem lookup_eq_some_iff {entries : List (κ × ν)}
    (h : entries.Pairwise fun a b => compare a.1 b.1 = .lt) {key : κ} {value : ν} :
    lookup entries key = some value ↔ (key, value) ∈ entries := by
  induction entries with
  | nil => simp [lookup]
  | cons head rest ih =>
      obtain ⟨key', value'⟩ := head
      have h' := List.pairwise_cons.1 h
      unfold lookup
      split
      · rename_i hlt
        have hall := compare_lt_of_cons h hlt
        constructor
        · intro hnone
          cases hnone
        · intro hmem
          have := hall _ hmem
          simp [Std.ReflCmp.compare_self] at this
      · rename_i heq
        have heq := Std.LawfulEqCmp.compare_eq_iff_eq.1 heq
        subst heq
        constructor
        · intro hsome
          cases hsome
          simp
        · intro hmem
          rcases List.mem_cons.1 hmem with hmem | hmem
          · cases hmem
            rfl
          · have := h'.1 _ hmem
            simp [Std.ReflCmp.compare_self] at this
      · rename_i hgt
        rw [ih h'.2, List.mem_cons]
        constructor
        · exact .inr
        · rintro (hmem | hmem)
          · cases hmem
            simp [Std.ReflCmp.compare_self] at hgt
          · exact hmem

theorem find?_eq_some_iff {m : SortedMap κ ν} {key : κ} {value : ν} :
    m.find? key = some value ↔ (key, value) ∈ m.entries :=
  lookup_eq_some_iff m.sorted

private theorem lookup_insertEntry [DecidableEq κ] {entries : List (κ × ν)}
    (h : entries.Pairwise fun a b => compare a.1 b.1 = .lt) (key other : κ) (value : ν) :
    lookup (insertEntry entries key value) other
      = if key = other then some value else lookup entries other := by
  induction entries with
  | nil =>
      by_cases heq : key = other
      · subst heq
        simp [insertEntry, lookup, Std.ReflCmp.compare_self]
      · rw [if_neg heq]
        simp only [insertEntry, lookup]
        cases hc : compare other key with
        | eq => exact absurd (Std.LawfulEqCmp.compare_eq_iff_eq.1 hc).symm heq
        | lt => rfl
        | gt => rfl
  | cons head rest ih =>
      obtain ⟨key', value'⟩ := head
      have h' := List.pairwise_cons.1 h
      unfold insertEntry
      split
      · rename_i hlt
        by_cases heq : key = other
        · subst heq
          simp [lookup, Std.ReflCmp.compare_self]
        · rw [if_neg heq]
          cases hc : compare other key with
          | eq => exact absurd (Std.LawfulEqCmp.compare_eq_iff_eq.1 hc).symm heq
          | lt =>
              have hlt' : compare other key' = .lt := Std.TransCmp.lt_trans hc hlt
              simp [lookup, hc, hlt']
          | gt => simp [lookup, hc]
      · rename_i hkey
        have hkey := Std.LawfulEqCmp.compare_eq_iff_eq.1 hkey
        subst hkey
        by_cases heq : key = other
        · subst heq
          simp [lookup, Std.ReflCmp.compare_self]
        · rw [if_neg heq]
          cases hc : compare other key with
          | eq => exact absurd (Std.LawfulEqCmp.compare_eq_iff_eq.1 hc).symm heq
          | lt => simp [lookup, hc]
          | gt => simp [lookup, hc]
      · rename_i hgt
        have hlt : compare key' key = .lt := Std.OrientedCmp.gt_iff_lt.1 hgt
        by_cases heq : key = other
        · subst heq
          rw [if_pos rfl]
          simp only [lookup, hgt]
          rw [ih h'.2, if_pos rfl]
        · rw [if_neg heq]
          simp only [lookup]
          cases hc : compare other key' with
          | eq => rfl
          | lt => rfl
          | gt => simp only [ih h'.2, if_neg heq]

theorem find?_insert [DecidableEq κ] (m : SortedMap κ ν) (key other : κ) (value : ν) :
    (m.insert key value).find? other = if key = other then some value else m.find? other :=
  lookup_insertEntry m.sorted key other value

private theorem lookup_eraseEntry [DecidableEq κ] {entries : List (κ × ν)}
    (h : entries.Pairwise fun a b => compare a.1 b.1 = .lt) (key other : κ) :
    lookup (eraseEntry entries key) other
      = if key = other then none else lookup entries other := by
  induction entries with
  | nil => simp [eraseEntry, lookup]
  | cons head rest ih =>
      obtain ⟨key', value'⟩ := head
      have h' := List.pairwise_cons.1 h
      unfold eraseEntry
      split
      · rename_i hlt
        by_cases heq : key = other
        · subst heq
          simp [lookup, hlt]
        · simp [heq]
      · rename_i hkey
        have hkey := Std.LawfulEqCmp.compare_eq_iff_eq.1 hkey
        subst hkey
        by_cases heq : key = other
        · subst heq
          rw [if_pos rfl]
          exact lookup_eq_none h'.1
        · rw [if_neg heq]
          cases hc : compare other key with
          | eq => exact absurd (Std.LawfulEqCmp.compare_eq_iff_eq.1 hc).symm heq
          | lt =>
              simp only [lookup, hc]
              exact lookup_eq_none fun entry hmem => Std.TransCmp.lt_trans hc (h'.1 entry hmem)
          | gt => simp [lookup, hc]
      · rename_i hgt
        by_cases heq : key = other
        · subst heq
          rw [if_pos rfl]
          simp only [lookup, hgt]
          rw [ih h'.2, if_pos rfl]
        · rw [if_neg heq]
          simp only [lookup]
          cases hc : compare other key' with
          | eq => rfl
          | lt => rfl
          | gt => simp only [ih h'.2, if_neg heq]

theorem find?_erase [DecidableEq κ] (m : SortedMap κ ν) (key other : κ) :
    (m.erase key).find? other = if key = other then none else m.find? other :=
  lookup_eraseEntry m.sorted key other

private theorem entries_eq_of_mem_iff {a b : List (κ × ν)}
    (ha : a.Pairwise fun x y => compare x.1 y.1 = .lt)
    (hb : b.Pairwise fun x y => compare x.1 y.1 = .lt) (h : ∀ entry, entry ∈ a ↔ entry ∈ b) :
    a = b := by
  induction a generalizing b with
  | nil =>
      cases b with
      | nil => rfl
      | cons head rest => exact absurd ((h head).2 (by simp)) (by simp)
  | cons x xs ih =>
      cases b with
      | nil => exact absurd ((h x).1 (by simp)) (by simp)
      | cons y ys =>
          have ha' := List.pairwise_cons.1 ha
          have hb' := List.pairwise_cons.1 hb
          have hxy : x = y := by
            rcases List.mem_cons.1 ((h x).1 (by simp)) with hx | hx
            · exact hx
            · rcases List.mem_cons.1 ((h y).2 (by simp)) with hy | hy
              · exact hy.symm
              · have := Std.TransCmp.lt_trans (ha'.1 y hy) (hb'.1 x hx)
                simp [Std.ReflCmp.compare_self] at this
          subst hxy
          refine congrArg (x :: ·) (ih ha'.2 hb'.2 fun entry => ?_)
          constructor
          · intro hmem
            rcases List.mem_cons.1 ((h entry).1 (List.mem_cons_of_mem _ hmem)) with rfl | hmem'
            · have := ha'.1 entry hmem
              simp [Std.ReflCmp.compare_self] at this
            · exact hmem'
          · intro hmem
            rcases List.mem_cons.1 ((h entry).2 (List.mem_cons_of_mem _ hmem)) with rfl | hmem'
            · have := hb'.1 entry hmem
              simp [Std.ReflCmp.compare_self] at this
            · exact hmem'

/-- Two maps in which every lookup finds the same are equal. -/
theorem ext_find? {m n : SortedMap κ ν} (h : ∀ key, m.find? key = n.find? key) : m = n := by
  have hentries : m.entries = n.entries := by
    refine entries_eq_of_mem_iff m.sorted n.sorted fun entry => ?_
    obtain ⟨key, value⟩ := entry
    rw [← find?_eq_some_iff, ← find?_eq_some_iff, h key]
  cases m
  cases n
  cases hentries
  rfl

end Lawful

end SortedMap

end TypedCollections
