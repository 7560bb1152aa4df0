import TypedCollections.Description.Basic
/-!
# Lists behind sorted maps
-/

namespace TypedCollections

namespace SortedMap

variable {κ ν : Type} [Ord κ]

theorem mem_of_lookup [Std.LawfulEqOrd κ] {entries : List (κ × ν)} {key : κ} {value : ν}
    (h : lookup entries key = some value) : (key, value) ∈ entries := by
  induction entries with
  | nil => simp [lookup] at h
  | cons head rest ih =>
      obtain ⟨key', value'⟩ := head
      unfold lookup at h
      split at h
      · cases h
      · rename_i heq
        have heq := Std.LawfulEqCmp.compare_eq_iff_eq.1 heq
        cases h
        simp [heq]
      · exact List.mem_cons_of_mem _ (ih h)

/-- What was put under a key is found there, whatever the order of the list. -/
theorem lookup_insertEntry_self [Std.ReflOrd κ] (entries : List (κ × ν)) (key : κ) (value : ν) :
    lookup (insertEntry entries key value) key = some value := by
  induction entries with
  | nil => simp [insertEntry, lookup, Std.ReflOrd.compare_self]
  | cons head rest ih =>
      obtain ⟨key', value'⟩ := head
      unfold insertEntry
      split
      · simp [lookup, Std.ReflOrd.compare_self]
      · simp [lookup, Std.ReflOrd.compare_self]
      · rename_i hgt
        rw [lookup, hgt]
        exact ih

theorem mem_keys_iff [Std.TransOrd κ] [Std.LawfulEqOrd κ] {m : SortedMap κ ν} {key : κ} :
    key ∈ m.keys ↔ m.has key = true := by
  unfold has keys
  rw [Option.isSome_iff_exists, List.mem_map]
  constructor
  · intro h
    obtain ⟨⟨_, value⟩, hmem, rfl⟩ := h
    exact ⟨value, find?_eq_some_iff.2 hmem⟩
  · intro h
    obtain ⟨value, hvalue⟩ := h
    exact ⟨(key, value), find?_eq_some_iff.1 hvalue, rfl⟩

private theorem has_foldl_insert [Std.TransOrd κ] [Std.LawfulEqOrd κ] [DecidableEq κ]
    (list : List (κ × ν)) (m : SortedMap κ ν) (key : κ) :
    (list.foldl (fun m entry => m.insert entry.1 entry.2) m).has key = true ↔
      key ∈ list.map Prod.fst ∨ m.has key = true := by
  induction list generalizing m with
  | nil => simp
  | cons entry rest ih =>
      have hinsert : (m.insert entry.1 entry.2).has key = true ↔
          key = entry.1 ∨ m.has key = true := by
        unfold has
        rw [find?_insert]
        by_cases h : entry.1 = key
        · simp [h]
        · have h' : ¬ key = entry.1 := fun e => h e.symm
          simp [h, h']
      rw [List.foldl_cons, ih, hinsert, List.map_cons, List.mem_cons, or_left_comm, or_assoc]

theorem mem_keys_ofList [Std.TransOrd κ] [Std.LawfulEqOrd κ] [DecidableEq κ]
    {list : List (κ × ν)} {key : κ} : key ∈ (ofList list).keys ↔ key ∈ list.map Prod.fst := by
  rw [mem_keys_iff]
  unfold ofList
  rw [has_foldl_insert]
  simp [has]

end SortedMap

theorem NameSet.mem_keys_ofNames {names : List String} {name : String} :
    name ∈ (NameSet.ofNames names).keys ↔ name ∈ names := by
  rw [ofNames, SortedMap.mem_keys_ofList]
  simp

/-- A set is made up of its names. -/
theorem NameSet.ofNames_keys (names : NameSet) : NameSet.ofNames names.keys = names := by
  apply SortedMap.ext_find?
  intro name
  apply Option.ext
  intro value
  have hhas : ∀ set : NameSet, set.find? name = some value ↔ name ∈ set.keys := by
    intro set
    rw [SortedMap.mem_keys_iff, SortedMap.has, Option.isSome_iff_exists]
    exact ⟨fun h => ⟨value, h⟩, fun ⟨_, h⟩ => h⟩
  rw [hhas, hhas, NameSet.mem_keys_ofNames]

end TypedCollections
