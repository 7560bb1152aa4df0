import TypedCollections.Proofs.Store.Histories
/-!
# Timetables

A timetable notes when documents were inserted and when they were last written. It is kept beside
the store, from the requests and the answers to them, and no document is looked at. If the readings
of the clock never decrease, no document was last written before it was inserted.
-/

namespace TypedCollections

/-- When a document was inserted, and when it was last written. -/
structure Times where
  created : Nat
  updated : Nat
deriving DecidableEq

/-- The times of the documents that are there. -/
abbrev Timetable := String → ObjectId → Option Times

namespace Timetable

/-- No document was written. -/
def empty : Timetable := fun _ _ => none

def set (table : Timetable) (name : String) (id : ObjectId) (times : Option Times) : Timetable :=
  fun other wanted => if other = name ∧ wanted = id then times else table other wanted

/-- Notes what the answer to a request tells: a document was inserted at the reading of the clock,
or written again, or deleted. -/
def note (table : Timetable) : Request → Answer → Timetable
  | .insert name now _, .written document => table.set name document.id (some ⟨now, now⟩)
  | .insertJson name now _, .written document => table.set name document.id (some ⟨now, now⟩)
  | .update name now _, .written document =>
      table.set name document.id
        ((table name document.id).map fun times => { times with updated := now })
  | .delete name id, .deleted true => table.set name id none
  | _, _ => table

end Timetable

/-- The reading of the clock that a write into a collection sets time stamps by. -/
def Request.reading? (name : String) : Request → Option Nat
  | .insert given now _ => if given = name then some now else none
  | .insertJson given now _ => if given = name then some now else none
  | .update given now _ => if given = name then some now else none
  | _ => none

namespace Step

@[inherit_doc Request.reading?]
def reading? (name : String) : Step → Option Nat
  | .request asked => asked.reading? name
  | _ => none

/-- Notes what the answer to a step tells. -/
def note (store : Store) (table : Timetable) : Step → Timetable
  | .request asked => table.note asked (store.serve asked).1
  | _ => table

end Step

/-- The timetable after steps. -/
def Store.timetable (store : Store) (table : Timetable) : List Step → Timetable
  | [] => table
  | step :: rest => (store.perform step).timetable (step.note store table) rest

/-! ### Order of times -/

namespace Timetable

variable {table : Timetable} {name : String} {id : ObjectId} {times : Times}

/-- A time that is set is that of another document, or it is the one set. -/
private theorem set_cases {given : String} {other : ObjectId} {noted : Option Times}
    (h : table.set given other noted name id = some times) :
    table name id = some times ∨ name = given ∧ id = other ∧ noted = some times := by
  by_cases hplace : name = given ∧ id = other
  · exact .inr ⟨hplace.1, hplace.2, (if_pos hplace).symm.trans h⟩
  · exact .inl ((if_neg hplace).symm.trans h)

/-- Where noted times come from: they are old ones, or a write set the second one, and it set the
first one as well or kept it. -/
theorem note_cases {asked : Request} {answer : Answer}
    (h : table.note asked answer name id = some times) :
    table name id = some times ∨ ∃ now, asked.reading? name = some now ∧ times.updated = now ∧
      (times.created = now ∨ ∃ before, table name id = some before ∧
        times.created = before.created) := by
  unfold note at h
  split at h
  · obtain hold | ⟨rfl, rfl, ⟨⟩⟩ := set_cases h
    · exact .inl hold
    · exact .inr ⟨_, if_pos rfl, rfl, .inl rfl⟩
  · obtain hold | ⟨rfl, rfl, ⟨⟩⟩ := set_cases h
    · exact .inl hold
    · exact .inr ⟨_, if_pos rfl, rfl, .inl rfl⟩
  · obtain hold | ⟨rfl, rfl, hnoted⟩ := set_cases h
    · exact .inl hold
    · obtain ⟨before, hbefore, rfl⟩ := Option.map_eq_some_iff.1 hnoted
      exact .inr ⟨_, if_pos rfl, rfl, .inr ⟨before, hbefore, rfl⟩⟩
  · obtain hold | ⟨-, -, ⟨⟩⟩ := set_cases h
    exact .inl hold
  · exact .inl h

/-- The times are in order, and none of them is after a later reading of the clock. -/
def Ordered (table : Timetable) (name : String) (later : List Nat) : Prop :=
  ∀ id times, table name id = some times →
    times.created ≤ times.updated ∧ ∀ now ∈ later, times.updated ≤ now

/-- A step keeps the times in order, if its reading is not after the later ones. -/
theorem Ordered.note {store : Store} {step : Step} {later : List Nat}
    (htable : table.Ordered name ((step.reading? name).toList ++ later))
    (hlater : ∀ now, step.reading? name = some now → ∀ next ∈ later, now ≤ next) :
    (step.note store table).Ordered name later := by
  have hkept : table.Ordered name later := by
    intro id times h
    obtain ⟨horder, hnext⟩ := htable id times h
    exact ⟨horder, fun now hmem => hnext now (List.mem_append_right _ hmem)⟩
  cases step with
  | request asked =>
      intro id times h
      obtain hold | ⟨now, hreading, rfl, hcreated⟩ := note_cases h
      · exact hkept id times hold
      · refine ⟨?_, hlater _ hreading⟩
        obtain hcreated | ⟨before, hbefore, hcreated⟩ := hcreated
        · exact Nat.le_of_eq hcreated
        · obtain ⟨horder, hnext⟩ := htable id before hbefore
          have hread : Step.reading? name (.request asked) = some times.updated := hreading
          rw [hcreated]
          refine Nat.le_trans horder (hnext _ (List.mem_append_left _ ?_))
          rw [hread]
          exact List.mem_singleton_self _
  | registerEntity now entity => exact hkept
  | registerAll now entities => exact hkept

/-- If the readings of the clock never decrease, the times are in order after steps. -/
theorem Ordered.timetable {store : Store} {steps : List Step}
    (htable : table.Ordered name (steps.filterMap (Step.reading? name)))
    (hsteps : (steps.filterMap (Step.reading? name)).Pairwise (· ≤ ·)) :
    (store.timetable table steps).Ordered name [] := by
  induction steps generalizing store table with
  | nil => exact htable
  | cons step rest ih =>
      have hsplit : (step :: rest).filterMap (Step.reading? name)
          = (step.reading? name).toList ++ rest.filterMap (Step.reading? name) := by
        cases hreading : step.reading? name <;> simp [hreading]
      rw [hsplit] at htable hsteps
      obtain ⟨-, hrest, hfirst⟩ := List.pairwise_append.1 hsteps
      refine ih (htable.note fun now hreading next hmem => ?_) hrest
      exact hfirst now (by rw [hreading]; exact List.mem_singleton_self _) next hmem

end Timetable

end TypedCollections
