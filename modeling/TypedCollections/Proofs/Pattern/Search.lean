import Mathlib.Tactic.ByContra
import TypedCollections.Proofs.Pattern.Meaning
/-!
# Searching for a match

At every place the search visits the states that are reached without taking a character, each once.
A visited state is served: where it leads is visited or about to be, and what it takes is listed.
When nothing is left to visit, everything that leads to a match is listed, and so the search finds a
match exactly if there is one somewhere in the text.
-/

namespace TypedCollections

namespace Automaton

variable {automaton : Automaton} {cursor : Cursor} {number state : Nat} {states pending : List Nat}
  {latest : Array Nat} {reached : Reached}

/-- A match that begins at the place is found from the state. -/
def Succeeds (automaton : Automaton) (state : Nat) (cursor : Cursor) : Prop :=
  ∃ steps, Accepts automaton.moves steps state cursor

/-- What is listed at a place leads to a match. -/
def Promises (automaton : Automaton) (cursor : Cursor) (reached : Reached) : Prop :=
  reached.accepts = true ∨ ∃ c rest chars target, cursor.rest = c :: rest ∧
    (chars, target) ∈ reached.takers ∧ chars.has c = true ∧ automaton.Succeeds target ⟨some c, rest⟩

/-- The state was visited at the place, or there is no such state. -/
def Visited (number : Nat) (latest : Array Nat) (state : Nat) : Prop :=
  number < latest[state]?.getD (number + 1)

/-- What a state takes is listed, and that it accepts; the states to which it leads are near. -/
def Served (automaton : Automaton) (cursor : Cursor) (near : Nat → Prop) (reached : Reached)
    (state : Nat) : Prop :=
  match automaton.moves[state]? with
  | some (.take chars target) => (chars, target) ∈ reached.takers
  | some (.check claim target) =>
      claim.holds cursor.previous cursor.rest.head? = true → near target
  | some (.split first second) => near first ∧ near second
  | some .accept => reached.accepts = true
  | none => True

/-- The state was visited or will be. -/
def Near (number : Nat) (pending : List Nat) (latest : Array Nat) (state : Nat) : Prop :=
  Visited number latest state ∨ state ∈ pending

/-- What holds at a place while states are visited. -/
structure Exploring (automaton : Automaton) (cursor : Cursor) (number : Nat)
    (states pending : List Nat) (reached : Reached) : Prop where
  size_eq : reached.latest.size = automaton.moves.size
  bounded : ∀ state : Nat, reached.latest[state]?.getD 0 ≤ number + 1
  /-- What is listed, and what is visited yet, leads to a match only if a first state does. -/
  promises : automaton.Promises cursor reached → ∃ state ∈ states, automaton.Succeeds state cursor
  succeeds : ∀ state ∈ pending, automaton.Succeeds state cursor →
    ∃ state ∈ states, automaton.Succeeds state cursor
  started : ∀ state ∈ states, Near number pending reached.latest state
  served : ∀ state, Visited number reached.latest state →
    automaton.Served cursor (Near number pending reached.latest) reached state

theorem Served.mono {near nearer : Nat → Prop} {later : Reached}
    (h : automaton.Served cursor near reached state) (hnear : ∀ state, near state → nearer state)
    (htakers : ∀ taker ∈ reached.takers, taker ∈ later.takers)
    (haccepts : reached.accepts = true → later.accepts = true) :
    automaton.Served cursor nearer later state := by
  unfold Served at *
  split at h
  · exact htakers _ h
  · exact fun hholds => hnear _ (h hholds)
  · exact ⟨hnear _ h.1, hnear _ h.2⟩
  · exact haccepts h
  · trivial

/-- When nothing is left to visit, a visited state that leads to a match is among what is listed. -/
theorem promises_of_served
    (hserved : ∀ state, Visited number latest state →
      automaton.Served cursor (Visited number latest) reached state)
    {steps : Nat} (h : Accepts automaton.moves steps state cursor)
    (hvisited : Visited number latest state) : automaton.Promises cursor reached := by
  induction h with
  | accept hmove =>
      have hstate := hserved _ hvisited
      rw [Served, hmove] at hstate
      exact .inl hstate
  | take hmove hc hnext =>
      have hstate := hserved _ hvisited
      rw [Served, hmove] at hstate
      exact .inr ⟨_, _, _, _, rfl, hstate, hc, _, hnext⟩
  | check hmove hholds _ ih =>
      have hstate := hserved _ hvisited
      rw [Served, hmove] at hstate
      exact ih hserved (hstate hholds)
  | left hmove _ ih =>
      have hstate := hserved _ hvisited
      rw [Served, hmove] at hstate
      exact ih hserved hstate.1
  | right hmove _ ih =>
      have hstate := hserved _ hvisited
      rw [Served, hmove] at hstate
      exact ih hserved hstate.2

theorem Exploring.promises_iff
    (h : automaton.Exploring cursor number states [] reached) :
    automaton.Promises cursor reached ↔ ∃ state ∈ states, automaton.Succeeds state cursor := by
  have hnear : ∀ state, Near number [] reached.latest state → Visited number reached.latest state :=
    fun state hnear => hnear.resolve_right List.not_mem_nil
  refine ⟨h.promises, ?_⟩
  rintro ⟨state, hmem, steps, haccepts⟩
  refine promises_of_served (fun other hvisited => ?_) haccepts (hnear state (h.started state hmem))
  exact (h.served other hvisited).mono hnear (fun _ hmem => hmem) id

/-! ### Visiting a state -/

theorem visited_setIfInBounds_iff (other : Nat) :
    Visited number (latest.setIfInBounds state (number + 1)) other ↔
      other = state ∨ Visited number latest other := by
  unfold Visited
  rw [Array.getElem?_setIfInBounds]
  by_cases hother : state = other
  · subst hother
    simp only [true_or, iff_true, if_true]
    split <;> simp
  · simp [hother, Ne.symm hother]

/-- A state that was visited already is passed over. -/
theorem Exploring.skip (h : automaton.Exploring cursor number states (state :: pending) reached)
    (hvisited : Visited number reached.latest state) :
    automaton.Exploring cursor number states pending reached := by
  have hnear : ∀ other, Near number (state :: pending) reached.latest other →
      Near number pending reached.latest other := by
    rintro other (hother | hother)
    · exact .inl hother
    · rcases List.mem_cons.1 hother with rfl | hother
      · exact .inl hvisited
      · exact .inr hother
  exact { h with
    succeeds := fun other hmem => h.succeeds other (List.mem_cons_of_mem _ hmem)
    started := fun other hmem => hnear other (h.started other hmem)
    served := fun other hother => (h.served other hother).mono hnear (fun _ hmem => hmem) id }

/-- What visiting a state gives: the states to which it leads, and what is listed then. -/
def visit (automaton : Automaton) (cursor : Cursor) (number state : Nat) (reached : Reached) :
    List Nat × Reached :=
  let reached := { reached with latest := reached.latest.setIfInBounds state (number + 1) }
  match automaton.moves[state]? with
  | some (.take chars target) => ([], { reached with takers := (chars, target) :: reached.takers })
  | some (.check claim target) =>
      (if claim.holds cursor.previous cursor.rest.head? then [target] else [], reached)
  | some (.split first second) => ([first, second], reached)
  | some .accept => ([], { reached with accepts := true })
  | none => ([], reached)

theorem latest_visit : (automaton.visit cursor number state reached).2.latest
    = reached.latest.setIfInBounds state (number + 1) := by
  unfold visit
  split <;> rfl

theorem length_visit_le (automaton : Automaton) (cursor : Cursor) (number state : Nat)
    (reached : Reached) : (automaton.visit cursor number state reached).1.length ≤ 2 := by
  unfold visit
  split
  · simp
  · show (ite _ _ _ : List Nat).length ≤ 2
    split <;> simp
  · simp
  · simp
  · simp

theorem served_visit : automaton.Served cursor
    (· ∈ (automaton.visit cursor number state reached).1)
    (automaton.visit cursor number state reached).2 state := by
  unfold Served visit
  cases hmove : automaton.moves[state]? with
  | none => trivial
  | some move =>
      cases move with
      | take chars target => exact List.mem_cons_self ..
      | check claim target =>
          intro hholds
          show target ∈ (ite _ _ _ : List Nat)
          rw [if_pos hholds]
          exact List.mem_singleton_self _
      | split first second => exact ⟨by simp, by simp⟩
      | accept => rfl

/-- What is listed stays listed. -/
theorem Served.visit {near : Nat → Prop} {other : Nat}
    (h : automaton.Served cursor near reached other) :
    automaton.Served cursor near (automaton.visit cursor number state reached).2 other := by
  refine h.mono (fun _ h => h) (fun taker hmem => ?_) fun haccepts => ?_
  all_goals unfold Automaton.visit; split
  · exact List.mem_cons_of_mem _ hmem
  all_goals first | exact hmem | exact haccepts | rfl

/-- A state to which the state leads succeeds only if the state does. -/
theorem Succeeds.of_mem_visit {next : Nat}
    (hmem : next ∈ (automaton.visit cursor number state reached).1)
    (h : automaton.Succeeds next cursor) : automaton.Succeeds state cursor := by
  obtain ⟨steps, haccepts⟩ := h
  unfold Automaton.visit at hmem
  split at hmem
  · cases hmem
  · rename_i claim target hmove
    have hmem : next ∈ (ite _ _ _ : List Nat) := hmem
    split at hmem
    · rename_i hholds
      rw [List.mem_singleton.1 hmem] at haccepts
      exact ⟨_, .check hmove hholds haccepts⟩
    · cases hmem
  · rename_i first second hmove
    have hmem : next ∈ [first, second] := hmem
    rw [List.mem_cons, List.mem_singleton] at hmem
    rcases hmem with rfl | rfl
    · exact ⟨_, .left hmove haccepts⟩
    · exact ⟨_, .right hmove haccepts⟩
  · cases hmem
  · cases hmem

/-- What is listed for the state leads to a match only if the state does. -/
theorem promises_of_visit
    (h : automaton.Promises cursor (automaton.visit cursor number state reached).2) :
    automaton.Promises cursor reached ∨ automaton.Succeeds state cursor := by
  unfold visit at h
  split at h
  · rename_i chars target hmove
    obtain haccepts | ⟨c, rest, others, next, hrest, hmem, hc, steps, hnext⟩ := h
    · exact .inl (.inl haccepts)
    · rcases List.mem_cons.1 hmem with heq | hmem
      · cases heq
        obtain ⟨previous, _⟩ := cursor
        cases hrest
        exact .inr ⟨_, .take hmove hc hnext⟩
      · exact .inl (.inr ⟨c, rest, others, next, hrest, hmem, hc, steps, hnext⟩)
  · exact .inl h
  · exact .inl h
  · rename_i hmove
    exact .inr ⟨_, .accept hmove⟩
  · exact .inl h

theorem Exploring.visit (h : automaton.Exploring cursor number states (state :: pending) reached) :
    automaton.Exploring cursor number states
      ((automaton.visit cursor number state reached).1 ++ pending)
      (automaton.visit cursor number state reached).2 := by
  have hvisited : ∀ other,
      Visited number (automaton.visit cursor number state reached).2.latest other ↔
        other = state ∨ Visited number reached.latest other := by
    rw [latest_visit]
    exact visited_setIfInBounds_iff
  have hnear : ∀ other, Near number (state :: pending) reached.latest other →
      Near number ((automaton.visit cursor number state reached).1 ++ pending)
        (automaton.visit cursor number state reached).2.latest other := by
    rintro other (hother | hother)
    · exact .inl ((hvisited other).2 (.inr hother))
    · rcases List.mem_cons.1 hother with rfl | hother
      · exact .inl ((hvisited other).2 (.inl rfl))
      · exact .inr (List.mem_append_right _ hother)
  have hstate := h.succeeds state (List.mem_cons_self ..)
  refine ⟨?_, fun other => ?_, fun hlater => ?_, fun other hmem hother => ?_, fun other hmem => ?_,
    fun other hother => ?_⟩
  · rw [latest_visit, Array.size_setIfInBounds, h.size_eq]
  · have hbound := h.bounded other
    rw [latest_visit, Array.getElem?_setIfInBounds]
    split
    · split <;> simp
    · exact hbound
  · exact (promises_of_visit hlater).elim h.promises hstate
  · rcases List.mem_append.1 hmem with hmem | hmem
    · exact hstate (hother.of_mem_visit hmem)
    · exact h.succeeds other (List.mem_cons_of_mem _ hmem) hother
  · exact hnear other (h.started other hmem)
  · rcases (hvisited other).1 hother with rfl | hother
    · exact served_visit.mono (fun next hmem => .inr (List.mem_append_left _ hmem))
        (fun _ hmem => hmem) id
    · exact (h.served other hother).visit.mono hnear (fun _ hmem => hmem) id

/-! ### Visiting all states -/

/-- How many states were not visited at the place. -/
def unvisited (number : Nat) (latest : Array Nat) : Nat := latest.countP fun time => time ≤ number

theorem unvisited_setIfInBounds (h : ¬ Visited number latest state) :
    unvisited number (latest.setIfInBounds state (number + 1)) + 1 = unvisited number latest := by
  unfold Visited at h
  have hstate : state < latest.size := by
    by_contra hout
    rw [Array.getElem?_eq_none (Nat.le_of_not_lt hout)] at h
    simp at h
  rw [Array.getElem?_eq_getElem hstate, Option.getD_some, Nat.not_lt] at h
  have hpos : 0 < unvisited number latest :=
    Array.countP_pos_iff.2 ⟨latest[state], Array.getElem_mem hstate, decide_eq_true h⟩
  have hlast : ¬ number + 1 ≤ number := Nat.not_succ_le_self number
  unfold unvisited at *
  rw [Array.setIfInBounds_def, dif_pos hstate, Array.countP_set]
  simp only [h, hlast, decide_true, decide_false, if_true, Bool.false_eq_true, if_false]
  omega

/-- The place as the search counts it. -/
def spotOf (cursor : Cursor) (number : Nat) : Spot := ⟨number, cursor.previous, cursor.rest.head?⟩

theorem spread_cons_visited (rounds : Nat) (hvisited : Visited number reached.latest state) :
    automaton.spread (spotOf cursor number) (rounds + 1) (state :: pending) reached
      = automaton.spread (spotOf cursor number) rounds pending reached :=
  if_pos hvisited

theorem spread_cons (rounds : Nat) (hvisited : ¬ Visited number reached.latest state) :
    automaton.spread (spotOf cursor number) (rounds + 1) (state :: pending) reached
      = automaton.spread (spotOf cursor number) rounds
          ((automaton.visit cursor number state reached).1 ++ pending)
          (automaton.visit cursor number state reached).2 := by
  refine (if_neg hvisited).trans ?_
  unfold visit
  cases hmove : automaton.moves[state]? with
  | none => rfl
  | some move =>
      cases move with
      | check claim target =>
          by_cases hholds : claim.holds cursor.previous cursor.rest.head? = true <;>
            simp [spotOf, hholds]
      | _ => rfl

/-- With two rounds for each state that was not visited and one for each that is left to visit,
nothing is left to visit in the end. -/
theorem Exploring.spread {rounds : Nat}
    (h : automaton.Exploring cursor number states pending reached)
    (hrounds : 2 * unvisited number reached.latest + pending.length ≤ rounds) :
    automaton.Exploring cursor number states []
      (automaton.spread (spotOf cursor number) rounds pending reached) := by
  induction rounds generalizing pending reached with
  | zero =>
      obtain rfl := List.length_eq_zero_iff.1 (by omega : pending.length = 0)
      exact h
  | succ rounds ih =>
      cases pending with
      | nil => exact h
      | cons state pending =>
          rw [List.length_cons] at hrounds
          by_cases hvisited : Visited number reached.latest state
          · rw [spread_cons_visited rounds hvisited]
            exact ih (h.skip hvisited) (by omega)
          · rw [spread_cons rounds hvisited]
            have hunvisited := unvisited_setIfInBounds hvisited
            have hadded := length_visit_le automaton cursor number state reached
            refine ih h.visit ?_
            rw [latest_visit, List.length_append]
            omega

/-! ### Going through a text -/

/-- What is reached at a place leads to a match exactly if one of the first states does. -/
theorem reach_spec (cursor : Cursor) (hsize : latest.size = automaton.moves.size)
    (hbounded : ∀ state : Nat, latest[state]?.getD 0 ≤ number) (states : List Nat) :
    automaton.Exploring cursor number states []
      (automaton.reach (spotOf cursor number) states latest) := by
  refine Exploring.spread ⟨hsize, fun state => ?_, ?_, fun state hmem h => ⟨state, hmem, h⟩,
    fun state hmem => .inr hmem, fun state hvisited => ?_⟩ ?_
  · exact Nat.le_succ_of_le (hbounded state)
  · rintro (haccepts | ⟨c, rest, chars, target, -, hmem, -⟩)
    · cases haccepts
    · cases hmem
  · -- At a new cursor only the states that do not exist count as visited.
    have hout : automaton.moves[state]? = none := by
      have hstate := hbounded state
      unfold Visited at hvisited
      cases htime : latest[state]? with
      | none => rwa [Array.getElem?_eq_none_iff, ← hsize, ← Array.getElem?_eq_none_iff]
      | some time =>
          simp only [htime, Option.getD_some] at hstate hvisited
          omega
    unfold Served
    rw [hout]
    trivial
  · have hcount : unvisited number latest ≤ latest.size := Array.countP_le_size
    show 2 * unvisited number latest + states.length ≤ 2 * automaton.moves.size + states.length
    omega

/-- The states after a character that is taken. -/
def after (c : Char) (reached : Reached) : List Nat :=
  reached.takers.filterMap fun (chars, target) => if chars.has c then some target else none

theorem finds_cons (automaton : Automaton) (number : Nat) (previous : Option Char)
    (states : List Nat) (latest : Array Nat) (c : Char) (rest : List Char) :
    let reached :=
      automaton.reach (spotOf ⟨previous, c :: rest⟩ number) (automaton.start :: states) latest
    automaton.finds number previous states latest (c :: rest)
      = (reached.accepts
        || automaton.finds (number + 1) (some c) (after c reached) reached.latest rest) := rfl

/-- At the end of a text nothing is taken. -/
theorem promises_end_iff {previous : Option Char} :
    automaton.Promises ⟨previous, []⟩ reached ↔ reached.accepts = true := by
  refine ⟨fun h => h.resolve_right ?_, .inl⟩
  rintro ⟨c, rest, chars, target, hrest, -⟩
  cases hrest

theorem promises_cons_iff {previous : Option Char} {c : Char} {rest : List Char} :
    automaton.Promises ⟨previous, c :: rest⟩ reached ↔ reached.accepts = true ∨
      ∃ state ∈ after c reached, automaton.Succeeds state ⟨some c, rest⟩ := by
  refine or_congr_right ⟨?_, ?_⟩
  · rintro ⟨_, _, chars, target, heq, hmem, hc, hsucceeds⟩
    cases heq
    exact ⟨target, List.mem_filterMap.2 ⟨(chars, target), hmem, if_pos hc⟩, hsucceeds⟩
  · rintro ⟨state, hmem, hsucceeds⟩
    obtain ⟨⟨chars, target⟩, htaker, htarget⟩ := List.mem_filterMap.1 hmem
    simp only [Option.ite_none_right_eq_some, Option.some.injEq] at htarget
    obtain ⟨hc, rfl⟩ := htarget
    exact ⟨c, rest, chars, target, rfl, htaker, hc, hsucceeds⟩

theorem exists_place_nil_iff {holds : Cursor → Prop} {previous : Option Char} :
    (∃ before after, [] = before ++ after ∧ holds ⟨before.getLast?.or previous, after⟩) ↔
      holds ⟨previous, []⟩ := by
  constructor
  · rintro ⟨before, after, heq, h⟩
    obtain ⟨rfl, rfl⟩ := List.append_eq_nil_iff.1 heq.symm
    exact h
  · exact fun h => ⟨[], [], rfl, h⟩

/-- A place in a text is its beginning, or it comes after the first character. -/
theorem exists_place_cons_iff {holds : Cursor → Prop} {previous : Option Char} {c : Char}
    {rest : List Char} :
    (∃ before after, c :: rest = before ++ after ∧ holds ⟨before.getLast?.or previous, after⟩) ↔
      holds ⟨previous, c :: rest⟩ ∨
        ∃ before after, rest = before ++ after ∧ holds ⟨before.getLast?.or (some c), after⟩ := by
  have hlast : ∀ before : List Char,
      (c :: before).getLast?.or previous = before.getLast?.or (some c) := by
    intro before
    rw [List.getLast?_cons]
    cases before.getLast? <;> rfl
  constructor
  · rintro ⟨before, after, heq, h⟩
    rcases List.cons_eq_append_iff.1 heq with ⟨rfl, rfl⟩ | ⟨before, rfl, rfl⟩
    · exact .inl h
    · exact .inr ⟨before, after, rfl, hlast before ▸ h⟩
  · rintro (h | ⟨before, after, rfl, h⟩)
    · exact ⟨[], c :: rest, rfl, h⟩
    · exact ⟨c :: before, after, rfl, (hlast before).symm ▸ h⟩

/-- The search finds a match exactly if one goes on from a state reached, or begins at some place
from here on. -/
theorem finds_iff (automaton : Automaton) (text : List Char) (number : Nat) (previous : Option Char)
    (states : List Nat) (latest : Array Nat) (hsize : latest.size = automaton.moves.size)
    (hbounded : ∀ state : Nat, latest[state]?.getD 0 ≤ number) :
    automaton.finds number previous states latest text = true ↔
      (∃ state ∈ states, automaton.Succeeds state ⟨previous, text⟩) ∨
      ∃ before after, text = before ++ after ∧
        automaton.Succeeds automaton.start ⟨before.getLast?.or previous, after⟩ := by
  induction text generalizing number previous states latest with
  | nil =>
      have hreach := reach_spec ⟨previous, []⟩ hsize hbounded (automaton.start :: states)
      have hstates := promises_end_iff.symm.trans hreach.promises_iff
      refine hstates.trans ?_
      rw [exists_place_nil_iff, or_comm]
      simp
  | cons c rest ih =>
      have hreach := reach_spec ⟨previous, c :: rest⟩ hsize hbounded (automaton.start :: states)
      have hstates := promises_cons_iff.symm.trans hreach.promises_iff
      rw [finds_cons, Bool.or_eq_true, ih _ _ _ _ hreach.size_eq hreach.bounded, ← or_assoc,
        hstates, exists_place_cons_iff]
      simp [or_assoc, or_left_comm]

end Automaton

namespace Pattern

/-- Searching a text finds a match exactly if the pattern matches somewhere in it. -/
theorem isMatch_iff (pattern : Pattern) (text : String) :
    pattern.isMatch text = true ↔ pattern.Matches text.toList := by
  have hbounded : ∀ state : Nat,
      (Array.replicate pattern.automaton.moves.size 0)[state]?.getD 0 ≤ 0 := by
    intro state
    rw [Array.getElem?_replicate]
    split <;> exact Nat.le_refl 0
  have hfinds := pattern.automaton.finds_iff text.toList 0 none [] _ Array.size_replicate hbounded
  refine hfinds.trans ?_
  simp only [List.not_mem_nil, false_and, exists_false, false_or, Option.or_none]
  constructor
  · rintro ⟨before, after, heq, hsucceeds⟩
    obtain ⟨stop, hspans⟩ := (accepts_automaton_iff pattern _).1 hsucceeds
    exact ⟨before, after, stop, heq, hspans⟩
  · rintro ⟨before, after, stop, heq, hspans⟩
    exact ⟨before, after, heq, (accepts_automaton_iff pattern _).2 ⟨stop, hspans⟩⟩

end Pattern

end TypedCollections
