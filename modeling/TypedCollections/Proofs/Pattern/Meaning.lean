import TypedCollections.Pattern.Automaton
/-!
# What a pattern spans

A pattern spans from one place of a text to another. The automaton built for a pattern links a state
to the state in which it goes on: from the first a match ends exactly if the pattern spans to a
place from where a match ends in the second. Links are joined as patterns are, and the states that
are added later change nothing about them.
-/

namespace TypedCollections

/-- A place in a text: the character before it, if there is one, and what follows. -/
structure Cursor where
  previous : Option Char
  rest : List Char

namespace Pattern

/-- One relation after the other. -/
def Then (first second : Cursor → Cursor → Prop) (a b : Cursor) : Prop :=
  ∃ middle, first a middle ∧ second middle b

/-- A relation so many times, one after the other. -/
def Rounds (spans : Cursor → Cursor → Prop) : Nat → Cursor → Cursor → Prop
  | 0 => Eq
  | times + 1 => Then spans (Rounds spans times)

/-- The pattern matches what stands between two places. -/
def Spans : Pattern → Cursor → Cursor → Prop
  | empty => Eq
  | set chars => fun a b => ∃ c rest, a.rest = c :: rest ∧ chars.has c = true ∧ b = ⟨some c, rest⟩
  | assertion claim => fun a b => claim.holds a.previous a.rest.head? = true ∧ a = b
  | group inner => inner.Spans
  | seq first second => Then first.Spans second.Spans
  | alt first second => fun a b => first.Spans a b ∨ second.Spans a b
  | repetition inner least most _ => fun a b => ∃ times, least ≤ times ∧
      (∀ bound, most = some bound → times ≤ max least bound) ∧ Rounds inner.Spans times a b

/-- The pattern matches somewhere in the text. -/
def Matches (pattern : Pattern) (text : List Char) : Prop :=
  ∃ before after stop, text = before ++ after ∧ pattern.Spans ⟨before.getLast?, after⟩ stop

end Pattern

namespace Automaton

open Pattern (Then Rounds)

variable {moves more all : Array Move} {steps state next first second : Nat} {cursor : Cursor}
  {spans others : Cursor → Cursor → Prop}

/-- From the state a match ends after so many moves that begin at the place. -/
inductive Accepts (moves : Array Move) : Nat → Nat → Cursor → Prop
  | accept {state : Nat} {cursor : Cursor} (h : moves[state]? = some .accept) :
      Accepts moves 0 state cursor
  | take {steps state next : Nat} {chars : CharSet} {previous : Option Char} {c : Char}
      {rest : List Char} (h : moves[state]? = some (.take chars next)) (hc : chars.has c = true)
      (hnext : Accepts moves steps next ⟨some c, rest⟩) :
      Accepts moves (steps + 1) state ⟨previous, c :: rest⟩
  | check {steps state next : Nat} {claim : Assertion} {cursor : Cursor}
      (h : moves[state]? = some (.check claim next))
      (hholds : claim.holds cursor.previous cursor.rest.head? = true)
      (hnext : Accepts moves steps next cursor) : Accepts moves (steps + 1) state cursor
  | left {steps state first second : Nat} {cursor : Cursor}
      (h : moves[state]? = some (.split first second)) (hnext : Accepts moves steps first cursor) :
      Accepts moves (steps + 1) state cursor
  | right {steps state first second : Nat} {cursor : Cursor}
      (h : moves[state]? = some (.split first second)) (hnext : Accepts moves steps second cursor) :
      Accepts moves (steps + 1) state cursor

/-- What is accepted where the automaton goes on in two states. -/
theorem Accepts.of_split (h : moves[state]? = some (.split first second))
    (haccepts : Accepts moves steps state cursor) : ∃ fewer, steps = fewer + 1 ∧
      (Accepts moves fewer first cursor ∨ Accepts moves fewer second cursor) := by
  cases haccepts with
  | accept hmove => rw [h] at hmove; cases hmove
  | take hmove => rw [h] at hmove; cases hmove
  | check hmove => rw [h] at hmove; cases hmove
  | left hmove hnext =>
      rw [h] at hmove
      cases hmove
      exact ⟨_, rfl, .inl hnext⟩
  | right hmove hnext =>
      rw [h] at hmove
      cases hmove
      exact ⟨_, rfl, .inr hnext⟩

/-! ### Links between states -/

/-- The automaton goes from one state to the other by what the relation spans. -/
structure Links (moves : Array Move) (spans : Cursor → Cursor → Prop) (first second : Nat) :
    Prop where
  sound : ∀ {steps cursor}, Accepts moves steps first cursor → ∃ stop fewer, fewer ≤ steps ∧
    spans cursor stop ∧ Accepts moves fewer second stop
  complete : ∀ {steps cursor stop}, spans cursor stop → Accepts moves steps second stop →
    ∃ more, Accepts moves more first cursor

namespace Links

theorem refl (moves : Array Move) (state : Nat) : Links moves Eq state state where
  sound h := ⟨_, _, Nat.le_refl _, rfl, h⟩
  complete h haccepts := ⟨_, h ▸ haccepts⟩

theorem trans {middle : Nat} (h : Links moves spans first middle)
    (h' : Links moves others middle second) : Links moves (Then spans others) first second where
  sound haccepts := by
    obtain ⟨between, steps, hle, hspans, hmiddle⟩ := h.sound haccepts
    obtain ⟨stop, fewer, hle', hspans', hsecond⟩ := h'.sound hmiddle
    exact ⟨stop, fewer, Nat.le_trans hle' hle, ⟨between, hspans, hspans'⟩, hsecond⟩
  complete hspans hsecond := by
    obtain ⟨between, hfirst, hrest⟩ := hspans
    obtain ⟨steps, hmiddle⟩ := h'.complete hrest hsecond
    exact h.complete hfirst hmiddle

theorem congr (h : Links moves spans first second) (heq : ∀ a b, spans a b ↔ others a b) :
    Links moves others first second := by
  have hsame : spans = others := funext fun a => funext fun b => propext (heq a b)
  exact hsame ▸ h

theorem take {chars : CharSet} (h : moves[state]? = some (.take chars next)) :
    Links moves (Pattern.set chars).Spans state next where
  sound haccepts := by
    cases haccepts with
    | accept hmove => rw [h] at hmove; cases hmove
    | take hmove hc hnext =>
        rw [h] at hmove
        cases hmove
        exact ⟨_, _, Nat.le_succ _, ⟨_, _, rfl, hc, rfl⟩, hnext⟩
    | check hmove => rw [h] at hmove; cases hmove
    | left hmove => rw [h] at hmove; cases hmove
    | right hmove => rw [h] at hmove; cases hmove
  complete := by
    rintro steps ⟨previous, _⟩ _ ⟨c, rest, rfl, hc, rfl⟩ hnext
    exact ⟨_, .take h hc hnext⟩

theorem check {claim : Assertion} (h : moves[state]? = some (.check claim next)) :
    Links moves (Pattern.assertion claim).Spans state next where
  sound haccepts := by
    cases haccepts with
    | accept hmove => rw [h] at hmove; cases hmove
    | take hmove => rw [h] at hmove; cases hmove
    | check hmove hholds hnext =>
        rw [h] at hmove
        cases hmove
        exact ⟨_, _, Nat.le_succ _, ⟨hholds, rfl⟩, hnext⟩
    | left hmove => rw [h] at hmove; cases hmove
    | right hmove => rw [h] at hmove; cases hmove
  complete := by
    rintro steps cursor _ ⟨hholds, rfl⟩ hnext
    exact ⟨_, .check h hholds hnext⟩

theorem split (h : moves[state]? = some (.split first second))
    (hfirst : Links moves spans first next) (hsecond : Links moves others second next) :
    Links moves (fun a b => spans a b ∨ others a b) state next where
  sound haccepts := by
    obtain ⟨steps, rfl, haccepts | haccepts⟩ := haccepts.of_split h
    · obtain ⟨stop, fewer, hle, hspans, hnext⟩ := hfirst.sound haccepts
      exact ⟨stop, fewer, Nat.le_succ_of_le hle, .inl hspans, hnext⟩
    · obtain ⟨stop, fewer, hle, hspans, hnext⟩ := hsecond.sound haccepts
      exact ⟨stop, fewer, Nat.le_succ_of_le hle, .inr hspans, hnext⟩
  complete hspans hnext := by
    rcases hspans with hspans | hspans
    · obtain ⟨more, haccepts⟩ := hfirst.complete hspans hnext
      exact ⟨more + 1, .left h haccepts⟩
    · obtain ⟨more, haccepts⟩ := hsecond.complete hspans hnext
      exact ⟨more + 1, .right h haccepts⟩

/-- A state that goes on, or through the relation back to itself, goes any number of rounds. -/
theorem loop (h : moves[state]? = some (.split first next))
    (hfirst : Links moves spans first state) :
    Links moves (fun a b => ∃ times, Rounds spans times a b) state next where
  sound {steps cursor} haccepts := by
    -- Every round takes at least the step into it.
    induction steps using Nat.strongRecOn generalizing cursor with
    | ind steps ih =>
      obtain ⟨fewer, rfl, haccepts | haccepts⟩ := haccepts.of_split h
      · obtain ⟨between, steps, hle, hspans, hstate⟩ := hfirst.sound haccepts
        obtain ⟨stop, last, hlast, ⟨times, hrounds⟩, hnext⟩ :=
          ih steps (Nat.lt_succ_of_le hle) hstate
        exact ⟨stop, last, by omega, ⟨times + 1, between, hspans, hrounds⟩, hnext⟩
      · exact ⟨cursor, fewer, Nat.le_succ _, ⟨0, rfl⟩, haccepts⟩
  complete {steps cursor stop} hspans hnext := by
    obtain ⟨times, hrounds⟩ := hspans
    induction times generalizing cursor with
    | zero =>
        cases hrounds
        exact ⟨_, .right h hnext⟩
    | succ times ih =>
        obtain ⟨between, hspans, hrounds⟩ := hrounds
        obtain ⟨more, hstate⟩ := ih hrounds
        obtain ⟨most, haccepts⟩ := hfirst.complete hspans hstate
        exact ⟨most + 1, .left h haccepts⟩

end Links

/-! ### Adding states -/

/-- The states there were keep their moves. -/
structure Extends (moves more : Array Move) : Prop where
  size_le : moves.size ≤ more.size
  kept : ∀ state < moves.size, more[state]? = moves[state]?

/-- The states that were added have their moves in the whole automaton. -/
def Agrees (moves more all : Array Move) : Prop :=
  ∀ state, moves.size ≤ state → state < more.size → all[state]? = more[state]?

theorem Extends.refl (moves : Array Move) : Extends moves moves := ⟨Nat.le_refl _, fun _ _ => rfl⟩

theorem Extends.trans {first second third : Array Move} (h : Extends first second)
    (h' : Extends second third) : Extends first third :=
  ⟨Nat.le_trans h.size_le h'.size_le, fun state hlt =>
    (h'.kept state (Nat.lt_of_lt_of_le hlt h.size_le)).trans (h.kept state hlt)⟩

theorem extends_push (moves : Array Move) (move : Move) : Extends moves (moves.push move) := by
  refine ⟨by simp, fun state hlt => ?_⟩
  rw [Array.getElem?_push, if_neg (Nat.ne_of_lt hlt)]

theorem Agrees.earlier {first second third : Array Move} (h : Agrees first third all)
    (h' : Extends second third) : Agrees first second all := fun state hle hlt =>
  (h state hle (Nat.lt_of_lt_of_le hlt h'.size_le)).trans (h'.kept state hlt)

theorem Agrees.later {first second third : Array Move} (h : Agrees first third all)
    (h' : Extends first second) : Agrees second third all := fun state hle hlt =>
  h state (Nat.le_trans h'.size_le hle) hlt

theorem Agrees.pushed {move : Move} (h : Agrees moves (more.push move) all)
    (hle : moves.size ≤ more.size) : all[more.size]? = some move := by
  rw [h more.size hle (by simp), Array.getElem?_push_size]

/-- States are added that link the state returned to `next`, whatever is added after them. -/
structure Adds (spans : Cursor → Cursor → Prop) (next : Nat) (moves : Array Move)
    (built : Nat × Array Move) : Prop where
  grows : Extends moves built.2
  links : ∀ all, Agrees moves built.2 all → Links all spans built.1 next

namespace Adds

variable {built later : Nat × Array Move}

theorem refl (next : Nat) (moves : Array Move) : Adds Eq next moves (next, moves) :=
  ⟨.refl moves, fun all _ => .refl all next⟩

theorem congr (h : Adds spans next moves built) (heq : ∀ a b, spans a b ↔ others a b) :
    Adds others next moves built :=
  ⟨h.grows, fun all hall => (h.links all hall).congr heq⟩

theorem push {move : Move}
    (h : ∀ all : Array Move, all[moves.size]? = some move → Links all spans moves.size next) :
    Adds spans next moves (moves.size, moves.push move) :=
  ⟨extends_push moves move, fun all hall => h all (hall.pushed (Nat.le_refl _))⟩

theorem trans (h : Adds others next moves built) (h' : Adds spans built.1 built.2 later) :
    Adds (Then spans others) next moves later :=
  ⟨h.grows.trans h'.grows, fun all hall =>
    (h'.links all (hall.later h.grows)).trans (h.links all (hall.earlier h'.grows))⟩

/-- A state is added that goes on in two states. -/
theorem split (hgrows : Extends moves more)
    (hfirst : ∀ all, Agrees moves more all → Links all spans first next)
    (hsecond : ∀ all, Agrees moves more all → Links all others second next) :
    Adds (fun a b => spans a b ∨ others a b) next moves
      (more.size, more.push (.split first second)) := by
  refine ⟨hgrows.trans (extends_push _ _), fun all hall => ?_⟩
  have hadded := hall.earlier (extends_push more _)
  exact .split (hall.pushed hgrows.size_le) (hfirst all hadded) (hsecond all hadded)

/-- A state is reserved and becomes the one at which a loop begins. -/
theorem loop (h : Adds spans moves.size (moves.push .accept) built) (next : Nat) :
    let closed := built.2.setIfInBounds moves.size (.split built.1 next)
    Extends moves closed ∧ ∀ all, Agrees moves closed all →
      Links all spans built.1 moves.size ∧
        Links all (fun a b => ∃ times, Rounds spans times a b) moves.size next := by
  intro closed
  have hsize : moves.size < built.2.size := by
    have hle := h.grows.size_le
    rwa [Array.size_push] at hle
  have hclosed : ∀ state, closed[state]?
      = if moves.size = state then some (.split built.1 next) else built.2[state]? := by
    intro state
    rw [Array.getElem?_setIfInBounds]
    rw [if_pos hsize]
  have hpushed : ∀ state < moves.size, built.2[state]? = moves[state]? := fun state hlt =>
    ((extends_push moves .accept).trans h.grows).kept state hlt
  refine ⟨⟨by simpa [closed] using Nat.le_of_lt hsize, fun state hlt => ?_⟩, fun all hall => ?_⟩
  · rw [hclosed, if_neg (Nat.ne_of_gt hlt), hpushed state hlt]
  · have hloop : all[moves.size]? = some (.split built.1 next) := by
      rw [hall moves.size (Nat.le_refl _) (by simpa [closed] using hsize), hclosed, if_pos rfl]
    have hinner : Links all spans built.1 moves.size := by
      refine h.links all fun state hle hlt => ?_
      rw [Array.size_push] at hle
      rw [hall state (by omega) (by simpa [closed] using hlt), hclosed, if_neg (by omega)]
    exact ⟨hinner, .loop hloop hinner⟩

/-- States are added so many times, each time before those added last. -/
theorem again {build : Nat × Array Move → Nat × Array Move}
    (hbuild : ∀ last, Adds spans last.1 last.2 (build last)) (times : Nat)
    (h : Adds others next moves built) :
    Adds (Then (Rounds spans times) others) next moves (Nat.repeat build times built) := by
  induction times with
  | zero =>
      refine h.congr fun a b => ⟨fun hspans => ⟨a, rfl, hspans⟩, ?_⟩
      rintro ⟨_, rfl, hspans⟩
      exact hspans
  | succ times ih =>
      refine (ih.trans (hbuild _)).congr fun a b => ⟨?_, ?_⟩
      · rintro ⟨c, hspans, d, hrounds, hothers⟩
        exact ⟨d, ⟨c, hspans, hrounds⟩, hothers⟩
      · rintro ⟨d, ⟨c, hspans, hrounds⟩, hothers⟩
        exact ⟨c, hspans, d, hrounds, hothers⟩

/-- A chain in which every state may go on to the end. -/
theorem upTo {build : Nat × Array Move → Nat × Array Move}
    (hbuild : ∀ last, Adds spans last.1 last.2 (build last)) (bound : Nat) :
    Adds (fun a b => ∃ times ≤ bound, Rounds spans times a b) next moves
      (Nat.repeat
        (fun last => ((build last).2.size, (build last).2.push (.split (build last).1 next)))
        bound (next, moves)) := by
  induction bound with
  | zero =>
      refine (Adds.refl next moves).congr fun a b => ⟨fun h => ⟨0, Nat.le_refl _, h⟩, ?_⟩
      rintro ⟨times, hle, hrounds⟩
      obtain rfl := Nat.le_zero.1 hle
      exact hrounds
  | succ bound ih =>
      have hnext := ih.trans (hbuild _)
      refine (split hnext.grows hnext.links fun all _ => .refl all next).congr fun a b => ⟨?_, ?_⟩
      · rintro (⟨c, hspans, times, hle, hrounds⟩ | rfl)
        · exact ⟨times + 1, Nat.succ_le_succ hle, c, hspans, hrounds⟩
        · exact ⟨0, Nat.zero_le _, rfl⟩
      · rintro ⟨_ | times, hle, hrounds⟩
        · exact .inr hrounds
        · obtain ⟨c, hspans, hrounds⟩ := hrounds
          exact .inl ⟨c, hspans, times, Nat.le_of_succ_le_succ hle, hrounds⟩

end Adds

end Automaton

namespace Pattern

open Automaton

theorem rounds_add (spans : Cursor → Cursor → Prop) (first second : Nat) (a b : Cursor) :
    Rounds spans (first + second) a b ↔ Then (Rounds spans first) (Rounds spans second) a b := by
  induction first generalizing a with
  | zero =>
      rw [Nat.zero_add]
      refine ⟨fun h => ⟨a, rfl, h⟩, ?_⟩
      rintro ⟨_, rfl, h⟩
      exact h
  | succ first ih =>
      rw [Nat.add_right_comm]
      constructor
      · rintro ⟨c, hspans, hrounds⟩
        obtain ⟨d, hfirst, hsecond⟩ := (ih c).1 hrounds
        exact ⟨d, ⟨c, hspans, hfirst⟩, hsecond⟩
      · rintro ⟨d, ⟨c, hspans, hfirst⟩, hsecond⟩
        exact ⟨c, hspans, (ih c).2 ⟨d, hfirst, hsecond⟩⟩

/-- Rounds up to a bound are those that are due, and then as many as there is room for. -/
theorem exists_rounds_upTo_iff (spans : Cursor → Cursor → Prop) (least most : Nat) (a b : Cursor) :
    (∃ times, least ≤ times ∧ (∀ bound, some most = some bound → times ≤ max least bound) ∧
        Rounds spans times a b) ↔
      Then (Rounds spans least) (fun c d => ∃ others ≤ most - least, Rounds spans others c d)
        a b := by
  constructor
  · rintro ⟨times, hleast, hmost, hrounds⟩
    have hmost := hmost most rfl
    obtain ⟨others, rfl⟩ := Nat.exists_eq_add_of_le hleast
    obtain ⟨c, hfirst, hothers⟩ := (rounds_add ..).1 hrounds
    exact ⟨c, hfirst, others, by omega, hothers⟩
  · rintro ⟨c, hfirst, others, hle, hothers⟩
    refine ⟨least + others, by omega, ?_, (rounds_add ..).2 ⟨c, hfirst, hothers⟩⟩
    rintro bound ⟨⟩
    omega

/-- Rounds without a bound, of which one at least is due, are the others that are due, the last of
them, and any number more. -/
theorem exists_rounds_from_iff (spans : Cursor → Cursor → Prop) (least : Nat) (a b : Cursor) :
    (∃ times ≥ least + 1, Rounds spans times a b) ↔
      Then (Rounds spans least) (Then spans fun c d => ∃ times, Rounds spans times c d) a b := by
  constructor
  · rintro ⟨times, hle, hrounds⟩
    obtain ⟨others, rfl⟩ := Nat.exists_eq_add_of_le hle
    rw [Nat.add_assoc, Nat.add_comm 1 others] at hrounds
    obtain ⟨c, hleast, d, hspans, hrounds⟩ := (rounds_add ..).1 hrounds
    exact ⟨c, hleast, d, hspans, others, hrounds⟩
  · rintro ⟨c, hleast, d, hspans, times, hrounds⟩
    exact ⟨least + (times + 1), by omega, (rounds_add ..).2 ⟨c, hleast, d, hspans, hrounds⟩⟩

/-- Characters of a set are taken up to the end exactly if there are so many and all are in the
set. -/
theorem rounds_set_to_end_iff {chars : CharSet} {times : Nat} (cursor : Cursor) :
    (∃ stop, Rounds (set chars).Spans times cursor stop ∧ stop.rest = []) ↔
      cursor.rest.length = times ∧ ∀ c ∈ cursor.rest, chars.has c = true := by
  induction times generalizing cursor with
  | zero =>
      constructor
      · rintro ⟨_, rfl, hend⟩
        rw [hend]
        exact ⟨rfl, List.forall_mem_nil _⟩
      · rintro ⟨hlength, -⟩
        exact ⟨cursor, rfl, List.length_eq_zero_iff.1 hlength⟩
  | succ times ih =>
      obtain ⟨previous, text⟩ := cursor
      constructor
      · rintro ⟨stop, ⟨_, ⟨c, rest, rfl, hc, rfl⟩, hrounds⟩, hend⟩
        obtain ⟨hlength, hall⟩ := (ih _).1 ⟨stop, hrounds, hend⟩
        exact ⟨congrArg Nat.succ hlength, List.forall_mem_cons.2 ⟨hc, hall⟩⟩
      · rintro ⟨hlength, hall⟩
        cases text with
        | nil => cases hlength
        | cons c rest =>
            rw [List.forall_mem_cons] at hall
            obtain ⟨stop, hrounds, hend⟩ :=
              (ih ⟨some c, rest⟩).2 ⟨Nat.succ.inj hlength, hall.2⟩
            exact ⟨stop, ⟨_, ⟨c, rest, rfl, hall.1, rfl⟩, hrounds⟩, hend⟩

/-- The states added for a repetition, if those added for what is repeated link the first of them to
the state in which it goes on. -/
theorem adds_repetition {inner : Pattern}
    (hbuild : ∀ last : Nat × Array Move, Adds inner.Spans last.1 last.2
      (inner.addStates last.1 last.2))
    (least : Nat) (most : Option Nat) (prefersFewer : Bool) (next : Nat) (moves : Array Move) :
    Adds (repetition inner least most prefersFewer).Spans next moves
      ((repetition inner least most prefersFewer).addStates next moves) := by
  cases most with
  | some most =>
      exact ((Adds.upTo hbuild (most - least)).again hbuild least).congr fun a b =>
        (exists_rounds_upTo_iff inner.Spans least most a b).symm
  | none =>
      obtain ⟨hgrows, hlinks⟩ := (hbuild (moves.size, moves.push .accept)).loop next
      cases least with
      | zero =>
          have hloop : Adds _ next moves (moves.size, _) :=
            ⟨hgrows, fun all hall => (hlinks all hall).2⟩
          refine hloop.congr fun a b => exists_congr fun times => ?_
          simp
      | succ least =>
          -- The last of the rounds that are due leads into the loop.
          have hloop : Adds _ next moves
              ((inner.addStates moves.size (moves.push .accept)).1, _) :=
            ⟨hgrows, fun all hall => (hlinks all hall).1.trans (hlinks all hall).2⟩
          refine (hloop.again hbuild least).congr fun a b => ?_
          rw [← exists_rounds_from_iff]
          refine exists_congr fun times => ?_
          simp

/-- The states added for a pattern link the first of them to the state in which it goes on. -/
theorem adds_addStates (pattern : Pattern) (next : Nat) (moves : Array Move) :
    Adds pattern.Spans next moves (pattern.addStates next moves) := by
  induction pattern generalizing next moves with
  | empty => exact .refl next moves
  | set chars => exact .push fun all h => .take h
  | assertion claim => exact .push fun all h => .check h
  | group inner ih => exact ih next moves
  | seq first second ihFirst ihSecond => exact (ihSecond next moves).trans (ihFirst _ _)
  | alt first second ihFirst ihSecond =>
      have hfirst := ihFirst next moves
      have hsecond := ihSecond next (first.addStates next moves).2
      exact .split (hfirst.grows.trans hsecond.grows)
        (fun all hall => hfirst.links all (hall.earlier hsecond.grows))
        (fun all hall => hsecond.links all (hall.later hfirst.grows))
  | repetition inner least most prefersFewer ih =>
      exact adds_repetition (fun last => ih last.1 last.2) least most prefersFewer next moves

/-- From its first state, the automaton of a pattern accepts exactly what the pattern spans. -/
theorem accepts_automaton_iff (pattern : Pattern) (cursor : Cursor) :
    (∃ steps, Accepts pattern.automaton.moves steps pattern.automaton.start cursor) ↔
      ∃ stop, pattern.Spans cursor stop := by
  have hadds : Adds pattern.Spans 0 #[.accept] (pattern.addStates 0 #[.accept]) :=
    adds_addStates pattern 0 #[.accept]
  have hlinks : Links pattern.automaton.moves pattern.Spans pattern.automaton.start 0 :=
    hadds.links _ fun _ _ _ => rfl
  have hend : pattern.automaton.moves[0]? = some .accept := hadds.grows.kept 0 Nat.one_pos
  constructor
  · rintro ⟨steps, haccepts⟩
    obtain ⟨stop, -, -, hspans, -⟩ := hlinks.sound haccepts
    exact ⟨stop, hspans⟩
  · rintro ⟨stop, hspans⟩
    exact hlinks.complete hspans (.accept hend)

end Pattern

end TypedCollections
