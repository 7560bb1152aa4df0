import TypedCollections.Pattern.Basic
/-!
# Matching patterns

A pattern becomes an automaton, whose states are the pattern's characters, assertions and branches.
A text is searched in one pass: at every place the automaton is in a set of states, from where a
character leads to the states of the next place. The search begins anew at every place, so that a
match may stand anywhere in the text, and it takes a number of steps that grows with the number of
states times the length of the text, however the pattern nests.
-/

namespace TypedCollections

/-- What an automaton does in a state. -/
inductive Move where
  /-- Takes a character of a set. -/
  | take (chars : CharSet) (next : Nat)
  /-- Goes on where an assertion holds. -/
  | check (claim : Assertion) (next : Nat)
  /-- Goes on in two states. -/
  | split (first second : Nat)
  /-- A match ends. -/
  | accept

/-- An automaton: the moves of its states, and the state in which a match begins. -/
structure Automaton where
  moves : Array Move
  start : Nat

namespace Pattern

/-- Adds the states of a pattern that goes on in the state `next`: the state in which it begins, and
the moves of all states. -/
def addStates : Pattern → (next : Nat) → Array Move → Nat × Array Move
  | empty, next, moves => (next, moves)
  | set chars, next, moves => (moves.size, moves.push (.take chars next))
  | assertion claim, next, moves => (moves.size, moves.push (.check claim next))
  | group inner, next, moves => addStates inner next moves
  | seq a b, next, moves =>
      let (middle, moves) := addStates b next moves
      addStates a middle moves
  | alt a b, next, moves =>
      let (first, moves) := addStates a next moves
      let (second, moves) := addStates b next moves
      (moves.size, moves.push (.split first second))
  | repetition inner least most _, next, moves =>
      let again (times : Nat) (last : Nat × Array Move) : Nat × Array Move :=
        Nat.repeat (fun (after, moves) => addStates inner after moves) times last
      match most with
      | some most =>
          again least <|
            Nat.repeat (fun (after, moves) =>
                let (first, moves) := addStates inner after moves
                (moves.size, moves.push (.split first next)))
              (most - least) (next, moves)
      | none =>
          let loop := moves.size
          let (first, moves) := addStates inner loop (moves.push .accept)
          let moves := moves.setIfInBounds loop (.split first next)
          if least = 0 then (loop, moves) else again (least - 1) (first, moves)

def automaton (pattern : Pattern) : Automaton :=
  let (start, moves) := addStates pattern 0 #[.accept]
  ⟨moves, start⟩

end Pattern

namespace Automaton

/-- The states in which the automaton is at a place: the latest place at which each state was
reached, where places count from one, those states that take a character, and whether a match ends.
-/
structure Reached where
  latest : Array Nat
  takers : List (CharSet × Nat)
  accepts : Bool

/-- Where a search goes on: how many places were before, and the characters around the place. -/
structure Spot where
  number : Nat
  previous : Option Char
  next : Option Char

/-- Adds states, and those that they lead to without taking a character. Every state is visited
once at a place, so that twice the number of states and the number of states to add are enough
rounds. -/
def spread (automaton : Automaton) (spot : Spot) :
    (rounds : Nat) → List Nat → Reached → Reached
  | 0, _, reached => reached
  | _, [], reached => reached
  | rounds + 1, state :: pending, reached =>
      if spot.number < reached.latest[state]?.getD (spot.number + 1) then
        spread automaton spot rounds pending reached
      else
        let reached :=
          { reached with latest := reached.latest.setIfInBounds state (spot.number + 1) }
        match automaton.moves[state]? with
        | some (.take chars target) =>
            spread automaton spot rounds pending
              { reached with takers := (chars, target) :: reached.takers }
        | some (.check claim target) =>
            spread automaton spot rounds
              (if claim.holds spot.previous spot.next then target :: pending else pending) reached
        | some (.split first second) =>
            spread automaton spot rounds (first :: second :: pending) reached
        | some .accept => spread automaton spot rounds pending { reached with accepts := true }
        | none => spread automaton spot rounds pending reached

/-- The states in which the automaton is at a place, given the states to begin with and the latest
places at which states were reached. -/
def reach (automaton : Automaton) (spot : Spot) (states : List Nat) (latest : Array Nat) :
    Reached :=
  spread automaton spot (2 * automaton.moves.size + states.length) states ⟨latest, [], false⟩

/-- Whether a match ends in the rest of a text, given the states reached before it. -/
def finds (automaton : Automaton) (number : Nat) (previous : Option Char) (states : List Nat)
    (latest : Array Nat) : List Char → Bool
  | [] => (automaton.reach ⟨number, previous, none⟩ (automaton.start :: states) latest).accepts
  | c :: rest =>
      let spot : Spot := ⟨number, previous, some c⟩
      match automaton.reach spot (automaton.start :: states) latest with
      | ⟨latest, takers, accepts⟩ =>
          let after := takers.filterMap fun (chars, target) =>
            if chars.has c then some target else none
          accepts || finds automaton (number + 1) (some c) after latest rest

/-- Whether the automaton finds a match in a text. -/
def findsIn (automaton : Automaton) (text : List Char) : Bool :=
  automaton.finds 0 none [] (Array.replicate automaton.moves.size 0) text

end Automaton

/-- Whether a pattern matches somewhere in a text. -/
def Pattern.isMatch (pattern : Pattern) (text : String) : Bool :=
  pattern.automaton.findsIn text.toList

end TypedCollections
