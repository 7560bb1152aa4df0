import Std.Data.HashMap
import TypedCollections.Pattern.Octets
import TypedCollections.Pattern.Room
/-!
# The room of sets

A set of characters is laid out by the sequences of octets that write its characters. Sequences
share states, as far as these are remembered: the ones that they end with when they are read
forward, and the ones of their first octets when they are read backward.
-/

namespace TypedCollections

/-- The states of a set that are remembered, by what they do. There is a fixed number of places, and
a state takes the place of an earlier one that is sent to the same place. -/
structure Remembered (α : Type) where
  places : UInt64
  states : Std.HashMap UInt64 (α × Nat)

/-- An automaton into which a set is laid out. -/
structure SetRoom (α : Type) where
  room : Room
  remembered : Remembered α

/-- The place to which numbers are sent before it is reduced to the places there are. -/
def placeOf (numbers : List Nat) : UInt64 :=
  numbers.foldl (fun place number => (place ^^^ number.toUInt64) * 1099511628211)
    14695981039346656037

/-- Adds a state with a list of so many octets, and remembers it in a place. -/
def SetRoom.addState {α : Type} (layout : SetRoom α) (does : α) (place : UInt64) (lists : Nat) :
    Nat × SetRoom α :=
  match layout with
  | ⟨room, ⟨places, states⟩⟩ =>
      (room.states, ⟨room.grow 1 lists, ⟨places, states.insert place (does, room.states)⟩⟩)

/-- The state that does something, which is described by numbers: a remembered one, or a new one
with a list of so many octets. -/
def SetRoom.stateFor {α : Type} [DecidableEq α] (layout : SetRoom α) (does : α)
    (numbers : List Nat) (lists : Nat) : Nat × SetRoom α :=
  let place := placeOf numbers % layout.remembered.places
  match layout.remembered.states[place]? with
  | some (known, state) =>
      if known = does then (state, layout) else layout.addState does place lists
  | none => layout.addState does place lists

/-- Sequences by their first ranges, which stand together. -/
def byFirstRange : List (List OctetRange) → List (OctetRange × List (List OctetRange))
  | [] => []
  | [] :: rest => byFirstRange rest
  | (range :: sequence) :: rest =>
      match byFirstRange rest with
      | (next, sequences) :: more =>
          if range = next then (range, sequence :: sequences) :: more
          else (range, [sequence]) :: (next, sequences) :: more
      | [] => [(range, [sequence])]

/-- The state in which sequences of at most a given length begin that all lead to a state. A state
is known by its ranges and where they lead. -/
def SetRoom.begin (target : Nat) : (length : Nat) → List (List OctetRange) →
    SetRoom (List (OctetRange × Nat)) → Nat × SetRoom (List (OctetRange × Nat))
  | 0, _, layout => (target, layout)
  | length + 1, sequences, layout =>
      let groups := byFirstRange sequences
      if groups.isEmpty then (target, layout)
      else
        let (ways, layout) := groups.foldl
          (fun (ways, layout) (range, rests) =>
            let (next, layout) := SetRoom.begin target length rests layout
            ((range, next) :: ways, layout))
          ([], layout)
        let ways := ways.reverse
        layout.stateFor ways (ways.flatMap fun (range, next) => [range.1, range.2, next])
          (8 * ways.length)

/-- Adds the states of sequences one after the other, from the state in which all of them end to the
one in which each begins. A state is known by where it leads and by its range. -/
def SetRoom.chain (target : Nat) (layout : SetRoom (Nat × OctetRange))
    (sequence : List OctetRange) : SetRoom (Nat × OctetRange) :=
  (sequence.foldl
    (fun (state, layout) range =>
      layout.stateFor (state, range) [state, range.1, range.2] 0)
    (target, layout)).2

/-- Lays out a set: the only character octet by octet, ranges of one octet in one choice, and others
by their sequences. -/
def CharSet.layOut (direction : Direction) (set : CharSet) : Layout :=
  match set.only? with
  | some code =>
      let size := (Char.ofNat code).utf8Size
      fun room => room.add size
  | .none =>
      if set.charRanges.all fun range => range.2 < 0x80 then
        let ranges := set.charRanges.length
        fun room => (room.add 1).choose ranges
      else
        let sequences := set.octetSequences
        match direction with
        | .forward => fun room =>
            (SetRoom.begin room.states 4 sequences ⟨room.add 1, 10000, ∅⟩).2.room
        | .backward => fun room =>
            let layout : SetRoom (Nat × OctetRange) :=
              ⟨(room.branch sequences.length).add 1, 1000, ∅⟩
            (sequences.foldl (SetRoom.chain (room.states + 1)) layout).room

end TypedCollections
