/-!
# The room of automata

How much room an automaton takes. A text is searched octet by octet, forward for the end of a match
and backward for its beginning, by an automaton for each direction. A state takes 32 octets, each
range of octets that it tells apart from others another 8, and each way on from where it branches
another 4.
-/

namespace TypedCollections

/-- How a text is read. -/
inductive Direction where
  | forward
  | backward
deriving DecidableEq

/-- The room of an automaton: how many states there are, and how many octets their lists of ranges
and of ways on take. -/
structure Room where
  states : Nat
  lists : Nat
deriving DecidableEq

/-- What adds the states of a pattern to an automaton. -/
abbrev Layout := Room → Room

namespace Room

def octets (room : Room) : Nat := 32 * room.states + room.lists

/-- How many octets an automaton may take. -/
def limit : Nat := 10 <<< 20

def isFull (room : Room) : Bool := limit < room.octets

/-- Adds states with lists of so many octets. -/
def grow (room : Room) (states lists : Nat) : Room := ⟨room.states + states, room.lists + lists⟩

/-- Adds states without lists. -/
def add (room : Room) (states : Nat) : Room := room.grow states 0

/-- Adds a state that goes on in several ways. -/
def branch (room : Room) (ways : Nat) : Room := room.grow 1 (4 * ways)

/-- Adds a state that tells ranges of octets apart. -/
def choose (room : Room) (ranges : Nat) : Room := room.grow 1 (8 * ranges)

/-- Adds the same states a number of times. Beyond the limit the number makes no difference. -/
def times (layOut : Layout) : Nat → Layout
  | 0, room => room
  | n + 1, room => if room.isFull then room else times layOut n (layOut room)

end Room

end TypedCollections
