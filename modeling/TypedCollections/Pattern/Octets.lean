import TypedCollections.Pattern.CharSet
/-!
# Sets of characters in octets

A set of characters takes the sequences of octets that write its characters. They are given by
sequences of ranges: one range for each octet.
-/

namespace TypedCollections

/-- The octets from a first to a last one. -/
abbrev OctetRange := Nat × Nat

namespace CharSet

/-- The characters that take the same number of octets: how many follow the first, the first and the
last of them, and what the first octet adds to the bits that it holds. -/
structure Width where
  following : Nat
  first : Nat
  last : Nat
  lead : Nat

/-- The widths of characters. Those of three octets come in two parts. -/
def widths : List Width :=
  [⟨0, 0, 0x7f, 0⟩, ⟨1, 0x80, 0x7ff, 0xc0⟩, ⟨2, 0x800, 0xd7ff, 0xe0⟩, ⟨2, 0xe000, 0xffff, 0xe0⟩,
    ⟨3, 0x10000, 0x10ffff, 0xf0⟩]

/-- The sequences of ranges of six bits that make up the numbers from one to another, ascending. The
first range has what is left when `following` ranges follow it. -/
def sequences : (following first last : Nat) → List (List (Nat × Nat))
  | 0, first, last => [[(first, last)]]
  | following + 1, first, last =>
      let unit := 1 <<< (6 * (following + 1))
      let (low, high) := (first / unit, last / unit)
      let within (digit first last : Nat) :=
        (sequences following first last).map ((digit, digit) :: ·)
      if low = high then within low (first % unit) (last % unit)
      else
        let isLowCut := first % unit ≠ 0
        let isHighCut := last % unit ≠ unit - 1
        let bottom := if isLowCut then low + 1 else low
        let top := if isHighCut then high else high + 1
        let lowest := if isLowCut then within low (first % unit) (unit - 1) else []
        let middle :=
          if bottom < top then
            (sequences following 0 (unit - 1)).map ((bottom, top - 1) :: ·)
          else []
        let highest := if isHighCut then within high 0 (last % unit) else []
        lowest ++ middle ++ highest

/-- What an octet after the first adds to the six bits that it holds. -/
def continuation : Nat := 0x80

/-- Ranges of octets, from ranges of the bits that they hold and what is added to the first. -/
def octetsOfBits (lead : Nat) : List (Nat × Nat) → List OctetRange
  | [] => []
  | (low, high) :: rest =>
      (low + lead, high + lead) ::
        rest.map fun (low, high) => (low + continuation, high + continuation)

/-- The sequences of octet ranges that make up a range of characters, ascending. -/
def rangeSequences (range : Nat × Nat) : List (List OctetRange) :=
  widths.flatMap fun width =>
    let (first, last) := (max range.1 width.first, min range.2 width.last)
    if first ≤ last then
      (sequences width.following first last).map (octetsOfBits width.lead)
    else []

/-- The sequences of octet ranges that make up a set, ascending. -/
def octetSequences (set : CharSet) : List (List OctetRange) := set.charRanges.flatMap rangeSequences

end CharSet

end TypedCollections
