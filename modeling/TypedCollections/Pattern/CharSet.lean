import TypedCollections.Text.CaseFold
import TypedCollections.Text.Word
/-!
# Sets of characters

A set of characters is given by its cuts, the code points at which one passes into the set or out of
it. The operations on sets go through the cuts of both in ascending order.
-/

namespace TypedCollections

/-- A set of characters, by its cuts, ascending. -/
structure CharSet where
  cuts : List Nat
deriving DecidableEq, Inhabited

namespace CharSet

/-- Whether a code point lies inside: whether the number of cuts up to it is odd. -/
def isInside : List Nat → Nat → Bool
  | [], _ => false
  | cut :: rest, code => if code < cut then false else !isInside rest code

def hasCode (set : CharSet) (code : Nat) : Bool := isInside set.cuts code

def has (set : CharSet) (c : Char) : Bool := set.hasCode c.toNat

/-- The set of ascending ranges. -/
def ofRanges (ranges : List (Nat × Nat)) : CharSet :=
  ⟨ranges.flatMap fun (first, last) => [first, last + 1]⟩

/-- The ranges between cuts, ascending. Without a last cut a range ends at the last code point. -/
def rangesOf : List Nat → List (Nat × Nat)
  | [] => []
  | [first] => if first ≤ 0x10ffff then [(first, 0x10ffff)] else []
  | first :: next :: rest => (first, next - 1) :: rangesOf rest

def ranges (set : CharSet) : List (Nat × Nat) := rangesOf set.cuts

/-- The ranges of the characters of a set, ascending. Surrogates are no characters. -/
def charRanges (set : CharSet) : List (Nat × Nat) :=
  set.ranges.flatMap fun (first, last) =>
    [(first, min last 0xd7ff), (max first 0xe000, last)].filter fun range => range.1 ≤ range.2

/-- The code of the only character of a set. -/
def only? (set : CharSet) : Option Nat :=
  match set.charRanges with
  | [(first, last)] => if first = last then some first else .none
  | _ => .none

def none : CharSet := ⟨[]⟩

def digit : CharSet := ofRanges Text.digitRanges

/-- The parts of words. -/
def word : CharSet := ofRanges Text.wordRanges

def space : CharSet := ofRanges Text.whiteSpaceRanges

/-- The first cut of either set. -/
def firstCut? (a b : List Nat) : Option Nat :=
  match a, b with
  | [], b => b.head?
  | x :: _, [] => some x
  | x :: _, y :: _ => some (min x y)

/-- Passes a cut: whether the place behind it is inside, and the cuts behind it. -/
def pass (cut : Nat) (inside : Bool) (cuts : List Nat) : Bool × List Nat :=
  if cuts.head? = some cut then (!inside, cuts.tail) else (inside, cuts)

/-- The cuts of a combination of two sets. Every round passes a cut. -/
def combineCuts (combine : Bool → Bool → Bool) :
    (rounds : Nat) → (insideA insideB : Bool) → List Nat → List Nat → List Nat
  | 0, _, _, _, _ => []
  | rounds + 1, insideA, insideB, a, b =>
      match firstCut? a b with
      | .none => []
      | some cut =>
          let (nextA, a) := pass cut insideA a
          let (nextB, b) := pass cut insideB b
          let rest := combineCuts combine rounds nextA nextB a b
          if combine nextA nextB = combine insideA insideB then rest else cut :: rest

/-- The characters for which a combination of the memberships in two sets holds. It must not hold of
what is in neither. -/
def combine (combine : Bool → Bool → Bool) (a b : CharSet) : CharSet :=
  ⟨combineCuts combine (a.cuts.length + b.cuts.length) false false a.cuts b.cuts⟩

def union : CharSet → CharSet → CharSet := combine fun a b => a || b

/-- The unions of every two neighbours. -/
def unionPairs : List CharSet → List CharSet
  | a :: b :: rest => a.union b :: unionPairs rest
  | sets => sets

/-- The union of sets, in so many rounds in which neighbours are joined. -/
def unionRounds : (rounds : Nat) → List CharSet → CharSet
  | _, [] => none
  | _, [set] => set
  | 0, sets => sets.foldl union none
  | rounds + 1, sets => unionRounds rounds (unionPairs sets)

/-- The characters in any of some sets. Every round halves their number. -/
def unionAll (sets : List CharSet) : CharSet := unionRounds (Nat.log2 sets.length + 1) sets

/-- The characters in both of two sets. -/
def inter : CharSet → CharSet → CharSet := combine fun a b => a && b

/-- The characters in the first but not in the second of two sets. -/
def diff : CharSet → CharSet → CharSet := combine fun a b => a && !b

/-- The characters in exactly one of two sets. -/
def symmDiff : CharSet → CharSet → CharSet := combine fun a b => a != b

def negate (set : CharSet) : CharSet :=
  match set.cuts with
  | 0 :: cuts => ⟨cuts⟩
  | cuts => ⟨0 :: cuts⟩

/-- A set with some more code points. -/
def addCodes (set : CharSet) (codes : List Nat) : CharSet :=
  codes.foldl (fun set code => if set.hasCode code then set else set.union ⟨[code, code + 1]⟩) set

/-- A set with all characters that agree with one of its own up to case, given the pairs of what
folds to what. -/
def foldedBy (pairs : List (Nat × Nat)) (set : CharSet) : CharSet :=
  let folded := none.addCodes <|
    pairs.filterMap fun (code, target) =>
      if set.hasCode code || set.hasCode target then some target else .none
  (set.union folded).addCodes <|
    pairs.filterMap fun (code, target) =>
      if folded.hasCode target then some code else .none

/-- The characters from one code point to another. -/
def range (first last : Nat) : CharSet := ⟨[first, last + 1]⟩

end CharSet

end TypedCollections
