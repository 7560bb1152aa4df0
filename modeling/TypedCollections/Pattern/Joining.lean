import TypedCollections.Pattern.Basic
/-!
# Joining patterns

Sequences, alternatives and repetitions of patterns in their simplest form. A sequence of sequences
is one sequence, and alternatives among alternatives are alternatives. Alternatives that take one
character each are one set, and what all alternatives begin with is taken out of them. The simplest
form matches the same texts; how much room an automaton takes is measured on it.
-/

namespace TypedCollections

namespace Pattern

/-- Whether a pattern takes no character. -/
def takesNothing : Pattern → Bool
  | empty => true
  | set _ => false
  | assertion _ => true
  | group inner => takesNothing inner
  | seq a b => takesNothing a && takesNothing b
  | alt a b => takesNothing a && takesNothing b
  | repetition inner _ most _ => most == some 0 || takesNothing inner

/-- The repetition of a pattern. What takes no character is repeated at most once, since once more
changes nothing. -/
def repeated (inner : Pattern) (least : Nat) (most : Option Nat) (prefersFewer : Bool) : Pattern :=
  let bounds : Nat × Option Nat :=
    if inner.takesNothing then (min least 1, some (min (most.getD 1) 1)) else (least, most)
  match bounds with
  | (0, some 0) => empty
  | (1, some 1) => inner
  | (least, most) => repetition inner least most prefersFewer

def parts : Pattern → List Pattern
  | empty => []
  | seq a b => parts a ++ parts b
  | pattern => [pattern]

def branches : Pattern → List Pattern
  | alt a b => branches a ++ branches b
  | pattern => [pattern]

def ofParts : List Pattern → Pattern
  | [] => empty
  | [part] => part
  | part :: rest => seq part (ofParts rest)

/-- The alternatives of branches; without any, nothing matches. -/
def ofBranches : List Pattern → Pattern
  | [] => set .none
  | [branch] => branch
  | branch :: rest => alt branch (ofBranches rest)

def sequence (patterns : List Pattern) : Pattern := ofParts (patterns.flatMap parts)

/-- The character that a pattern takes, if it takes always the same and nothing else. -/
def character? : Pattern → Option Nat
  | set chars => chars.only?
  | _ => none

/-- The set of a pattern that takes one character of it, unless it is always the same. -/
def choice? : Pattern → Option CharSet
  | set chars => if chars.only?.isSome then none else some chars
  | _ => none

/-- The text that a pattern takes, if it takes always the same and not the empty one. -/
def text? (pattern : Pattern) : Option (List Nat) :=
  match pattern.parts.mapM character? with
  | some [] => none
  | text => text

/-- The set of branches that take one character each: either all of them always the same, or none of
them. -/
def setOfBranches? (patterns : List Pattern) : Option CharSet :=
  match patterns.mapM character? with
  | some codes => some (.unionAll (codes.map fun code => .range code code))
  | none => (patterns.mapM choice?).map .unionAll

/-- The parts of a sequence, where characters that follow each other make one piece. -/
def pieces (pattern : Pattern) : List (List Pattern) :=
  pattern.parts.splitBy fun a b => a.character?.isSome && b.character?.isSome

def hasGroup : Pattern → Bool
  | group _ => true
  | seq a b => hasGroup a || hasGroup b
  | alt a b => hasGroup a || hasGroup b
  | repetition inner _ _ _ => hasGroup inner
  | _ => false

/-- The pieces that two lists begin with in common. No two groups are the same. -/
def commonPieces : List (List Pattern) → List (List Pattern) → List (List Pattern)
  | a :: as, b :: bs => if a = b ∧ !a.any hasGroup then a :: commonPieces as bs else []
  | _, _ => []

/-- The pieces that all branches begin with. Only sequences of several pieces are looked into. -/
def commonBeginning (patterns : List Pattern) : List (List Pattern) :=
  match patterns.map pieces with
  | first :: rest =>
      if (first :: rest).all fun pieces => 2 ≤ pieces.length then rest.foldl commonPieces first
      else []
  | [] => []

/-- Branches as one set, if they take one character each, or else as alternatives. -/
def joinedBranches (patterns : List Pattern) : Pattern :=
  match setOfBranches? patterns with
  | some chars => set chars
  | none => ofBranches patterns

def alternatives (patterns : List Pattern) : Pattern :=
  match patterns.flatMap branches with
  | [branch] => branch
  | branches =>
      let common := commonBeginning branches
      let rests := branches.map fun branch => ofParts (branch.pieces.drop common.length).flatten
      if common.isEmpty then joinedBranches branches
      else sequence (common.flatten ++ [joinedBranches (rests.flatMap Pattern.branches)])

end Pattern

end TypedCollections
