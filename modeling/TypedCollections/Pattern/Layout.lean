import TypedCollections.Pattern.Joining
import TypedCollections.Pattern.Room.Sets
import TypedCollections.Pattern.Room.Texts
import TypedCollections.Utf8
/-!
# The layout of patterns

How the automata that search for a pattern are laid out, state after state, and how much room they
take. Counted repetitions repeat the states of what they repeat, so that a short pattern may need
large automata; a pattern fits if neither of them exceeds `Room.limit`.
-/

namespace TypedCollections

namespace Pattern

/-- The octets of the text that a pattern takes in a direction, if it takes always the same. -/
def octets? (direction : Direction) (pattern : Pattern) : Option OctetText :=
  pattern.text?.map fun text =>
    let octets := Utf8.encode (String.ofList (text.map Char.ofNat))
    match direction with
    | .forward => octets
    | .backward => octets.reverse

/-- The texts of a pattern whose alternatives are texts. -/
def texts? (direction : Direction) (pattern : Pattern) : Option (List OctetText) :=
  match pattern.branches with
  | [_] => none
  | branches => branches.mapM (octets? direction)

/-- The length of the shortest text that a pattern takes, if it takes one. -/
def shortest? : Pattern → Option Nat
  | empty => some 0
  | set chars => if chars.charRanges.isEmpty then none else some 1
  | assertion _ => some 0
  | group inner => shortest? inner
  | seq a b => do return (← shortest? a) + (← shortest? b)
  | alt a b => do return min (← shortest? a) (← shortest? b)
  | repetition inner least _ _ => do return (← shortest? inner) * least

/-- Whether a match can only begin, or end if it is read backward, where the text does. -/
def isAnchored (direction : Direction) : Pattern → Bool
  | empty => false
  | set _ => false
  | assertion claim =>
      match direction with
      | .forward => claim = .textStart
      | .backward => claim = .textEnd
  | group inner => isAnchored direction inner
  | seq a b =>
      match direction with
      | .forward => isAnchored direction a || (a.takesNothing && isAnchored direction b)
      | .backward => isAnchored direction b || (b.takesNothing && isAnchored direction a)
  | alt a b => isAnchored direction a && isAnchored direction b
  | repetition inner least _ _ => least != 0 && isAnchored direction inner

/-- Lays out alternatives one after the other. Where they branch and where they meet again is laid
out after the second of them. -/
def layOutBranches : List Layout → Layout
  | [] => id
  | [layOut] => layOut
  | first :: second :: rest => fun room =>
      let room := (second (first room)).branch (rest.length + 2)
      rest.foldl (fun room layOut => layOut room) (room.add 1)

/-- Lays out a repetition of something that is laid out in a given way. -/
def layOutRepetition (layOut : Layout) (mayBeEmpty : Bool) (least : Nat) (most : Option Nat) :
    Layout :=
  match least, most with
  | 0, some 1 => fun room => (layOut (room.branch 2)).add 1
  | 0, none =>
      if mayBeEmpty then fun room => (((layOut room).branch 2).branch 2).add 1
      else fun room => layOut (room.branch 2)
  | least, none => fun room => (room.times layOut least).branch 2
  | least, some most => fun room =>
      let room := if least = 0 then room.add 1 else room.times layOut least
      if least = most then room
      else (room.add 1).times (fun room => layOut (room.branch 2)) (most - least)

/-- Lays out a pattern whose alternatives are laid out in given ways. -/
def layOutAs (direction : Direction) (pattern : Pattern) (layouts : List Layout) : Layout :=
  match pattern.texts? direction with
  | some texts =>
      let longest := (texts.map List.length).foldl max 0
      let added := layOutTexts (longest + 1) texts ⟨1, 0⟩
      fun room => room.grow added.states added.lists
  | none => layOutBranches layouts

/-- The ways in which the alternatives of a pattern are laid out. A sequence is laid out in the
direction of reading, and what a group matches is only kept when reading forward. -/
def layouts (direction : Direction) : Pattern → List Layout
  | empty => [fun room => room.add 1]
  | set chars => [chars.layOut direction]
  | assertion _ => [fun room => room.add 1]
  | group inner =>
      let layOut := inner.layOutAs direction (layouts direction inner)
      match direction with
      | .forward => [fun room => (layOut (room.add 1)).add 1]
      | .backward => [layOut]
  | seq a b =>
      let first := a.layOutAs direction (layouts direction a)
      let second := b.layOutAs direction (layouts direction b)
      match direction with
      | .forward => [fun room => second (first room)]
      | .backward => [fun room => first (second room)]
  | alt a b => layouts direction a ++ layouts direction b
  | repetition inner least most _ =>
      let layOut := inner.layOutAs direction (layouts direction inner)
      let mayBeEmpty := inner.shortest?.all (· = 0)
      [layOutRepetition layOut mayBeEmpty least most]

/-- Adds the states of a pattern. -/
def layOut (direction : Direction) (pattern : Pattern) : Layout :=
  pattern.layOutAs direction (layouts direction pattern)

/-- The room of a pattern's automaton. Before the pattern, it goes on with any octet unless the
pattern is anchored; the whole match is kept like that of a group. -/
def room (direction : Direction) (pattern : Pattern) : Room :=
  let none : Room := ⟨0, 0⟩
  let before :=
    if pattern.isAnchored direction then none.add 1 else ((none.branch 2).add 1).choose 1
  match direction with
  | .forward => (pattern.layOut direction (before.add 1)).add 2
  | .backward => (pattern.layOut direction before).add 1

/-- Whether there is room for both automata of a pattern. -/
def fits (pattern : Pattern) : Bool :=
  !(pattern.room .forward).isFull && !(pattern.room .backward).isFull

end Pattern

end TypedCollections
