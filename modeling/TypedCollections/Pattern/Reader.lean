import TypedCollections.Pattern.Bracket
import TypedCollections.Pattern.Layout
/-!
# Reading patterns

The written form of patterns. Special characters are escaped with a backslash. Groups may have names
and may set the flags `i` (case does not count), `m` (`^` and `$` hold at line ends), `s` (`.` takes
every character), `U` (repetitions prefer fewer rounds unless they are marked), `u` (characters are
those of Unicode), `R` (carriage returns end lines) and `x` (white space and comments are left out).
A text that is not well formed, or that asks for look-around, back-references, an unknown escape,
class or flag, is not a pattern, nor is one that nests more than `nestLimit` deep or does not fit.
-/

namespace TypedCollections

namespace Pattern

/-- How deeply a pattern may nest. -/
def nestLimit : Nat := 250

/-- A pattern with the depth of its nesting. -/
structure Nested where
  pattern : Pattern
  depth : Nat

/-- Flags up to the colon or bracket that ends them: the flags set and cleared, and what follows. No
flag may stand twice, and a minus sign only once and not at the end. -/
def readFlags? : List Char → (seen : List Char) → (negated : Bool) → Flags →
    Option (Flags × List Char)
  | [], _, _, _ => none
  | c :: rest, seen, negated, flags =>
      if c = ':' ∨ c = ')' then
        if seen.head? = some '-' then none else some (flags, c :: rest)
      else if seen.contains c then none
      else
        match c with
        | '-' => readFlags? rest (c :: seen) true flags
        | 'i' => readFlags? rest (c :: seen) negated { flags with ignoreCase := !negated }
        | 'm' => readFlags? rest (c :: seen) negated { flags with multiLine := !negated }
        | 's' => readFlags? rest (c :: seen) negated { flags with dotAll := !negated }
        | 'U' => readFlags? rest (c :: seen) negated { flags with prefersFewer := !negated }
        | 'u' => readFlags? rest (c :: seen) negated { flags with unicode := !negated }
        | 'R' => readFlags? rest (c :: seen) negated { flags with returnsEndLines := !negated }
        | 'x' => readFlags? rest (c :: seen) negated { flags with skipsBlanks := !negated }
        | _ => none

/-- What stands in a sequence. A change of flags is an item that cannot be repeated. -/
inductive Item where
  | pattern (nested : Nested)
  | flags

def Item.nested : Item → Nested
  | .pattern nested => nested
  | .flags => ⟨.empty, 0⟩

/-- What joins patterns, given the latest first; it nests one deeper than they do. -/
def joinNested (join : List Pattern → Pattern) (latestFirst : List Nested) : Nested :=
  ⟨join (latestFirst.map (·.pattern)).reverse,
    (latestFirst.foldl (fun depth nested => max depth nested.depth) 0) + 1⟩

/-- The pattern of a sequence, given the latest item first. -/
def sequenceOf (items : List Item) : Nested :=
  match items with
  | [] => ⟨.empty, 0⟩
  | [item] => item.nested
  | items => joinNested sequence (items.map Item.nested)

/-- The pattern of alternatives, given the latest first. -/
def alternativesOf (branches : List Nested) : Nested :=
  match branches with
  | [branch] => branch
  | branches => joinNested alternatives branches

/-- A group that is still open: whether it remembers what it matches, the alternatives and the
sequence before it, and the flags to return to. -/
structure OpenGroup where
  remembers : Bool
  branches : List Nested
  items : List Item
  flags : Flags

/-- The reader's state: the open groups, the names of groups so far, and the alternatives, sequence
and flags of the innermost group. -/
structure Reading where
  groups : List OpenGroup := []
  names : List (List Char) := []
  branches : List Nested := []
  items : List Item := []
  flags : Flags := {}

/-- Appends a pattern to the sequence. -/
def Reading.push (reading : Reading) (nested : Nested) : Reading :=
  { reading with items := .pattern nested :: reading.items }

/-- Appends a pattern that nests nothing. -/
def Reading.pushLeaf (reading : Reading) (pattern : Pattern) : Reading := reading.push ⟨pattern, 0⟩

/-- Repeats the last item of the sequence, which must be a pattern, and gives what follows. A mark
may follow that makes the repetition prefer fewer rounds. -/
def Reading.repeatLast? (reading : Reading) (least : Nat) (most : Option Nat) (rest : List Char) :
    Option (Reading × List Char) :=
  let isMarked := rest.head? = some '?'
  match reading.items with
  | .pattern nested :: earlier =>
      let repeated :=
        nested.pattern.repeated least most (isMarked != reading.flags.prefersFewer)
      some ({ reading with items := .pattern ⟨repeated, nested.depth + 1⟩ :: earlier },
        if isMarked then rest.tail else rest)
  | _ => none

/-- Opens a group whose content is read under the given flags. -/
def Reading.openGroup (reading : Reading) (remembers : Bool) (flags : Flags) : Reading :=
  { reading with
    groups := ⟨remembers, reading.branches, reading.items, reading.flags⟩ :: reading.groups
    branches := [], items := [], flags }

/-- Closes the innermost group. -/
def Reading.closeGroup? (reading : Reading) : Option Reading :=
  match reading.groups with
  | [] => none
  | opened :: outer =>
      let inner := alternativesOf (sequenceOf reading.items :: reading.branches)
      let pattern := if opened.remembers then .group inner.pattern else inner.pattern
      some { reading with
             groups := outer, branches := opened.branches, flags := opened.flags,
             items := .pattern ⟨pattern, inner.depth + 1⟩ :: opened.items }

/-- Whether a group may have a name: letters, digits and a few signs, of which only the underscore
may stand first. -/
def isGroupName (name : List Char) : Bool :=
  match name with
  | [] => false
  | first :: rest =>
      (first = '_' || CharSet.isAlphabetic first) && rest.all fun c =>
        ['_', '.', '[', ']'].contains c || CharSet.isAlphabetic c || CharSet.isNumber c

/-- Opens a group with a name that no group had before, and gives what follows the name. -/
def readNamedGroup? (reading : Reading) (text : List Char) : Option (Reading × List Char) :=
  let name := text.takeWhile (· != '>')
  match text.dropWhile (· != '>') with
  | [] => none
  | _ :: rest =>
      if isGroupName name && !reading.names.contains name then
        some ({ reading.openGroup true reading.flags with names := name :: reading.names }, rest)
      else none

/-- Reads what begins with an opening bracket, after it. -/
def readGroup? (reading : Reading) (text : List Char) : Option (Reading × List Char) :=
  match reading.flags.skip text with
  | '?' :: '=' :: _ => none
  | '?' :: '!' :: _ => none
  | '?' :: '<' :: '=' :: _ => none
  | '?' :: '<' :: '!' :: _ => none
  | '?' :: '<' :: rest => readNamedGroup? reading rest
  | '?' :: 'P' :: '<' :: rest => readNamedGroup? reading rest
  | '?' :: ')' :: _ => none
  | '?' :: rest => do
      let (flags, rest) ← readFlags? rest [] false reading.flags
      match rest with
      | ':' :: rest => some (reading.openGroup false flags, rest)
      | ')' :: rest => some ({ reading with flags, items := .flags :: reading.items }, rest)
      | _ => none
  | rest => some (reading.openGroup true reading.flags, rest)

/-- Reads a pattern from where the reader stands. Every round takes at least one character. -/
def readFrom? : Nat → Reading → List Char → Option Nested
  | 0, _, _ => none
  | fuel + 1, reading, text =>
      let flags := reading.flags
      match flags.skip text with
      | [] =>
          if reading.groups.isEmpty then
            some (alternativesOf (sequenceOf reading.items :: reading.branches))
          else none
      | c :: rest =>
          let set (chars : CharSet) : Reading := reading.pushLeaf (.set chars)
          let char (c : Char) : Reading := set (flags.fold (.range c.toNat c.toNat))
          let assertion (claim : Assertion) : Reading := reading.pushLeaf (.assertion claim)
          let onwards : Option (Reading × List Char) :=
            match c with
            | '(' => readGroup? reading rest
            | ')' => reading.closeGroup?.map fun reading => (reading, rest)
            | '|' =>
                some ({ reading with
                  branches := sequenceOf reading.items :: reading.branches, items := [] }, rest)
            | '[' => do
                let (chars, rest) ← readSet? flags (2 * rest.length + 2) rest
                return (reading.push ⟨.set chars.chars, chars.depth⟩, rest)
            | '?' => reading.repeatLast? 0 (some 1) rest
            | '*' => reading.repeatLast? 0 none rest
            | '+' => reading.repeatLast? 1 none rest
            | '\x7b' => do
                let ((least, most), rest) ← readBounds? flags rest
                reading.repeatLast? least most (flags.skip rest)
            | '.' => flags.dot?.map fun chars => (set chars, rest)
            | '^' =>
                let claim := if flags.multiLine then .lineStart flags.lineEnding else .textStart
                some (assertion claim, rest)
            | '$' =>
                let claim := if flags.multiLine then .lineEnd flags.lineEnding else .textEnd
                some (assertion claim, rest)
            | '\\' =>
                (readEscape? flags rest).map fun (escaped, rest) =>
                  match escaped with
                  | .char c => (char c, rest)
                  | .set chars => (set chars, rest)
                  | .assertion claim => (assertion claim, rest)
            | c => some (char c, rest)
          match onwards with
          | some (reading, rest) => readFrom? fuel reading rest
          | none => none

/-- Why a text is no pattern. -/
inductive Fault where
  | malformed
  | tooLarge
deriving DecidableEq

/-- The pattern that a text writes. -/
def read (text : String) : Except Fault Pattern :=
  match readFrom? (text.length + 1) {} text.toList with
  | some ⟨pattern, depth⟩ =>
      if nestLimit < depth then .error .malformed
      else if pattern.fits then .ok pattern
      else .error .tooLarge
  | none => .error .malformed

end Pattern

end TypedCollections
