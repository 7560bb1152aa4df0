import TypedCollections.Pattern.Escape
/-!
# Reading sets between brackets

Characters, ranges of characters, classes and further sets between brackets, joined or combined by
operators.
-/

namespace TypedCollections

namespace Pattern

/-- A set of characters with the depth of its nesting. -/
structure NestedSet where
  chars : CharSet
  depth : Nat

/-- A named class of ASCII characters, after its opening bracket, and what follows it. -/
def readAsciiClass? (text : List Char) : Option ((Bool × CharSet) × List Char) :=
  match text with
  | ':' :: rest =>
      let (negated, rest) := match rest with
        | '^' :: more => (true, more)
        | other => (false, other)
      let name := rest.takeWhile (· != ':')
      match rest.dropWhile (· != ':') with
      | ':' :: ']' :: after =>
          (asciiClass? (String.ofList name)).map fun chars => ((negated, chars), after)
      | _ => none
  | _ => none

/-- How two sets inside brackets are combined. -/
inductive SetOperator where
  | inter
  | diff
  | symmDiff

def SetOperator.apply : SetOperator → CharSet → CharSet → CharSet
  | .inter => .inter
  | .diff => .diff
  | .symmDiff => .symmDiff

/-- The union of the sets read so far, the latest first. -/
def unionOf (items : List NestedSet) : NestedSet :=
  match items with
  | [] => ⟨.none, 0⟩
  | [item] => item
  | items =>
      ⟨.unionAll (items.map (·.chars)),
        (items.foldl (fun acc item => max acc item.depth) 0) + 1⟩

/-- Completes an operator with what stands right of it. -/
def complete (pending : Option (SetOperator × NestedSet)) (right : NestedSet) : NestedSet :=
  match pending with
  | none => right
  | some (operator, left) =>
      ⟨operator.apply left.chars right.chars, max left.depth right.depth + 1⟩

/-- A single character or a set inside brackets, and what follows it. -/
def readSetItem? (flags : Flags) (text : List Char) : Option (Escaped × List Char) :=
  match text with
  | '\\' :: rest => readEscape? flags rest
  | c :: rest => some (.char c, rest)
  | [] => none

/-- A character, a range of characters or a set inside brackets, and what follows it. A hyphen
before the closing bracket or before another hyphen makes no range. -/
def readSetRange? (flags : Flags) (text : List Char) : Option (CharSet × List Char) := do
  let (item, rest) ← readSetItem? flags text
  let rest := flags.skip rest
  let single : Option CharSet := match item with
    | .char c => flags.range? c c
    | .set chars => some chars
    | .assertion _ => none
  match rest with
  | [] => none
  | '-' :: after =>
      if flags.peek? after = some ']' ∨ flags.peek? after = some '-' then
        single.map fun chars => (chars, rest)
      else
        let (last, after) ← readSetItem? flags (flags.skip after)
        match item, last with
        | .char first, .char last => (flags.range? first last).map fun chars => (chars, after)
        | _, _ => none
  | _ => single.map fun chars => (chars, rest)

mutual

/-- A set between brackets, after the opening one, and what follows it. Hyphens at the start and a
closing bracket in the first place stand for themselves. -/
def readSet? (flags : Flags) : Nat → List Char → Option (NestedSet × List Char)
  | 0, _ => none
  | fuel + 1, text => do
      let (negated, text) := match flags.skip text with
        | '^' :: rest => (true, rest)
        | other => (false, other)
      let single (c : Char) : NestedSet := ⟨flags.fold (.range c.toNat c.toNat), 0⟩
      let (hyphens, text) := flags.take (· = '-') text
      let (items, text) := match hyphens, text with
        | [], ']' :: rest => ([single ']'], rest)
        | hyphens, text => (hyphens.map single, text)
      let (inner, rest) ← readSetItems? flags fuel items none text
      let chars ← flags.complement? negated inner.chars
      return (⟨chars, inner.depth + 1⟩, rest)

/-- The items of a set up to its closing bracket, and what follows it. -/
def readSetItems? (flags : Flags) : Nat → List NestedSet → Option (SetOperator × NestedSet) →
    List Char → Option (NestedSet × List Char)
  | 0, _, _, _ => none
  | fuel + 1, items, pending, text =>
      let operate (operator : SetOperator) (rest : List Char) :=
        readSetItems? flags fuel [] (some (operator, complete pending (unionOf items))) rest
      match flags.skip text with
      | [] => none
      | ']' :: rest => some (complete pending (unionOf items), rest)
      | '&' :: '&' :: rest => operate .inter rest
      | '-' :: '-' :: rest => operate .diff rest
      | '~' :: '~' :: rest => operate .symmDiff rest
      | '[' :: rest =>
          match readAsciiClass? rest with
          | some ((negated, chars), rest) =>
              match flags.complement? negated (flags.fold chars) with
              | some chars => readSetItems? flags fuel (⟨chars, 0⟩ :: items) pending rest
              | none => none
          | none =>
              match readSet? flags fuel rest with
              | some (inner, rest) => readSetItems? flags fuel (inner :: items) pending rest
              | none => none
      | text =>
          match readSetRange? flags text with
          | some (chars, rest) => readSetItems? flags fuel (⟨chars, 0⟩ :: items) pending rest
          | none => none

end

end Pattern

end TypedCollections
