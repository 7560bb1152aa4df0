import TypedCollections.Pattern.Flags
import TypedCollections.Pattern.Segmentation
/-!
# Reading escapes and counts

What a backslash begins in a written pattern: a character by its code, a class of characters by its
name, or an assertion. How often something is repeated is read here too. Where white space is left
out of a pattern, it may also stand within these.
-/

namespace TypedCollections

namespace Pattern

/-- A number of decimal digits within white space, below `2 ^ 32`, and what follows it. -/
def readCount? (flags : Flags) (text : List Char) : Option (Nat × List Char) :=
  let (digits, rest) := flags.take Char.isDigit ((flags.skip text).dropWhile Text.isWhiteSpace)
  let count := digits.foldl (fun acc c => 10 * acc + (c.toNat - '0'.toNat)) 0
  if digits.isEmpty || 1 <<< 32 ≤ count then none
  else some (count, rest.dropWhile Text.isWhiteSpace)

/-- A counted repetition, after its opening brace: the bounds and what follows it. White space may
stand around a count, but not in place of one. -/
def readBounds? (flags : Flags) (text : List Char) : Option ((Nat × Option Nat) × List Char) := do
  let (least, rest) ← readCount? flags text
  match rest with
  | '\x7d' :: rest => some ((least, some least), rest)
  | ',' :: rest =>
      match flags.skip rest with
      | '\x7d' :: rest => some ((least, none), rest)
      | rest =>
          let (most, rest) ← readCount? flags rest
          match rest with
          | '\x7d' :: rest => if least ≤ most then some ((least, some most), rest) else none
          | _ => none
  | _ => none

/-! ### Characters by their codes -/

/-- The value of a hexadecimal digit. -/
def hexValue? (c : Char) : Option Nat :=
  if c.isDigit then some (c.toNat - '0'.toNat)
  else if 'a' ≤ c ∧ c ≤ 'f' then some (c.toNat - 'a'.toNat + 10)
  else if 'A' ≤ c ∧ c ≤ 'F' then some (c.toNat - 'A'.toNat + 10)
  else none

/-- The character with a hexadecimal code, if there is one. -/
def charOfHex? (digits : List Char) : Option Char := do
  if digits.isEmpty then none
  let values ← digits.mapM hexValue?
  let code := values.foldl (fun acc digit => 16 * acc + digit) 0
  if code < 0xD800 ∨ (0xDFFF < code ∧ code < 0x110000) then some (Char.ofNat code) else none

/-- A character given by its code: a fixed number of digits or any number between braces. Without
Unicode, two digits beyond those of ASCII would be an octet that is no character. -/
def readHex? (flags : Flags) (width : Nat) (text : List Char) : Option (Char × List Char) := do
  match flags.skip text with
  | '\x7b' :: rest =>
      let (digits, rest) := flags.take (· != '\x7d') rest
      let c ← charOfHex? digits
      match rest with
      | '\x7d' :: rest => some (c, rest)
      | _ => none
  | text =>
      let (digits, rest) ← flags.takeCount? width text
      let c ← charOfHex? digits
      if width = 2 ∧ !flags.unicode ∧ 128 ≤ c.toNat then none else some (c, rest)

/-! ### Classes of characters by their names -/

/-- The form in which names of classes are compared: in lower case, without spaces, hyphens and
underscores and without an `is` in front, unless nothing but a `c` would be left. -/
def plainName (name : List Char) : String :=
  let plain (name : List Char) : List Char :=
    (name.filter fun c => c.toNat < 128 && c != ' ' && c != '_' && c != '-').map Char.toLower
  match name with
  | first :: second :: rest =>
      if first.toLower = 'i' ∧ second.toLower = 's' then
        if plain rest = ['c'] then "isc" else String.ofList (plain rest)
      else String.ofList (plain name)
  | _ => String.ofList (plain name)

/-- What stands before and after the first place at which a text has a mark. -/
def splitAt? (mark : List Char) : List Char → Option (List Char × List Char)
  | [] => none
  | c :: rest =>
      if mark.isPrefixOf (c :: rest) then some ([], (c :: rest).drop mark.length)
      else (splitAt? mark rest).map fun (before, after) => (c :: before, after)

/-- The characters of a class, as written between braces: a name, or a property and its value. -/
def namedClass? (text : List Char) : Option CharSet :=
  let parts := splitAt? ['!', '='] text <|> splitAt? [':'] text <|> splitAt? ['='] text
  match parts with
  | some (property, value) => CharSet.valueClass? (plainName property) (plainName value)
  | none => CharSet.class? (plainName text)

/-- A class of characters by its name, after its letter, and what follows it. A name of one
character needs no braces. -/
def readClass? (flags : Flags) (negated : Bool) (text : List Char) :
    Option (CharSet × List Char) := do
  if !flags.unicode then none
  let (chars, rest) ←
    match flags.skip text with
    | '\x7b' :: rest =>
        match flags.take (· != '\x7d') rest with
        | (name, '\x7d' :: rest) => (namedClass? name).map fun chars => (chars, rest)
        | _ => none
    | '\\' :: _ => none
    | c :: rest => (CharSet.class? (plainName [c])).map fun chars => (chars, rest)
    | [] => none
  let chars ← flags.complement? negated (flags.fold chars)
  return (chars, rest)

/-- The set of a named class of ASCII characters. -/
def asciiClass? (name : String) : Option CharSet :=
  let range (first last : Char) : CharSet := .range first.toNat last.toNat
  let lower := range 'a' 'z'
  let upper := range 'A' 'Z'
  let alpha := CharSet.union lower upper
  let digits := range '0' '9'
  let punct := .union (.union (range '!' '/') (range ':' '@')) (.union (range '[' '`')
    (range '\x7b' '~'))
  match name with
  | "alnum" => some (.union alpha digits)
  | "alpha" => some alpha
  | "ascii" => some (range '\x00' '\x7f')
  | "blank" => some (.union (range '\t' '\t') (range ' ' ' '))
  | "cntrl" => some (.union (range '\x00' '\x1f') (range '\x7f' '\x7f'))
  | "digit" => some digits
  | "graph" => some (range '!' '~')
  | "lower" => some lower
  | "print" => some (range ' ' '~')
  | "punct" => some punct
  | "space" => some (.union (range '\t' '\r') (range ' ' ' '))
  | "upper" => some upper
  | "word" => some (.union (.union alpha digits) (range '_' '_'))
  | "xdigit" => some (.union digits (.union (range 'a' 'f') (range 'A' 'F')))
  | _ => none

/-- A class that has a letter of its own: the set of Unicode, or the class of ASCII with a name. -/
def letterClass? (flags : Flags) (negated : Bool) (chars : CharSet) (name : String) :
    Option CharSet :=
  (if flags.unicode then some chars else asciiClass? name).bind (flags.complement? negated)

/-! ### Escapes -/

/-- What an escape stands for. -/
inductive Escaped where
  | char (c : Char)
  | set (chars : CharSet)
  | assertion (claim : Assertion)

/-- Whether an escaped character stands for itself. -/
def standsForItself (c : Char) : Bool :=
  c.toNat < 128 && !c.isAlphanum && c != '<' && c != '>'

/-- A boundary of words, after its letter: a special one may be named between braces. -/
def readBoundary? (flags : Flags) (text : List Char) : Option (Assertion × List Char) :=
  let isNameChar (c : Char) : Bool := c.isAlpha || c = '-'
  match text with
  | '\x7b' :: rest =>
      match flags.take isNameChar rest with
      | ([], []) => none
      | ([], _) => some (.wordBoundary flags.wordChars, text)
      | (name, '\x7d' :: after) =>
          match String.ofList name with
          | "start" => some (.wordStart flags.wordChars, after)
          | "end" => some (.wordEnd flags.wordChars, after)
          | "start-half" => some (.wordStartHalf flags.wordChars, after)
          | "end-half" => some (.wordEndHalf flags.wordChars, after)
          | _ => none
      | _ => none
  | _ => some (.wordBoundary flags.wordChars, text)

/-- An escape, after its backslash, and what follows it. -/
def readEscape? (flags : Flags) (text : List Char) : Option (Escaped × List Char) :=
  match text with
  | [] => none
  | c :: rest =>
      let char (c : Char) : Option (Escaped × List Char) := some (.char c, rest)
      let assertion (claim : Assertion) : Option (Escaped × List Char) :=
        some (.assertion claim, rest)
      let hex (width : Nat) : Option (Escaped × List Char) :=
        (readHex? flags width rest).map fun (c, rest) => (.char c, rest)
      let letter (negated : Bool) (chars : CharSet) (name : String) :
          Option (Escaped × List Char) :=
        (letterClass? flags negated chars name).map fun chars => (.set chars, rest)
      let named (negated : Bool) : Option (Escaped × List Char) :=
        (readClass? flags negated rest).map fun (chars, rest) => (.set chars, rest)
      match c with
      | 'd' => letter false .digit "digit"
      | 'D' => letter true .digit "digit"
      | 's' => letter false .space "space"
      | 'S' => letter true .space "space"
      | 'w' => letter false .word "word"
      | 'W' => letter true .word "word"
      | 'p' => named false
      | 'P' => named true
      | 'x' => hex 2
      | 'u' => hex 4
      | 'U' => hex 8
      | 'a' => char '\x07'
      | 'f' => char '\x0c'
      | 't' => char '\t'
      | 'n' => char '\n'
      | 'r' => char '\r'
      | 'v' => char '\x0b'
      | 'A' => assertion .textStart
      | 'z' => assertion .textEnd
      | 'b' => (readBoundary? flags rest).map fun (claim, rest) => (.assertion claim, rest)
      | 'B' => assertion (.notWordBoundary flags.wordChars)
      | '<' => assertion (.wordStart flags.wordChars)
      | '>' => assertion (.wordEnd flags.wordChars)
      | c => if standsForItself c then char c else none

end Pattern

end TypedCollections
