import TypedCollections.Pattern.Basic
/-!
# Flags of patterns

What may be set for a pattern, or for a part of it: how characters and places are compared, and how
the pattern is written.
-/

namespace TypedCollections

namespace Pattern

/-- The flags in force: whether case does not count, whether `^` and `$` hold at line ends, whether
`.` takes every character, whether repetitions prefer fewer rounds, whether characters are those of
Unicode, whether carriage returns end lines, and whether white space and comments are left out. -/
structure Flags where
  ignoreCase : Bool := false
  multiLine : Bool := false
  dotAll : Bool := false
  prefersFewer : Bool := false
  unicode : Bool := true
  returnsEndLines : Bool := false
  skipsBlanks : Bool := false

namespace Flags

def wordChars (flags : Flags) : WordChars := if flags.unicode then .unicode else .ascii

def lineEnding (flags : Flags) : LineEnding :=
  if flags.returnsEndLines then .feedOrReturn else .feed

/-- A set with what agrees with its characters up to case, if case does not count. -/
def fold (flags : Flags) (chars : CharSet) : CharSet :=
  if !flags.ignoreCase then chars
  else if flags.unicode then chars.foldedBy Text.foldPairs
  else chars.foldedBy Text.asciiFoldPairs

/-- The set of the characters from a first to a last one. Without Unicode only ASCII characters can
stand in sets. -/
def range? (flags : Flags) (first last : Char) : Option CharSet :=
  if first ≤ last && (flags.unicode || last.toNat < 128) then
    some (flags.fold (.range first.toNat last.toNat))
  else none

/-- A set, or what is not in it. Without Unicode there are octets outside a set that are no
characters, so that nothing stands for what is not in it. -/
def complement? (flags : Flags) (negated : Bool) (chars : CharSet) : Option CharSet :=
  if !negated then some chars
  else if flags.unicode then some chars.negate
  else none

/-- The characters that `.` takes. -/
def dot? (flags : Flags) : Option CharSet :=
  if !flags.unicode then none
  else if flags.dotAll then some (.negate .none)
  else if flags.returnsEndLines then some (.negate (.union (.range 10 10) (.range 13 13)))
  else some (.negate (.range 10 10))

/-! ### White space and comments -/

/-- Takes the wanted characters at the beginning of a text, and gives what follows them. White space
and comments may be skipped before and between them; a comment ends with its line. -/
def takeOver (skips : Bool) (wanted : Char → Bool) : (inComment : Bool) → List Char →
    List Char × List Char
  | _, [] => ([], [])
  | true, c :: rest => takeOver skips wanted (c != '\n') rest
  | false, c :: rest =>
      if skips && Text.isWhiteSpace c then takeOver skips wanted false rest
      else if skips && c = '#' then takeOver skips wanted true rest
      else if wanted c then
        let (taken, after) := takeOver skips wanted false rest
        (c :: taken, after)
      else ([], c :: rest)

def take (flags : Flags) (wanted : Char → Bool) (text : List Char) : List Char × List Char :=
  takeOver flags.skipsBlanks wanted false text

/-- What follows the white space and comments at the beginning of a text. -/
def skip (flags : Flags) (text : List Char) : List Char := (flags.take (fun _ => false) text).2

/-- Takes so many characters, and gives what follows them. -/
def takeCount? (flags : Flags) : Nat → List Char → Option (List Char × List Char)
  | 0, text => some ([], text)
  | count + 1, text =>
      match flags.skip text with
      | [] => none
      | c :: rest => (flags.takeCount? count rest).map fun (taken, after) => (c :: taken, after)

/-- The character that follows after white space, where the sign of a comment counts as such. -/
def peek? (flags : Flags) (text : List Char) : Option Char :=
  if !flags.skipsBlanks then text.head?
  else
    match text.dropWhile Text.isWhiteSpace with
    | '#' :: rest => (rest.dropWhile Text.isWhiteSpace).head?
    | rest => rest.head?

end Flags

end Pattern

end TypedCollections
