import TypedCollections.Json.Basic
import TypedCollections.Number.Layout
/-!
# JSON text

The compact text of a JSON value, without blanks, and the indented text with two blanks a level. In
strings the quote, the backslash and the control characters below the blank are escaped; everything
else is written as it is.
-/

namespace TypedCollections

namespace Json

/-- A hexadecimal digit, in lower case. -/
def hexDigit (n : Nat) : Char := Nat.digitChar n

/-- A character inside a string. -/
def escape (c : Char) : List Char :=
  match c with
  | '"' => ['\\', '"']
  | '\\' => ['\\', '\\']
  | '\n' => ['\\', 'n']
  | '\r' => ['\\', 'r']
  | '\t' => ['\\', 't']
  | '\x08' => ['\\', 'b']
  | '\x0c' => ['\\', 'f']
  | c =>
      if c.toNat < 32 then ['\\', 'u', '0', '0', hexDigit (c.toNat / 16), hexDigit (c.toNat % 16)]
      else [c]

/-- A string between quotes. -/
def quote (text : String) : List Char := '"' :: (text.toList.flatMap escape ++ ['"'])

/-- The digits of an integer, with a minus sign below zero. -/
def integerChars (value : Int) : List Char :=
  if value < 0 then '-' :: Number.digitChars value.natAbs else Number.digitChars value.natAbs

/-- The text of a number. -/
def numeralChars : Numeral → List Char
  | .integer value => integerChars value
  | .binary value => value.chars .json

mutual

def chars : Json → List Char
  | .null => ['n', 'u', 'l', 'l']
  | .bool true => ['t', 'r', 'u', 'e']
  | .bool false => ['f', 'a', 'l', 's', 'e']
  | .number value => numeralChars value
  | .string value => quote value
  | .array [] => ['[', ']']
  | .array (item :: rest) => '[' :: (chars item ++ moreItems rest)
  | .object [] => ['\x7b', '\x7d']
  | .object ((name, value) :: rest) =>
      '\x7b' :: (quote name ++ ':' :: (chars value ++ moreMembers rest))

/-- The items after the first one and the closing bracket. -/
def moreItems : List Json → List Char
  | [] => [']']
  | item :: rest => ',' :: (chars item ++ moreItems rest)

/-- The members after the first one and the closing brace. -/
def moreMembers : List (String × Json) → List Char
  | [] => ['\x7d']
  | (name, value) :: rest => ',' :: (quote name ++ ':' :: (chars value ++ moreMembers rest))

end

def text (json : Json) : String := String.ofList json.chars

/-- A new line at a level of indentation. -/
def newLine (level : Nat) : List Char := '\n' :: List.replicate (2 * level) ' '

mutual

/-- The characters of the indented text at a level. -/
def indented (level : Nat) : Json → List Char
  | .array [] => ['[', ']']
  | .array (item :: rest) =>
      '[' :: (newLine (level + 1) ++ indented (level + 1) item ++ indentedItems level rest)
  | .object [] => ['\x7b', '\x7d']
  | .object ((name, value) :: rest) =>
      '\x7b' :: (newLine (level + 1) ++ quote name ++ ':' :: ' ' ::
        (indented (level + 1) value ++ indentedMembers level rest))
  | .null => ['n', 'u', 'l', 'l']
  | .bool true => ['t', 'r', 'u', 'e']
  | .bool false => ['f', 'a', 'l', 's', 'e']
  | .number value => numeralChars value
  | .string value => quote value

/-- The items after the first one and the closing bracket, on lines of their own. -/
def indentedItems (level : Nat) : List Json → List Char
  | [] => newLine level ++ [']']
  | item :: rest =>
      ',' :: (newLine (level + 1) ++ indented (level + 1) item ++ indentedItems level rest)

/-- The members after the first one and the closing brace, on lines of their own. -/
def indentedMembers (level : Nat) : List (String × Json) → List Char
  | [] => newLine level ++ ['\x7d']
  | (name, value) :: rest =>
      ',' :: (newLine (level + 1) ++ quote name ++ ':' :: ' ' ::
        (indented (level + 1) value ++ indentedMembers level rest))

end

def indentedText (json : Json) : String := String.ofList (json.indented 0)

end Json

end TypedCollections
