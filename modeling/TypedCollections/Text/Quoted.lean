import TypedCollections.Text.Unprintable
/-!
# Quoted text

How names are shown to a programmer: between quotation marks, where a quotation mark, a backslash
and the common controls have an escape of two characters, and any other unprintable character is
shown by its number. Texts that are shown on a terminal as they stand keep all but the characters
that it would obey.
-/

namespace TypedCollections

namespace Text

/-- A character between quotation marks. -/
def quotedChar (c : Char) : List Char :=
  if c = '"' then ['\\', '"']
  else if c = '\\' then ['\\', '\\']
  else if c = '\n' then ['\\', 'n']
  else if c = '\r' then ['\\', 'r']
  else if c = '\t' then ['\\', 't']
  else if c.toNat = 0 then ['\\', '0']
  else if isUnprintable c then ['\\', 'u', '\x7b'] ++ Nat.toDigits 16 c.toNat ++ ['\x7d']
  else [c]

/-- A text between quotation marks. -/
def quoted (text : String) : String :=
  String.ofList ('"' :: text.toList.flatMap quotedChar ++ ['"'])

/-- Whether a character can make a terminal do something else than show it. -/
def isCommanding (c : Char) : Bool :=
  ['\x07', '\x08', '\x0c', '\x1b', '\x7f'].contains c || (0x80 ≤ c.toNat && c.toNat ≤ 0x9f)

/-- A text without characters that a terminal obeys: they are shown by their numbers. -/
def harmless (text : String) : String :=
  String.ofList <| text.toList.flatMap fun c =>
    if !isCommanding c then [c]
    else if c.toNat < 0x80 then
      '\\' :: 'x' :: (if c.toNat < 16 then ['0'] else []) ++ Nat.toDigits 16 c.toNat
    else ['\\', 'u', '\x7b'] ++ Nat.toDigits 16 c.toNat ++ ['\x7d']

/-- Quoted texts in brackets. -/
def quotedList (texts : List String) : String :=
  "[" ++ ", ".intercalate (texts.map quoted) ++ "]"

end Text

end TypedCollections
