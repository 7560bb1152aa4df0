import TypedCollections.Pattern.CharSet
/-!
# Patterns

Regular patterns over texts: sets of characters and assertions about the places between characters,
joined by sequence, alternative and repetition.
-/

namespace TypedCollections

/-- Which characters are parts of words: all that Unicode counts, or those of ASCII only. -/
inductive WordChars where
  | unicode
  | ascii
deriving DecidableEq

/-- What ends a line: a line feed, or also a carriage return or both together. -/
inductive LineEnding where
  | feed
  | feedOrReturn
deriving DecidableEq

/-- What may be asserted of a place between characters. -/
inductive Assertion where
  | textStart
  | textEnd
  | lineStart (ending : LineEnding)
  | lineEnd (ending : LineEnding)
  | wordBoundary (chars : WordChars)
  | notWordBoundary (chars : WordChars)
  | wordStart (chars : WordChars)
  | wordEnd (chars : WordChars)
  | wordStartHalf (chars : WordChars)
  | wordEndHalf (chars : WordChars)
deriving DecidableEq

/-- A pattern. A group matches what is in it; a repetition without `most` has no upper bound, and
may prefer fewer rounds to more, which makes no difference to whether there is a match. -/
inductive Pattern where
  | empty
  | set (chars : CharSet)
  | assertion (claim : Assertion)
  | group (inner : Pattern)
  | seq (a b : Pattern)
  | alt (a b : Pattern)
  | repetition (inner : Pattern) (least : Nat) (most : Option Nat) (prefersFewer : Bool)
deriving DecidableEq, Inhabited

/-- Whether a character, if there is one, is part of a word. -/
def WordChars.has (chars : WordChars) (c : Option Char) : Bool :=
  c.any fun c =>
    match chars with
    | .unicode => Text.isWordChar c
    | .ascii => Text.isAsciiWordChar c

/-- Whether an assertion holds between two characters of a text, of which there may be none. There
is no line between a carriage return and the line feed that belongs to it. -/
def Assertion.holds (claim : Assertion) (previous next : Option Char) : Bool :=
  match claim with
  | .textStart => previous.isNone
  | .textEnd => next.isNone
  | .lineStart .feed => previous.isNone || previous == some '\n'
  | .lineStart .feedOrReturn =>
      previous.isNone || previous == some '\n' || (previous == some '\r' && next != some '\n')
  | .lineEnd .feed => next.isNone || next == some '\n'
  | .lineEnd .feedOrReturn =>
      next.isNone || next == some '\r' || (next == some '\n' && previous != some '\r')
  | .wordBoundary chars => chars.has previous != chars.has next
  | .notWordBoundary chars => chars.has previous == chars.has next
  | .wordStart chars => !chars.has previous && chars.has next
  | .wordEnd chars => chars.has previous && !chars.has next
  | .wordStartHalf chars => !chars.has previous
  | .wordEndHalf chars => !chars.has next

end TypedCollections
