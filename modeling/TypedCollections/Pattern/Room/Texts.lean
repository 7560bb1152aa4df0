import TypedCollections.Pattern.Room
/-!
# The room of texts

Alternatives that are texts share the states of what they begin with in the direction of reading.
-/

namespace TypedCollections

/-- A text in octets. -/
abbrev OctetText := List UInt8

/-- Texts between those that are empty. -/
def sections : List OctetText → List (List OctetText)
  | [] => [[]]
  | [] :: rest => [] :: sections rest
  | text :: rest =>
      match sections rest with
      | first :: more => (text :: first) :: more
      | [] => [[text]]

/-- Texts, of which the empty one stands at most once at the beginning. -/
def dropRepeatedEmpty : List OctetText → List OctetText
  | [] :: [] :: rest => dropRepeatedEmpty ([] :: rest)
  | texts => texts

/-- What follows a first octet in texts. -/
def afterOctet (octet : UInt8) (texts : List OctetText) : List OctetText :=
  texts.filterMap fun text =>
    match text with
    | first :: rest => if first = octet then some rest else none
    | [] => none

/-- Adds the states of texts of at most a given length that share what they begin with. An earlier
text is preferred to a later one, so that nothing is shared across the end of a text. -/
def layOutTexts : (length : Nat) → List OctetText → Layout
  | 0, _, room => room
  | length + 1, texts, room =>
      let sections := sections (dropRepeatedEmpty texts)
      let filled := sections.filter fun texts => !texts.isEmpty
      if filled.isEmpty then room
      else
        filled.foldl
          (fun room texts =>
            let octets := (texts.filterMap List.head?).eraseDups
            let room := octets.foldl
              (fun room octet => layOutTexts length (afterOctet octet texts) room) room
            if octets.length = 1 then room.add 1 else room.choose octets.length)
          (room.branch (filled.length + (sections.length - 1)))

end TypedCollections
