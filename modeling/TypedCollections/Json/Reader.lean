import TypedCollections.Json.Basic
import TypedCollections.Number.Reading
/-!
# Reading JSON text

A machine that reads a text one character at a time. Its state is what is being read and the arrays
and objects that are still open, so where it stops it also tells what had been read by then. A text
is malformed if the machine refuses one of its characters, and truncated if every character is
accepted and the value is not complete. Repeated names are kept; `Json.settle` settles them.
-/

namespace TypedCollections

namespace Json

/-- An array or object that is still open, with what it holds so far, the latest first. -/
inductive Frame where
  /-- An array; an item is being read. -/
  | items (before : List Json)
  /-- An object; a name is due. -/
  | names (before : List (String × Json))
  /-- An object; the value of a name is being read. -/
  | member (before : List (String × Json)) (name : String)

/-- Which part of a number was read last. -/
inductive NumberPart where
  | sign
  | zero
  | whole
  | point
  | fraction
  | mark
  | markSign
  | exponent
deriving DecidableEq

/-- A number that is being read: its digits, the latest first. -/
structure NumberText where
  part : NumberPart
  negative : Bool
  whole : List Char
  fraction : List Char
  exponentNegative : Bool
  exponent : List Char

/-- How far an escape inside a string has been read. -/
inductive Escape where
  | none
  | backslash
  /-- Four hexadecimal digits, after the first half of a pair or alone. -/
  | digits (high : Option Nat) (octets : Nat) (code : Option Nat)
  /-- The first half of a pair; a backslash is due. -/
  | high (code : Nat)
  /-- The first half of a pair and a backslash; the letter is due. -/
  | highBackslash (code : Nat)

/-- What is being read. -/
inductive Mode where
  | value
  | firstItem
  | firstName
  | nextName
  | colon
  | after (value : Json)
  | word (left : List Char) (value : Json)
  | number (text : NumberText)
  | string (isName : Bool) (read : List Char) (escape : Escape)

/-- The machine's state: what is being read, and the open arrays and objects, innermost first. -/
structure State where
  mode : Mode
  frames : List Frame

def State.start : State := ⟨.value, []⟩

/-- The blanks between the parts of a text. -/
def isBlank (c : Char) : Bool := c = ' ' || c = '\n' || c = '\r' || c = '\t'

def hexValue? (c : Char) : Option Nat :=
  if c.isDigit then some (c.toNat - '0'.toNat)
  else if 'a' ≤ c ∧ c ≤ 'f' then some (c.toNat - 'a'.toNat + 10)
  else if 'A' ≤ c ∧ c ≤ 'F' then some (c.toNat - 'A'.toNat + 10)
  else none

/-- Appends digits while the number stays below `2 ^ 64`: the number and how many digits fit. -/
def accumulate (acc : Nat) : List Char → Nat × Nat
  | [] => (acc, 0)
  | c :: rest =>
      let next := 10 * acc + (c.toNat - '0'.toNat)
      if next < 1 <<< 64 then
        let (total, used) := accumulate next rest
        (total, used + 1)
      else (acc, 0)

/-- Whether a number may end here. -/
def NumberText.isComplete (text : NumberText) : Bool :=
  match text.part with
  | .zero | .whole | .fraction | .exponent => true
  | .sign | .point | .mark | .markSign => false

/-- The number of a complete text, if it is not too large. Without a point and an exponent it is an
integer as long as 64 bits hold it, and negative zero is not an integer. -/
def NumberText.numeral? (text : NumberText) : Option Numeral :=
  let whole := text.whole.reverse
  let (integral, usedWhole) := accumulate 0 whole
  let bare := text.part = .zero || text.part = .whole
  let fits := usedWhole = whole.length
  if bare && fits && !text.negative then some (.integer integral)
  else if bare && fits && 0 < integral && integral ≤ 1 <<< 63 then some (.integer (-(integral : Int)))
  else
    let (significand, usedFraction) := accumulate integral text.fraction.reverse
    let shift : Int := ((whole.length - usedWhole : Nat) : Int) - (usedFraction : Nat)
    let written : Int := (Number.ofDigits text.exponent.reverse : Nat)
    let exponent := if text.exponentNegative then shift - written else shift + written
    (Number.scaled? text.negative significand exponent).map .binary

/-- Reads one more character of a number; `none` if the number ends before it or cannot go on. -/
def NumberText.push? (text : NumberText) (c : Char) : Option NumberText :=
  let isMark := c = 'e' || c = 'E'
  match text.part with
  | .sign =>
      if c = '0' then some { text with part := .zero, whole := [c] }
      else if c.isDigit then some { text with part := .whole, whole := [c] }
      else none
  | .zero =>
      if c = '.' then some { text with part := .point }
      else if isMark then some { text with part := .mark }
      else none
  | .whole =>
      if c.isDigit then some { text with whole := c :: text.whole }
      else if c = '.' then some { text with part := .point }
      else if isMark then some { text with part := .mark }
      else none
  | .point =>
      if c.isDigit then some { text with part := .fraction, fraction := [c] } else none
  | .fraction =>
      if c.isDigit then some { text with fraction := c :: text.fraction }
      else if isMark then some { text with part := .mark }
      else none
  | .mark =>
      if c = '+' then some { text with part := .markSign }
      else if c = '-' then some { text with part := .markSign, exponentNegative := true }
      else if c.isDigit then some { text with part := .exponent, exponent := [c] }
      else none
  | .markSign =>
      if c.isDigit then some { text with part := .exponent, exponent := [c] } else none
  | .exponent =>
      if c.isDigit then some { text with exponent := c :: text.exponent } else none

/-- A number of which only the sign, if any, has been read. -/
def NumberText.start (negative : Bool) : NumberText := ⟨.sign, negative, [], [], false, []⟩

/-- What a reader insists on. Below the outermost object, members with other names than the known
ones may be skimmed: of a skimmed value only the grammar matters, so that it may nest to any depth,
its numbers may be of any size, and its escapes may be halves of pairs. -/
structure Rules where
  /-- How deeply arrays and objects may nest. -/
  nesting : Nat
  /-- The names whose values are not skimmed, if any are. -/
  known : Option (List String) := none

/-- Whether what is being read inside the open arrays and objects is skimmed. -/
def Rules.skims (rules : Rules) (frames : List Frame) : Bool :=
  match rules.known with
  | none => false
  | some names =>
      match frames.getLast? with
      | some (.member _ name) => !names.contains name
      | _ => false

/-- Opens an array or object, unless that would nest too deeply. -/
def State.openFrame (rules : Rules) (mode : Mode) (frame : Frame) (frames : List Frame) :
    Option State :=
  if frames.length < rules.nesting || rules.skims frames then some ⟨mode, frame :: frames⟩
  else none

/-- Reads the first character of a value. -/
def beginValue (rules : Rules) (frames : List Frame) (c : Char) : Option State :=
  match c with
  | 'n' => some ⟨.word ['u', 'l', 'l'] .null, frames⟩
  | 't' => some ⟨.word ['r', 'u', 'e'] (.bool true), frames⟩
  | 'f' => some ⟨.word ['a', 'l', 's', 'e'] (.bool false), frames⟩
  | '"' => some ⟨.string false [] .none, frames⟩
  | '[' => State.openFrame rules .firstItem (.items []) frames
  | '\x7b' => State.openFrame rules .firstName (.names []) frames
  | '-' => some ⟨.number (.start true), frames⟩
  | c => ((NumberText.start false).push? c).map fun text => ⟨.number text, frames⟩

/-- Reads the character after a complete value: a comma or the end of what is open. -/
def afterValue (value : Json) (frames : List Frame) (c : Char) : Option State :=
  match frames, c with
  | .items before :: outer, ',' => some ⟨.value, .items (value :: before) :: outer⟩
  | .items before :: outer, ']' => some ⟨.after (.array (value :: before).reverse), outer⟩
  | .member before name :: outer, ',' => some ⟨.nextName, .names ((name, value) :: before) :: outer⟩
  | .member before name :: outer, '\x7d' =>
      some ⟨.after (.object ((name, value) :: before).reverse), outer⟩
  | _, _ => none

/-- Ends a string, which was a name or a value. -/
def endString (isName : Bool) (text : String) (frames : List Frame) : Option State :=
  if isName then
    match frames with
    | .names before :: outer => some ⟨.colon, .member before text :: outer⟩
    | _ => none
  else some ⟨.after (.string text), frames⟩

/-- The character after a backslash. -/
def unescape? (c : Char) : Option Char :=
  match c with
  | '"' => some '"'
  | '\\' => some '\\'
  | '/' => some '/'
  | 'b' => some '\x08'
  | 'f' => some '\x0c'
  | 'n' => some '\n'
  | 'r' => some '\r'
  | 't' => some '\t'
  | _ => none

/-- The state after four hexadecimal digits, which are a character, the first half of a pair or the
second half of one. A second half alone is refused, unless it is skimmed. -/
def endDigits (skims isName : Bool) (read : List Char) (frames : List Frame) (high : Option Nat)
    (code : Nat) : Option State :=
  match high with
  | none =>
      if skims then some ⟨.string isName (Char.ofNat code :: read) .none, frames⟩
      else if 0xDC00 ≤ code ∧ code ≤ 0xDFFF then none
      else if 0xD800 ≤ code ∧ code ≤ 0xDBFF then some ⟨.string isName read (.high code), frames⟩
      else some ⟨.string isName (Char.ofNat code :: read) .none, frames⟩
  | some lead =>
      if 0xDC00 ≤ code ∧ code ≤ 0xDFFF then
        let point := 0x10000 + (lead - 0xD800) * 0x400 + (code - 0xDC00)
        some ⟨.string isName (Char.ofNat point :: read) .none, frames⟩
      else none

/-- Reads one character inside a string. -/
def stepString (skims isName : Bool) (read : List Char) (frames : List Frame) (escape : Escape)
    (c : Char) : Option State :=
  match escape with
  | .none =>
      if c = '"' then endString isName (String.ofList read.reverse) frames
      else if c = '\\' then some ⟨.string isName read .backslash, frames⟩
      else if c.toNat < 32 then none
      else some ⟨.string isName (c :: read) .none, frames⟩
  | .backslash =>
      if c = 'u' then some ⟨.string isName read (.digits none 0 (some 0)), frames⟩
      else (unescape? c).map fun plain => ⟨.string isName (plain :: read) .none, frames⟩
  | .digits high octets code =>
      let octets := octets + c.utf8Size
      let code := code.bind fun n => (hexValue? c).map fun digit => 16 * n + digit
      if octets < 4 then some ⟨.string isName read (.digits high octets code), frames⟩
      else code.bind (endDigits skims isName read frames high)
  | .high code =>
      if c = '\\' then some ⟨.string isName read (.highBackslash code), frames⟩ else none
  | .highBackslash code =>
      if c = 'u' then some ⟨.string isName read (.digits (some code) 0 (some 0)), frames⟩ else none

def step (rules : Rules) (state : State) (c : Char) : Option State :=
  let blankOr (next : Option State) : Option State := if isBlank c then some state else next
  let quoteName : Option State :=
    if c = '"' then some ⟨.string true [] .none, state.frames⟩ else none
  match state.mode with
  | .value => blankOr (beginValue rules state.frames c)
  | .firstItem =>
      blankOr <|
        if c = ']' then some ⟨.after (.array []), state.frames.tail⟩
        else beginValue rules state.frames c
  | .firstName =>
      blankOr <|
        if c = '\x7d' then some ⟨.after (.object []), state.frames.tail⟩ else quoteName
  | .nextName => blankOr quoteName
  | .colon => blankOr (if c = ':' then some ⟨.value, state.frames⟩ else none)
  | .after value => blankOr (afterValue value state.frames c)
  | .word left value =>
      match left with
      | [] => none
      | expected :: rest =>
          if c ≠ expected then none
          else if rest.isEmpty then some ⟨.after value, state.frames⟩
          else some ⟨.word rest value, state.frames⟩
  | .number text =>
      match text.push? c with
      | some longer => some ⟨.number longer, state.frames⟩
      | none =>
          if text.isComplete then
            let skimmed := if rules.skims state.frames then some (.integer 0) else none
            (text.numeral?.or skimmed).bind fun value =>
              if isBlank c then some ⟨.after (.number value), state.frames⟩
              else afterValue (.number value) state.frames c
          else none
  | .string isName read escape =>
      stepString (rules.skims state.frames) isName read state.frames escape c

/-- A number at the end of what was read is complete if it may end there. -/
def State.settle (state : State) : State :=
  match state.mode with
  | .number text =>
      if text.isComplete then
        match text.numeral? with
        | some value => ⟨.after (.number value), state.frames⟩
        | none => state
      else state
  | _ => state

/-- The state at a character that is refused. A number is complete there if it may end there; a zero
before a digit may not. -/
def State.settleBefore (state : State) (c : Char) : State :=
  match state.mode with
  | .number text => if text.part = .zero && c.isDigit then state else state.settle
  | _ => state

/-- Why a text is not a JSON value. -/
inductive Fault where
  | truncated
  | malformed
deriving DecidableEq

/-- Where the machine stopped and why. -/
structure Stop where
  fault : Fault
  state : State

/-- Reads characters until one is refused. -/
def run (rules : Rules) : State → List Char → Except Stop State
  | state, [] => .ok state
  | state, c :: rest =>
      match step rules state c with
      | some next => run rules next rest
      | none => .error ⟨.malformed, state.settleBefore c⟩

/-- The value of a text read to its end. -/
def finish (state : State) : Except Stop Json :=
  let settled := state.settle
  match settled.mode, settled.frames with
  | .after value, [] => .ok value
  | .number text, _ => .error ⟨if text.isComplete then .malformed else .truncated, settled⟩
  | _, _ => .error ⟨.truncated, settled⟩

/-- Reads a text by some rules, and keeps repeated names. -/
def readRaw (rules : Rules) (text : String) : Except Stop Json :=
  (run rules .start text.toList).bind finish

/-- How deeply the arrays and objects of a text may nest. -/
def nestingLimit : Nat := 127

def read (text : String) : Except Fault Json :=
  match readRaw ⟨nestingLimit, none⟩ text with
  | .ok json => .ok json.settle
  | .error stop => .error stop.fault

end Json

end TypedCollections
