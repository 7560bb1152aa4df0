/-!
# Document identifiers

An identifier is twelve octets: four of seconds, five of a process and three of a counter, each with
the most significant octet first. It is written as 24 lower-case hexadecimal characters, and no
other text is read as one. Identifiers are ordered by their octets, hence by creation time first.
-/

namespace TypedCollections

/-- A document identifier. -/
structure ObjectId where
  octets : List UInt8
  length_eq : octets.length = 12
deriving DecidableEq

namespace ObjectId

/-- The identifier with the given octets, if they are twelve. -/
def ofOctets? (octets : List UInt8) : Option ObjectId :=
  if h : octets.length = 12 then some ⟨octets, h⟩ else none

/-- A lower-case hexadecimal digit. -/
def hexDigit (n : Nat) : Char := Nat.digitChar n

/-- The value of a lower-case hexadecimal digit. -/
def hexValue? (c : Char) : Option Nat :=
  if '0' ≤ c ∧ c ≤ '9' then some (c.toNat - '0'.toNat)
  else if 'a' ≤ c ∧ c ≤ 'f' then some (c.toNat - 'a'.toNat + 10)
  else none

/-- The two digits of an octet. -/
def octetChars (octet : UInt8) : List Char :=
  [hexDigit (octet.toNat / 16), hexDigit (octet.toNat % 16)]

/-- The octets written by pairs of digits. -/
def octetsOfChars? : List Char → Option (List UInt8)
  | [] => some []
  | [_] => none
  | high :: low :: rest => do
      let h ← hexValue? high
      let l ← hexValue? low
      let octets ← octetsOfChars? rest
      return UInt8.ofNat (16 * h + l) :: octets

def chars (id : ObjectId) : List Char := id.octets.flatMap octetChars

def hex (id : ObjectId) : String := String.ofList id.chars

def ofHex? (text : String) : Option ObjectId := (octetsOfChars? text.toList).bind ofOctets?

/-- The number written by octets, the most significant first. -/
def bigEndian (octets : List UInt8) : Nat :=
  octets.foldl (fun acc octet => 256 * acc + octet.toNat) 0

/-- The seconds since the epoch at which the identifier was made. -/
def timestamp (id : ObjectId) : Nat := bigEndian (id.octets.take 4)

/-- The order of identifiers is that of their octets. -/
instance : Ord ObjectId := ⟨fun a b => compare a.octets b.octets⟩

/-- The text that shows an identifier to a programmer. -/
def debugText (id : ObjectId) : String := "ObjectId(" ++ id.hex ++ ")"

end ObjectId

end TypedCollections
