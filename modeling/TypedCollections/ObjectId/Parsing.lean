import TypedCollections.Error
import TypedCollections.Utf8
/-!
# Parsing identifiers

A text is parsed as an identifier if it takes 24 octets and each of them is a hexadecimal digit in
lower case. Any other text is refused, and the error carries it.
-/

namespace TypedCollections

namespace ObjectId

/-- Whether an octet is a hexadecimal digit in lower case. -/
def isHexOctet (octet : UInt8) : Bool :=
  ('0'.toNat ≤ octet.toNat && octet.toNat ≤ '9'.toNat)
    || ('a'.toNat ≤ octet.toNat && octet.toNat ≤ 'f'.toNat)

def parse (text : String) : Except Error ObjectId :=
  let octets := Utf8.encode text
  if octets.length ≠ 24 ∨ !octets.all isHexOctet then .error (.invalidObjectId text)
  else
    match ofHex? text with
    | some id => .ok id
    | none => .error (.invalidObjectId text)

end ObjectId

end TypedCollections
