/-!
# Text as octets

Stored texts are lists of octets in UTF-8. Main statement: a text is read back from its octets.
-/

namespace TypedCollections

namespace Utf8

def encode (text : String) : List UInt8 := text.toUTF8.data.toList

def decode? (octets : List UInt8) : Option String := String.fromUTF8? ⟨octets.toArray⟩

theorem decode?_encode (text : String) : decode? (encode text) = some text := by
  have h : (⟨(encode text).toArray⟩ : ByteArray) = text.toUTF8 := by
    simp [encode]
  unfold decode?
  rw [h]
  simp [String.fromUTF8?, String.fromUTF8, text.isValidUTF8]

theorem encode_injective {a b : String} (h : encode a = encode b) : a = b := by
  have := decode?_encode a
  rw [h, decode?_encode] at this
  exact (Option.some.inj this).symm

end Utf8

end TypedCollections
