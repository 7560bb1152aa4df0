import TypedCollections.Utf8
/-!
# The zero octet in a text

Of all characters only the null character is written with a zero octet, so texts without it can be
separated by zero octets and told apart again.
-/

namespace TypedCollections

namespace Utf8

private theorem eq_null_of_zero_mem {c : Char} (h : 0 ∈ String.utf8EncodeChar c) : c = '\x00' := by
  have hsmall : ∀ n : Nat, 0 = UInt8.ofNat n → n % 256 = 0 := by
    intro n hn
    have hnat := congrArg UInt8.toNat hn
    rw [UInt8.toNat_ofNat'] at hnat
    simpa using hnat.symm
  have hval : c.val.toNat = 0 := by
    unfold String.utf8EncodeChar at h
    simp only at h
    split at h
    · simp only [List.mem_cons, List.not_mem_nil, or_false] at h
      have hmod := hsmall _ h
      omega
    · split at h
      · simp only [List.mem_cons, List.not_mem_nil, or_false] at h
        rcases h with h | h <;> have hmod := hsmall _ h <;> omega
      · split at h
        · simp only [List.mem_cons, List.not_mem_nil, or_false] at h
          rcases h with h | h | h <;> have hmod := hsmall _ h <;> omega
        · simp only [List.mem_cons, List.not_mem_nil, or_false] at h
          rcases h with h | h | h | h <;> have hmod := hsmall _ h <;> omega
  have hchar : Char.ofNat c.toNat = c := Char.ofNat_toNat c
  rw [← hchar]
  show Char.ofNat c.val.toNat = _
  rw [hval]

theorem encode_eq_flatMap (text : String) :
    encode text = text.toList.flatMap String.utf8EncodeChar := by
  have hbytes : text.toList.utf8Encode = text.toUTF8 := String.utf8Encode_toList
  rw [encode, ← hbytes, List.utf8Encode]
  simp

/-- A text without the null character has no zero octet. -/
theorem zero_not_mem_encode {text : String} (h : '\x00' ∉ text.toList) : 0 ∉ encode text := by
  rw [encode_eq_flatMap]
  intro hmem
  obtain ⟨c, hc, hzero⟩ := List.mem_flatMap.1 hmem
  rw [eq_null_of_zero_mem hzero] at hc
  exact h hc

end Utf8

end TypedCollections
