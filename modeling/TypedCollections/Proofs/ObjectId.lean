import TypedCollections.ObjectId
/-!
# The text and the order of identifiers

An identifier is read back from its hexadecimal text, and a text that is read as one is its text.
Identifiers are ordered as their octets are, so maps by identifier and trees by octets list the same
things in the same order.
-/

namespace TypedCollections

namespace ObjectId

theorem ext_octets {a b : ObjectId} (h : a.octets = b.octets) : a = b := by
  cases a
  cases b
  cases h
  rfl

@[simp] theorem ofOctets?_octets (id : ObjectId) : ofOctets? id.octets = some id := by
  simp [ofOctets?, id.length_eq]

theorem octets_of_ofOctets? {octets : List UInt8} {id : ObjectId} (h : ofOctets? octets = some id) :
    octets = id.octets := by
  unfold ofOctets? at h
  split at h
  · cases h
    rfl
  · cases h

instance : Std.TransOrd ObjectId where
  eq_swap {a _} := Std.OrientedCmp.eq_swap (a := a.octets)
  isLE_trans {a _ c} h k := Std.TransCmp.isLE_trans (a := a.octets) (c := c.octets) h k

instance : Std.LawfulEqOrd ObjectId where
  eq_of_compare {a _} h := ext_octets (Std.LawfulEqCmp.eq_of_compare (a := a.octets) h)
  compare_self {a} := Std.ReflCmp.compare_self (a := a.octets)

private theorem hexValue?_hexDigit : ∀ n < 16, hexValue? (hexDigit n) = some n := by decide

private theorem hexDigit_of_hexValue? {c : Char} {n : Nat} (h : hexValue? c = some n) :
    hexDigit n = c ∧ n < 16 := by
  unfold hexValue? at h
  have hdecimal : ∀ k < 10, hexDigit k = Char.ofNat (48 + k) := by decide
  have hletter : ∀ k < 6, hexDigit (10 + k) = Char.ofNat (97 + k) := by decide
  split at h
  · rename_i hrange
    obtain ⟨hlow, hhigh⟩ := hrange
    have hlow : 48 ≤ c.toNat := hlow
    have hhigh : c.toNat ≤ 57 := hhigh
    cases h
    have hzero : '0'.toNat = 48 := rfl
    refine ⟨?_, by omega⟩
    rw [hzero, hdecimal (c.toNat - 48) (by omega), show 48 + (c.toNat - 48) = c.toNat by omega]
    exact Char.ofNat_toNat c
  · split at h
    · rename_i hrange
      obtain ⟨hlow, hhigh⟩ := hrange
      have hlow : 97 ≤ c.toNat := hlow
      have hhigh : c.toNat ≤ 102 := hhigh
      cases h
      have ha : 'a'.toNat = 97 := rfl
      refine ⟨?_, by omega⟩
      rw [ha, Nat.add_comm, hletter (c.toNat - 97) (by omega),
        show 97 + (c.toNat - 97) = c.toNat by omega]
      exact Char.ofNat_toNat c
    · cases h

theorem octetsOfChars?_flatMap (octets : List UInt8) :
    octetsOfChars? (octets.flatMap octetChars) = some octets := by
  induction octets with
  | nil => rfl
  | cons octet rest ih =>
      have hlt : octet.toNat < 256 := octet.toNat_lt
      have hhigh := hexValue?_hexDigit (octet.toNat / 16) (by omega)
      have hlow := hexValue?_hexDigit (octet.toNat % 16) (by omega)
      have hvalue : UInt8.ofNat (16 * (octet.toNat / 16) + octet.toNat % 16) = octet := by
        rw [show 16 * (octet.toNat / 16) + octet.toNat % 16 = octet.toNat by omega]
        exact UInt8.ofNat_toNat
      rw [List.flatMap_cons]
      simp only [octetChars, List.cons_append, List.nil_append, octetsOfChars?, hhigh, hlow, ih,
        Option.bind_eq_bind, Option.bind_some, hvalue]
      rfl

theorem flatMap_of_octetsOfChars? {chars : List Char} {octets : List UInt8}
    (h : octetsOfChars? chars = some octets) : octets.flatMap octetChars = chars := by
  induction chars using octetsOfChars?.induct generalizing octets with
  | case1 =>
      cases h
      rfl
  | case2 => simp [octetsOfChars?] at h
  | case3 high low rest ih =>
      simp only [octetsOfChars?, Option.bind_eq_bind, Option.bind_eq_some_iff, Option.pure_def,
        Option.some.injEq] at h
      obtain ⟨a, ha, b, hb, tail, htail, rfl⟩ := h
      obtain ⟨hhigh, halt⟩ := hexDigit_of_hexValue? ha
      obtain ⟨hlow, hblt⟩ := hexDigit_of_hexValue? hb
      have hnat : (UInt8.ofNat (16 * a + b)).toNat = 16 * a + b := by
        rw [UInt8.toNat_ofNat']
        omega
      simp only [List.flatMap_cons, octetChars, hnat, ih htail]
      rw [show (16 * a + b) / 16 = a by omega, show (16 * a + b) % 16 = b by omega, hhigh, hlow]
      rfl

@[simp] theorem ofHex?_hex (id : ObjectId) : ofHex? id.hex = some id := by
  simp [ofHex?, hex, chars, octetsOfChars?_flatMap]

theorem hex_inj {a b : ObjectId} : a.hex = b.hex ↔ a = b := by
  constructor
  · intro h
    have hread := ofHex?_hex a
    rw [h, ofHex?_hex] at hread
    exact (Option.some.inj hread).symm
  · rintro rfl
    rfl

theorem hex_of_ofHex? {text : String} {id : ObjectId} (h : ofHex? text = some id) :
    id.hex = text := by
  simp only [ofHex?, Option.bind_eq_some_iff] at h
  obtain ⟨octets, hoctets, hid⟩ := h
  rw [hex, chars, ← octets_of_ofOctets? hid, flatMap_of_octetsOfChars? hoctets, String.ofList_toList]

/-! ### Which texts are identifiers -/

/-- A decimal digit or one of the first six letters, in lower case. -/
def IsHexChar (c : Char) : Prop := ('0' ≤ c ∧ c ≤ '9') ∨ ('a' ≤ c ∧ c ≤ 'f')

/-- The text of an identifier: 24 hexadecimal characters in lower case. -/
structure IsHexText (text : String) : Prop where
  length_eq : text.length = 24
  isHexChar : ∀ c ∈ text.toList, IsHexChar c

theorem exists_hexValue?_iff {c : Char} : (∃ n, hexValue? c = some n) ↔ IsHexChar c := by
  unfold hexValue? IsHexChar
  split
  · simp_all
  · split
    · simp_all
    · simp_all

private theorem isHexChar_of_octetsOfChars? {chars : List Char} {octets : List UInt8}
    (h : octetsOfChars? chars = some octets) :
    chars.length = 2 * octets.length ∧ ∀ c ∈ chars, IsHexChar c := by
  induction chars using octetsOfChars?.induct generalizing octets with
  | case1 =>
      cases h
      simp
  | case2 => simp [octetsOfChars?] at h
  | case3 high low rest ih =>
      simp only [octetsOfChars?, Option.bind_eq_bind, Option.bind_eq_some_iff, Option.pure_def,
        Option.some.injEq] at h
      obtain ⟨a, ha, b, hb, others, hothers, rfl⟩ := h
      obtain ⟨hlength, hrest⟩ := ih hothers
      refine ⟨by simp only [List.length_cons]; omega, ?_⟩
      exact List.forall_mem_cons.2 ⟨exists_hexValue?_iff.1 ⟨a, ha⟩,
        List.forall_mem_cons.2 ⟨exists_hexValue?_iff.1 ⟨b, hb⟩, hrest⟩⟩

private theorem exists_octetsOfChars? {chars : List Char} {count : Nat}
    (hlength : chars.length = 2 * count) (hchars : ∀ c ∈ chars, IsHexChar c) :
    ∃ octets, octetsOfChars? chars = some octets ∧ octets.length = count := by
  induction chars using octetsOfChars?.induct generalizing count with
  | case1 =>
      rw [List.length_nil] at hlength
      exact ⟨[], rfl, by simp only [List.length_nil]; omega⟩
  | case2 c =>
      rw [List.length_singleton] at hlength
      omega
  | case3 high low rest ih =>
      obtain ⟨hhigh, hlow, hrest⟩ : IsHexChar high ∧ IsHexChar low ∧ ∀ c ∈ rest, IsHexChar c := by
        simpa [List.forall_mem_cons] using hchars
      obtain ⟨a, ha⟩ := exists_hexValue?_iff.2 hhigh
      obtain ⟨b, hb⟩ := exists_hexValue?_iff.2 hlow
      simp only [List.length_cons] at hlength
      have hless : rest.length = 2 * (count - 1) := by omega
      obtain ⟨octets, hoctets, hcount⟩ := ih hless hrest
      refine ⟨UInt8.ofNat (16 * a + b) :: octets, ?_, by simp only [List.length_cons]; omega⟩
      simp [octetsOfChars?, ha, hb, hoctets]

/-- A text is read as an identifier exactly if it is 24 hexadecimal characters in lower case. -/
theorem exists_ofHex?_iff {text : String} : (∃ id, ofHex? text = some id) ↔ IsHexText text := by
  constructor
  · rintro ⟨id, h⟩
    obtain ⟨octets, hoctets, hid⟩ := Option.bind_eq_some_iff.1 h
    obtain ⟨hlength, hchars⟩ := isHexChar_of_octetsOfChars? hoctets
    rw [octets_of_ofOctets? hid, id.length_eq, String.length_toList] at hlength
    exact ⟨hlength, hchars⟩
  · rintro ⟨hlength, hchars⟩
    have hpairs : text.toList.length = 2 * 12 := by rw [String.length_toList, hlength]
    obtain ⟨octets, hoctets, hcount⟩ := exists_octetsOfChars? hpairs hchars
    exact ⟨⟨octets, hcount⟩, by simp [ofHex?, hoctets, ofOctets?, hcount]⟩

end ObjectId

end TypedCollections
