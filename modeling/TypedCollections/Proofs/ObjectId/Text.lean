import TypedCollections.Description.Vocabulary
import TypedCollections.ObjectId.Parsing
import TypedCollections.Pattern.Reader
import TypedCollections.Proofs.ObjectId
import TypedCollections.Proofs.Pattern.Search
import TypedCollections.Proofs.Utf8
/-!
# The texts of identifiers

Three ways to tell the text of an identifier from any other text agree: by its octets, by its
characters, and by the pattern that descriptions put down for it. The first eight characters of such
a text write the time at which the identifier was made.
-/

namespace TypedCollections

namespace ObjectId

/-! ### Octets and characters -/

private theorem isHexOctet_ofNat {n : Nat} (h : n < 256) :
    isHexOctet (UInt8.ofNat n) = true ↔ (48 ≤ n ∧ n ≤ 57) ∨ (97 ≤ n ∧ n ≤ 102) := by
  have hnat : (UInt8.ofNat n).toNat = n := by
    rw [UInt8.toNat_ofNat']
    exact Nat.mod_eq_of_lt h
  unfold isHexOctet
  rw [hnat]
  simp

private theorem isHexChar_iff {c : Char} :
    IsHexChar c ↔ (48 ≤ c.val.toNat ∧ c.val.toNat ≤ 57) ∨ (97 ≤ c.val.toNat ∧ c.val.toNat ≤ 102) :=
  Iff.rfl

/-- A hexadecimal digit is written with one octet, and it is the octet of no other character. -/
theorem isHexOctet_encode_iff {c : Char} :
    (∀ octet ∈ String.utf8EncodeChar c, isHexOctet octet = true) ↔ IsHexChar c := by
  rw [isHexChar_iff]
  unfold String.utf8EncodeChar
  generalize c.val.toNat = n
  -- What is written with several octets begins with an octet above all digits.
  have hlead : ∀ {lead : Nat} {others : List UInt8}, 192 ≤ lead → lead < 256 →
      ¬ ∀ octet ∈ UInt8.ofNat lead :: others, isHexOctet octet = true := by
    intro lead others hlow hhigh hall
    have hdigit := (isHexOctet_ofNat hhigh).1 (hall _ (List.mem_cons_self ..))
    omega
  simp only
  split
  · rw [List.forall_mem_singleton, isHexOctet_ofNat (by omega)]
  · split
    · exact ⟨fun hall => absurd hall (hlead (by omega) (by omega)), by omega⟩
    · split
      · exact ⟨fun hall => absurd hall (hlead (by omega) (by omega)), by omega⟩
      · exact ⟨fun hall => absurd hall (hlead (by omega) (by omega)), by omega⟩

theorem length_encode_of_isHexChar {c : Char} (h : IsHexChar c) :
    (String.utf8EncodeChar c).length = 1 := by
  rw [isHexChar_iff] at h
  unfold String.utf8EncodeChar
  rw [if_pos (by omega)]
  rfl

/-- A text has 24 octets that are hexadecimal digits exactly if it has 24 such characters. -/
theorem hex_octets_iff {text : String} :
    (Utf8.encode text).length = 24 ∧ (Utf8.encode text).all isHexOctet = true ↔ IsHexText text := by
  rw [Utf8.encode_eq_flatMap, List.all_eq_true, List.length_flatMap]
  have hchars : (∀ octet ∈ text.toList.flatMap String.utf8EncodeChar, isHexOctet octet = true) ↔
      ∀ c ∈ text.toList, IsHexChar c := by
    simp only [List.forall_mem_flatMap, isHexOctet_encode_iff]
  have hlength : (∀ c ∈ text.toList, IsHexChar c) →
      (text.toList.map fun c => (String.utf8EncodeChar c).length).sum = text.length := by
    intro h
    rw [List.map_congr_left fun c hmem => length_encode_of_isHexChar (h c hmem), List.map_const',
      List.sum_replicate_nat, Nat.mul_one, String.length_toList]
  rw [hchars]
  constructor
  · rintro ⟨hcount, hall⟩
    exact ⟨(hlength hall).symm.trans hcount, hall⟩
  · rintro ⟨hcount, hall⟩
    exact ⟨(hlength hall).trans hcount, hall⟩

/-- Parsing asks no more of the octets than reading asks of the characters. -/
theorem parse_eq (text : String) :
    parse text = (ofHex? text).elim (.error (.invalidObjectId text)) .ok := by
  unfold parse
  by_cases htext : IsHexText text
  · obtain ⟨hlength, hall⟩ := hex_octets_iff.2 htext
    rw [if_neg (by simp [hlength, hall])]
    cases ofHex? text <;> rfl
  · have hnone : ofHex? text = none := by
      rw [Option.eq_none_iff_forall_ne_some]
      exact fun id hid => htext (exists_ofHex?_iff.1 ⟨id, hid⟩)
    rw [hnone, Option.elim_none, ite_eq_left_iff]
    exact fun _ => rfl

theorem parse_eq_ok_iff {text : String} {id : ObjectId} : parse text = .ok id ↔ id.hex = text := by
  rw [parse_eq]
  constructor
  · intro h
    cases hread : ofHex? text with
    | none =>
        rw [hread] at h
        cases h
    | some found =>
        rw [hread] at h
        cases h
        exact hex_of_ofHex? hread
  · rintro rfl
    rw [ofHex?_hex]
    rfl

theorem exists_parse_iff {text : String} : (∃ id, parse text = .ok id) ↔ IsHexText text := by
  rw [← exists_ofHex?_iff]
  constructor
  · rintro ⟨id, h⟩
    exact ⟨id, parse_eq_ok_iff.1 h ▸ ofHex?_hex id⟩
  · rintro ⟨id, h⟩
    exact ⟨id, parse_eq_ok_iff.2 (hex_of_ofHex? h)⟩

theorem parse_of_not_isHexText {text : String} (h : ¬ IsHexText text) :
    parse text = .error (.invalidObjectId text) := by
  cases hread : ofHex? text with
  | none => rw [parse_eq, hread, Option.elim_none]
  | some id => exact absurd (exists_ofHex?_iff.1 ⟨id, hread⟩) h

/-! ### The pattern -/

/-- The lower-case hexadecimal digits. -/
def hexDigits : CharSet := ⟨[48, 58, 97, 103]⟩

/-- What the pattern of an identifier's text is read as. -/
def textPattern : Pattern :=
  .seq (.assertion .textStart)
    (.seq (.repetition (.set hexDigits) 24 (some 24) false) (.assertion .textEnd))

theorem read_objectIdPattern : Pattern.read objectIdPattern = .ok textPattern := by
  have hread : (Pattern.read objectIdPattern).toOption = some textPattern := by decide +kernel
  cases hresult : Pattern.read objectIdPattern with
  | error fault =>
      rw [hresult] at hread
      cases hread
  | ok pattern =>
      rw [hresult] at hread
      exact congrArg Except.ok (Option.some.inj hread)

theorem has_hexDigits_iff {c : Char} : hexDigits.has c = true ↔ IsHexChar c := by
  rw [isHexChar_iff]
  show CharSet.isInside [48, 58, 97, 103] c.val.toNat = true ↔ _
  generalize c.val.toNat = n
  simp only [CharSet.isInside]
  split <;> rename_i h
  · simp; omega
  · split <;> rename_i h'
    · simp; omega
    · split <;> rename_i h''
      · simp; omega
      · split <;> simp <;> omega

/-- The pattern allows nothing before the 24 digits and nothing after them. -/
theorem isMatch_textPattern_iff {text : String} :
    textPattern.isMatch text = true ↔ IsHexText text := by
  have hdigits : IsHexText text ↔
      text.toList.length = 24 ∧ ∀ c ∈ text.toList, hexDigits.has c = true := by
    simp only [has_hexDigits_iff, String.length_toList]
    exact ⟨fun h => ⟨h.1, h.2⟩, fun h => ⟨h.1, h.2⟩⟩
  rw [Pattern.isMatch_iff, hdigits]
  constructor
  · rintro ⟨before, after, stop, htext, _, ⟨hstart, rfl⟩, _, ⟨times, hleast, hmost, hrounds⟩,
      hend, rfl⟩
    have hempty : before = [] := List.getLast?_eq_none_iff.1 (Option.isNone_iff_eq_none.1 hstart)
    have htimes : times = 24 := by
      have hmost := hmost 24 rfl
      omega
    subst hempty htimes
    rw [htext, List.nil_append]
    have hend := List.head?_eq_none_iff.1 (Option.isNone_iff_eq_none.1 hend)
    exact (Pattern.rounds_set_to_end_iff _).1 ⟨_, hrounds, hend⟩
  · intro h
    obtain ⟨stop, hrounds, hend⟩ := (Pattern.rounds_set_to_end_iff ⟨none, text.toList⟩).2 h
    refine ⟨[], text.toList, stop, rfl, _, ⟨rfl, rfl⟩, stop, ⟨24, Nat.le_refl _, ?_, hrounds⟩,
      ?_, rfl⟩
    · rintro bound ⟨⟩
      exact Nat.le_refl _
    · rw [hend]
      rfl

/-! ### The time -/

/-- The number written by hexadecimal digits. -/
def hexNumber (digits : List Char) : Nat :=
  digits.foldl (fun n c => 16 * n + (hexValue? c).getD 0) 0

private theorem foldl_octetChars (start : Nat) (octet : UInt8) :
    (octetChars octet).foldl (fun n c => 16 * n + (hexValue? c).getD 0) start
      = 256 * start + octet.toNat := by
  have hvalue : ∀ n < 16, hexValue? (hexDigit n) = some n := by decide
  have hlt : octet.toNat < 256 := octet.toNat_lt
  simp only [octetChars, List.foldl_cons, List.foldl_nil, hvalue (octet.toNat / 16) (by omega),
    hvalue (octet.toNat % 16) (by omega), Option.getD_some]
  omega

/-- The texts of octets write the same number. -/
theorem hexNumber_flatMap (octets : List UInt8) :
    hexNumber (octets.flatMap octetChars) = bigEndian octets := by
  rw [hexNumber, List.foldl_flatMap, bigEndian]
  simp only [foldl_octetChars]

theorem take_flatMap_octetChars (octets : List UInt8) (count : Nat) :
    (octets.flatMap octetChars).take (2 * count) = (octets.take count).flatMap octetChars := by
  induction count generalizing octets with
  | zero => rfl
  | succ count ih =>
      cases octets with
      | nil => simp
      | cons octet rest =>
          rw [List.take_succ_cons, List.flatMap_cons, List.flatMap_cons, ← ih]
          rfl

theorem timestamp_eq_hexNumber (id : ObjectId) :
    id.timestamp = hexNumber (id.hex.toList.take 8) := by
  rw [hex, String.toList_ofList, chars, take_flatMap_octetChars id.octets 4, hexNumber_flatMap]
  rfl

end ObjectId

end TypedCollections
