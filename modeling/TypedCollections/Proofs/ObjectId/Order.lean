import Mathlib.Data.String.Basic
import Mathlib.Tactic.Ring
import TypedCollections.ObjectId.Generator
import TypedCollections.Proofs.ObjectId
/-!
# Identifiers in order

Octets of one length are ordered as the numbers they write, and as their hexadecimal texts are. So
the order of identifiers can be read off either form: off their texts, and off the seconds in their
first octets before anything else counts.
-/

namespace TypedCollections

namespace ObjectId

/-! ### Octets and the numbers they write -/

private theorem foldl_octets (octets : List UInt8) (start : Nat) :
    octets.foldl (fun acc octet => 256 * acc + octet.toNat) start
      = start * 256 ^ octets.length + bigEndian octets := by
  unfold bigEndian
  induction octets generalizing start with
  | nil => simp
  | cons octet rest ih =>
      rw [List.foldl_cons, List.foldl_cons, ih, ih (256 * 0 + octet.toNat), List.length_cons,
        Nat.pow_succ]
      ring

theorem bigEndian_cons (octet : UInt8) (rest : List UInt8) :
    bigEndian (octet :: rest) = octet.toNat * 256 ^ rest.length + bigEndian rest := by
  rw [bigEndian, List.foldl_cons, foldl_octets, Nat.mul_zero, Nat.zero_add]

theorem bigEndian_append (octets more : List UInt8) :
    bigEndian (octets ++ more) = bigEndian octets * 256 ^ more.length + bigEndian more := by
  rw [bigEndian, List.foldl_append, foldl_octets]
  rfl

theorem bigEndian_lt (octets : List UInt8) : bigEndian octets < 256 ^ octets.length := by
  induction octets with
  | nil => exact Nat.one_pos
  | cons octet rest ih =>
      have hoctet : octet.toNat + 1 ≤ 256 := octet.toNat_lt
      have hhigh := Nat.mul_le_mul_right (256 ^ rest.length) hoctet
      rw [Nat.add_one_mul] at hhigh
      rw [bigEndian_cons, List.length_cons, Nat.pow_succ']
      omega

/-- The last octets of a number write what is left of it when the rest is cut off. -/
theorem bigEndian_octetsOf (width n : Nat) : bigEndian (octetsOf width n) = n % 256 ^ width := by
  induction width generalizing n with
  | zero => exact (Nat.mod_one n).symm
  | succ width ih =>
      have hlast : bigEndian [UInt8.ofNat (n % 256)] = n % 256 := by
        rw [bigEndian_cons, UInt8.toNat_ofNat']
        show n % 256 % 256 * 1 + 0 = n % 256
        omega
      rw [octetsOf, bigEndian_append, ih, hlast, List.length_singleton, Nat.pow_one, Nat.pow_succ',
        Nat.mod_mul]
      ring

/-- What comes first decides, and the rest only where the first is the same. -/
private theorem then_compare {a b : Nat} (x y : Nat) {bound : Nat} (ha : a < bound)
    (hb : b < bound) :
    (compare x y).then (compare a b) = compare (x * bound + a) (y * bound + b) := by
  have hstep : ∀ {m n : Nat}, m < n → m * bound + bound ≤ n * bound := by
    intro m n h
    rw [← Nat.add_one_mul]
    exact Nat.mul_le_mul_right bound h
  rcases Nat.lt_trichotomy x y with h | rfl | h
  · have hle := hstep h
    have hlt : x * bound + a < y * bound + b := by omega
    rw [Nat.compare_eq_lt.2 h, Nat.compare_eq_lt.2 hlt]
    rfl
  · rw [Nat.compare_eq_eq.2 rfl, Ordering.then, Nat.compare_eq_ite_lt, Nat.compare_eq_ite_lt]
    simp
  · have hle := hstep h
    have hgt : y * bound + b < x * bound + a := by omega
    rw [Nat.compare_eq_gt.2 h, Nat.compare_eq_gt.2 hgt]
    rfl

/-- Octets of one length are ordered as the numbers they write. -/
theorem compare_octets {octets others : List UInt8} (h : octets.length = others.length) :
    compare octets others = compare (bigEndian octets) (bigEndian others) := by
  induction octets generalizing others with
  | nil =>
      cases others with
      | nil => rfl
      | cons _ _ => cases h
  | cons octet rest ih =>
      cases others with
      | nil => cases h
      | cons other more =>
          have hlength : rest.length = more.length := Nat.succ.inj h
          have hrest : bigEndian rest < 256 ^ more.length := hlength ▸ bigEndian_lt rest
          rw [List.compare_eq_compareLex, List.compareLex_cons_cons, ← List.compare_eq_compareLex,
            ih hlength, UInt8.compare_eq_toNat_compare_toNat, bigEndian_cons, bigEndian_cons,
            hlength]
          exact then_compare octet.toNat other.toNat hrest (bigEndian_lt more)

/-- Identifiers are ordered as the numbers their octets write. -/
theorem compare_eq (a b : ObjectId) :
    compare a b = compare (bigEndian a.octets) (bigEndian b.octets) :=
  compare_octets (a.length_eq.trans b.length_eq.symm)

/-- An identifier made earlier comes first. -/
theorem compare_eq_lt_of_timestamp_lt {a b : ObjectId} (h : a.timestamp < b.timestamp) :
    compare a b = .lt := by
  have hsplit : ∀ id : ObjectId, bigEndian id.octets
      = id.timestamp * 256 ^ 8 + bigEndian (id.octets.drop 4) := by
    intro id
    have hlength : (id.octets.drop 4).length = 8 := by rw [List.length_drop, id.length_eq]
    rw [← hlength, timestamp, ← bigEndian_append, List.take_append_drop]
  have hrest : bigEndian (a.octets.drop 4) < 256 ^ 8 := by
    have hlt := bigEndian_lt (a.octets.drop 4)
    rwa [List.length_drop, a.length_eq] at hlt
  rw [compare_eq, Nat.compare_eq_lt, hsplit, hsplit]
  omega

/-! ### Octets and their texts -/

private theorem hexDigit_lt_iff : ∀ m < 16, ∀ n < 16, hexDigit m < hexDigit n ↔ m < n := by decide

private theorem hexDigit_inj : ∀ m < 16, ∀ n < 16, hexDigit m = hexDigit n ↔ m = n := by decide

/-- The two digits of an octet come first, and what follows decides only if they are the same. -/
private theorem octetChars_append_lt_iff (octet other : UInt8) (rest more : List Char) :
    octetChars octet ++ rest < octetChars other ++ more ↔
      octet.toNat < other.toNat ∨ octet.toNat = other.toNat ∧ rest < more := by
  have hoctet := octet.toNat_lt
  have hother := other.toNat_lt
  rw [octetChars, octetChars, List.cons_append, List.cons_append, List.cons_append,
    List.cons_append, List.cons_lt_cons_iff, List.cons_lt_cons_iff, List.nil_append,
    List.nil_append, hexDigit_lt_iff _ (by omega) _ (by omega),
    hexDigit_lt_iff _ (by omega) _ (by omega), hexDigit_inj _ (by omega) _ (by omega),
    hexDigit_inj _ (by omega) _ (by omega)]
  by_cases hrest : rest < more
  · simp only [hrest, and_true]
    omega
  · simp only [hrest, and_false, or_false]
    omega

/-- The texts of octets of one length are in the order of the octets. -/
private theorem flatMap_octetChars_lt_iff {octets others : List UInt8}
    (h : octets.length = others.length) :
    octets.flatMap octetChars < others.flatMap octetChars ↔
      bigEndian octets < bigEndian others := by
  induction octets generalizing others with
  | nil =>
      cases others with
      | nil => simp
      | cons _ _ => cases h
  | cons octet rest ih =>
      cases others with
      | nil => cases h
      | cons other more =>
          have hlength : rest.length = more.length := Nat.succ.inj h
          have hrest : bigEndian rest < 256 ^ more.length := hlength ▸ bigEndian_lt rest
          have hcompare := then_compare octet.toNat other.toNat hrest (bigEndian_lt more)
          rw [List.flatMap_cons, List.flatMap_cons, octetChars_append_lt_iff, ih hlength,
            bigEndian_cons, bigEndian_cons, hlength, ← Nat.compare_eq_lt (b := _ + _), ← hcompare,
            Ordering.then_eq_lt, Nat.compare_eq_lt, Nat.compare_eq_eq, Nat.compare_eq_lt]

theorem hex_lt_iff {a b : ObjectId} : a.hex < b.hex ↔ compare a b = .lt := by
  rw [compare_eq, Nat.compare_eq_lt,
    ← flatMap_octetChars_lt_iff (a.length_eq.trans b.length_eq.symm), String.lt_iff_toList_lt, hex,
    hex, String.toList_ofList, String.toList_ofList]
  rfl

/-- Identifiers are ordered as their texts are. -/
theorem compare_eq_compare_hex (a b : ObjectId) : compare a b = compare a.hex b.hex := by
  have hlt : compare a b = .lt ↔ compare a.hex b.hex = .lt := by
    rw [compare_lt_iff_lt, hex_lt_iff]
  have heq : compare a b = .eq ↔ compare a.hex b.hex = .eq := by
    rw [Std.LawfulEqCmp.compare_eq_iff_eq, compare_eq_iff_eq, hex_inj]
  cases h : compare a b with
  | lt => exact (hlt.1 h).symm
  | eq => exact (heq.1 h).symm
  | gt =>
      cases k : compare a.hex b.hex with
      | lt => exact absurd (hlt.2 k) (by rw [h]; decide)
      | eq => exact absurd (heq.2 k) (by rw [h]; decide)
      | gt => rfl

end ObjectId

end TypedCollections
