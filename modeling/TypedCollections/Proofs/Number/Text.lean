import TypedCollections.Number.Reading
import TypedCollections.Proofs.Number.Shortest
/-!
# Numbers are told apart by their text

Every layout spells digits, a point and an exponent so that they denote the decimal that is laid out,
and a magnitude is laid out as its shortest decimal. So numbers with the same text are the same
number. A layout that keeps the point of whole numbers marks every text as that of a binary number.
-/

namespace TypedCollections

namespace Number

/-- Read as a decimal literal, with a minus sign or without one, the characters have the value. -/
def Denotes (chars : List Char) (value : ℚ) : Prop :=
  ∀ negative : Bool, ∃ digits exponent,
    readLiteral? (String.ofList (if negative then '-' :: chars else chars))
        = some ⟨negative, digits, exponent⟩ ∧
      (digits : ℚ) * 10 ^ exponent = value

theorem ofDigits_eq (digits : List Char) : ofDigits digits = Nat.ofDigitChars 10 digits 0 := by
  rw [Nat.ofDigitChars_eq_foldl]
  rfl

/-- What satisfies a predicate, up to the first character that does not, is split off again. -/
theorem span_append {p : Char → Bool} {front rest : List Char} (hfront : ∀ c ∈ front, p c = true)
    (hrest : ∀ c, rest.head? = some c → p c = false) :
    (front ++ rest).takeWhile p = front ∧ (front ++ rest).dropWhile p = rest := by
  have hstop : rest.takeWhile p = [] ∧ rest.dropWhile p = rest := by
    cases rest with
    | nil => exact ⟨rfl, rfl⟩
    | cons c tail => simp [hrest c rfl]
  rw [List.takeWhile_append_of_pos hfront, List.dropWhile_append_of_pos hfront, hstop.1, hstop.2]
  simp

/-- The digits of a fraction, if there is a point, and what is left. -/
def splitFraction : List Char → List Char × List Char
  | '.' :: more => (more.takeWhile Char.isDigit, more.dropWhile Char.isDigit)
  | other => ([], other)

/-- What is read at an exponent, or at the end. -/
def readExponent? (literal : Int → Literal) : List Char → Option Literal
  | [] => some (literal 0)
  | e :: exponent =>
      if e = 'e' || e = 'E' then (readInt? (String.ofList exponent)).map literal else none

/-- What is read behind the sign. -/
def readUnsigned? (negative : Bool) (chars : List Char) : Option Literal :=
  if (chars.takeWhile Char.isDigit).isEmpty
      && (splitFraction (chars.dropWhile Char.isDigit)).1.isEmpty then none
  else
    readExponent? (fun exponent =>
      ⟨negative, ofDigits (chars.takeWhile Char.isDigit
          ++ (splitFraction (chars.dropWhile Char.isDigit)).1),
        exponent - (splitFraction (chars.dropWhile Char.isDigit)).1.length⟩)
      (splitFraction (chars.dropWhile Char.isDigit)).2

theorem readLiteral?_ofList {first : Char} {rest : List Char} (hminus : first ≠ '-')
    (hplus : first ≠ '+') (negative : Bool) :
    readLiteral? (String.ofList (if negative then '-' :: first :: rest else first :: rest))
      = readUnsigned? negative (first :: rest) := by
  unfold readLiteral?
  rw [String.toList_ofList]
  cases negative with
  | true => rfl
  | false =>
      simp only [Bool.false_eq_true, if_false]
      split
      · rename_i heq
        exact absurd (List.cons.inj heq).1 hminus
      · rename_i heq
        exact absurd (List.cons.inj heq).1 hplus
      · rfl

/-- The characters are a whole part, which a point with a fraction and an exponent may follow. -/
structure Spells (chars whole fraction : List Char) (written : Int) : Prop where
  whole_ne_nil : whole ≠ []
  isDigit_whole : ∀ c ∈ whole, c.isDigit = true
  isDigit_fraction : ∀ c ∈ fraction, c.isDigit = true
  parts : ∃ point tail, chars = whole ++ (point ++ tail) ∧
    (point = [] ∧ fraction = [] ∨ point = '.' :: fraction) ∧
    (tail = [] ∧ written = 0 ∨
      ∃ text, tail = 'e' :: text ∧ readInt? (String.ofList text) = some written)

theorem Spells.denotes {chars whole fraction : List Char} {written : Int} {value : ℚ}
    (h : Spells chars whole fraction written)
    (hvalue : (ofDigits (whole ++ fraction) : ℚ) * 10 ^ (written - fraction.length) = value) :
    Denotes chars value := by
  intro negative
  refine ⟨ofDigits (whole ++ fraction), written - fraction.length, ?_, hvalue⟩
  obtain ⟨hne, hwhole, hdigits, point, tail, rfl, hpoint, htail⟩ := h
  have hstop : ∀ c, tail.head? = some c → c.isDigit = false := by
    intro c hc
    rcases htail with ⟨rfl, -⟩ | ⟨text, rfl, -⟩
    · cases hc
    · cases hc
      rfl
  have hrest : ∀ c, (point ++ tail).head? = some c → c.isDigit = false := by
    intro c hc
    rcases hpoint with ⟨rfl, -⟩ | rfl
    · exact hstop c hc
    · cases hc
      rfl
  obtain ⟨htake, hdrop⟩ := span_append hwhole hrest
  obtain ⟨hfraction, hafter⟩ := span_append hdigits hstop
  have hsplit : splitFraction (point ++ tail) = (fraction, tail) := by
    rcases hpoint with ⟨rfl, rfl⟩ | rfl
    · rcases htail with ⟨rfl, -⟩ | ⟨text, rfl, -⟩ <;> rfl
    · exact Prod.ext hfraction hafter
  have hexponent : ∀ literal, readExponent? literal tail = some (literal written) := by
    intro literal
    rcases htail with ⟨rfl, rfl⟩ | ⟨text, rfl, hread⟩
    · rfl
    · show (readInt? (String.ofList text)).map literal = _
      rw [hread]
      rfl
  obtain ⟨first, others, rfl⟩ := List.exists_cons_of_ne_nil hne
  have hfirst := hwhole first (List.mem_cons_self ..)
  have hminus : first ≠ '-' := by
    rintro rfl
    exact absurd hfirst (by decide)
  have hplus : first ≠ '+' := by
    rintro rfl
    exact absurd hfirst (by decide)
  have hunsigned : readUnsigned? negative (first :: others ++ (point ++ tail))
      = some ⟨negative, ofDigits (first :: others ++ fraction), written - fraction.length⟩ := by
    rw [readUnsigned?, htake, hdrop, hsplit, if_neg (by simp)]
    exact hexponent _
  rw [← hunsigned]
  exact readLiteral?_ofList hminus hplus negative

/-! ### The layouts -/

private theorem ofDigits_append_zeros (digits : List Char) (count : Nat) :
    ofDigits (digits ++ List.replicate count '0') = 10 ^ count * ofDigits digits := by
  rw [ofDigits_eq, ofDigits_eq, Nat.ofDigitChars_append, Nat.ofDigitChars_replicate_zero]

private theorem ofDigits_zeros_append (digits : List Char) (count : Nat) :
    ofDigits (List.replicate count '0' ++ digits) = ofDigits digits := by
  rw [ofDigits_eq, ofDigits_eq, Nat.ofDigitChars_append, Nat.ofDigitChars_replicate_zero,
    Nat.mul_zero]

private theorem isDigit_of_mem_zeros {count : Nat} {c : Char} (h : c ∈ List.replicate count '0') :
    c.isDigit = true := by
  rw [(List.mem_replicate.1 h).2]
  rfl

variable {digits : List Char} {exponent : Int} {layout : Layout}

/-- Digits with a point denote what they are laid out for. -/
theorem denotes_positionalText (hne : digits ≠ []) (hdigits : ∀ c ∈ digits, c.isDigit = true) :
    Denotes (positionalText layout digits exponent) (ofDigits digits * 10 ^ exponent) := by
  unfold positionalText
  simp only
  split
  · rename_i hexponent
    obtain ⟨count, rfl⟩ := Int.eq_ofNat_of_zero_le hexponent
    rw [Int.toNat_natCast]
    have hwhole : ∀ c ∈ digits ++ List.replicate count '0', c.isDigit = true := by
      intro c hc
      exact (List.mem_append.1 hc).elim (hdigits c) isDigit_of_mem_zeros
    split
    · have hspells : Spells (digits ++ List.replicate count '0' ++ ['.', '0'])
          (digits ++ List.replicate count '0') ['0'] 0 :=
        ⟨by simp [hne], hwhole, fun _ => @isDigit_of_mem_zeros 1 _, _, [], by simp, .inr rfl,
          .inl ⟨rfl, rfl⟩⟩
      apply hspells.denotes
      rw [List.append_assoc, ← List.replicate_succ', ofDigits_append_zeros]
      push_cast
      rw [zpow_natCast, List.length_singleton, Nat.cast_one, zero_sub, zpow_neg_one, pow_succ]
      ring
    · have hspells : Spells (digits ++ List.replicate count '0' ++ [])
          (digits ++ List.replicate count '0') [] 0 :=
        ⟨by simp [hne], hwhole, by simp, [], [], by simp, .inl ⟨rfl, rfl⟩, .inl ⟨rfl, rfl⟩⟩
      apply hspells.denotes
      rw [List.append_nil, ofDigits_append_zeros]
      push_cast
      rw [zpow_natCast, List.length_nil, Nat.cast_zero, sub_zero, zpow_zero]
      ring
  · rename_i hexponent
    have hlength : 0 < digits.length := List.length_pos_iff.2 hne
    split
    · rename_i hleading
      generalize hcount : (exponent + digits.length - 1 + 1).toNat = count
      have hspells : Spells (digits.take count ++ '.' :: digits.drop count) (digits.take count)
          (digits.drop count) 0 := by
        refine ⟨?_, fun c hc => hdigits c (List.mem_of_mem_take hc),
          fun c hc => hdigits c (List.mem_of_mem_drop hc), _, [], by simp, .inr rfl,
          .inl ⟨rfl, rfl⟩⟩
        rintro hnil
        rcases List.take_eq_nil_iff.1 hnil with hzero | hempty
        · omega
        · exact hne hempty
      apply hspells.denotes
      rw [List.take_append_drop, List.length_drop,
        show (0 : Int) - (digits.length - count : ℕ) = exponent by omega]
    · rename_i hleading
      generalize hcount : (-(exponent + digits.length - 1) - 1).toNat = count
      have hfraction : ∀ c ∈ List.replicate count '0' ++ digits, c.isDigit = true := by
        intro c hc
        exact (List.mem_append.1 hc).elim isDigit_of_mem_zeros (hdigits c)
      have hspells : Spells ('0' :: '.' :: List.replicate count '0' ++ digits) ['0']
          (List.replicate count '0' ++ digits) 0 :=
        ⟨by simp, fun _ => @isDigit_of_mem_zeros 1 _, hfraction, _, [], by simp, .inr rfl,
          .inl ⟨rfl, rfl⟩⟩
      apply hspells.denotes
      rw [List.length_append, List.length_replicate,
        show (0 : Int) - (count + digits.length : ℕ) = exponent by omega,
        show ['0'] ++ (List.replicate count '0' ++ digits)
          = List.replicate (count + 1) '0' ++ digits from rfl, ofDigits_zeros_append]

private theorem readInt?_digits {digits : List Char} (hne : digits ≠ [])
    (hdigits : ∀ c ∈ digits, c.isDigit = true) (negative : Bool) :
    readInt? (String.ofList ((if negative then '-' else '+') :: digits))
      = some (if negative then -(ofDigits digits : Int) else ofDigits digits) := by
  have hall : digits.all Char.isDigit = true := List.all_eq_true.2 hdigits
  unfold readInt?
  rw [String.toList_ofList]
  cases negative <;> simp [hne, hall]

theorem digitChars_ne_nil {n : Nat} : digitChars n ≠ [] := Nat.toDigits_ne_nil

theorem ofDigits_digitChars (n : Nat) : ofDigits (digitChars n) = n := by
  rw [ofDigits_eq]
  exact Nat.ofDigitChars_ten_toDigits

/-- Digits with a point and an exponent denote what they are laid out for. -/
theorem denotes_exponentText (hne : digits ≠ []) (hdigits : ∀ c ∈ digits, c.isDigit = true) :
    Denotes (exponentText digits exponent) (ofDigits digits * 10 ^ exponent) := by
  unfold exponentText
  simp only
  generalize hleading : exponent + digits.length - 1 = leading
  have hsign : (if leading < 0 then '-' else '+') = if decide (leading < 0) then '-' else '+' := by
    simp
  have hread : readInt? (String.ofList ((if leading < 0 then '-' else '+')
      :: digitChars leading.natAbs)) = some leading := by
    rw [hsign, readInt?_digits digitChars_ne_nil fun c hc => Json.isDigit_of_mem_digitChars hc,
      ofDigits_digitChars]
    simp only [decide_eq_true_eq, Option.some.injEq]
    split <;> omega
  split
  · rename_i first second rest
    have hspells : Spells (first :: '.' :: second :: rest ++ 'e' ::
        (if leading < 0 then '-' else '+') :: digitChars leading.natAbs) [first] (second :: rest)
        leading :=
      ⟨by simp, fun c hc => hdigits c (by simp_all), fun c hc => hdigits c (by simp_all), _, _,
        by simp, .inr rfl, .inr ⟨_, rfl, hread⟩⟩
    apply hspells.denotes
    rw [List.singleton_append, show leading - ((second :: rest).length : ℕ) = exponent by
      simp only [List.length_cons] at hleading ⊢
      omega]
  · rename_i hshort
    have hlength : digits.length = 1 := by
      match digits, hne, hshort with
      | [_], _, _ => rfl
      | first :: second :: rest, _, hshort => exact absurd rfl (hshort first second rest)
    have hspells : Spells (digits ++ 'e' ::
        (if leading < 0 then '-' else '+') :: digitChars leading.natAbs) digits [] leading :=
      ⟨hne, hdigits, by simp, [], _, by simp, .inl ⟨rfl, rfl⟩, .inr ⟨_, rfl, hread⟩⟩
    apply hspells.denotes
    rw [List.append_nil, List.length_nil, show leading - ((0 : ℕ) : Int) = exponent by omega]

/-- The value that a magnitude is written with. -/
def writtenValue (tie : Tie) (units : Nat) : ℚ :=
  if units = 0 then 0 else (shortest tie units).value

theorem denotes_magnitudeText (layout : Layout) (units : Nat) :
    Denotes (magnitudeText layout units) (writtenValue layout.tie units) := by
  have hdigits : ∀ c ∈ digitChars (shortest layout.tie units).digits, c.isDigit = true :=
    fun c hc => Json.isDigit_of_mem_digitChars hc
  unfold magnitudeText writtenValue
  split
  · have hzero := @denotes_positionalText ['0'] 0 layout (by decide)
      fun _ => @isDigit_of_mem_zeros 1 _
    rwa [show ofDigits ['0'] = 0 from rfl, Nat.cast_zero, zero_mul] at hzero
  · generalize shortest layout.tie units = decimal at hdigits ⊢
    have hvalue : decimal.value = ofDigits (digitChars decimal.digits) * 10 ^ decimal.exponent := by
      rw [ofDigits_digitChars]
      rfl
    rw [hvalue]
    exact iteInduction (motive := fun chars => Denotes chars _)
      (fun _ => denotes_positionalText digitChars_ne_nil hdigits)
      (fun _ => denotes_exponentText digitChars_ne_nil hdigits)

theorem writtenValue_injective (tie : Tie) {a b : Nat} (ha : Representable a)
    (hb : Representable b) (h : writtenValue tie a = writtenValue tie b) : a = b := by
  unfold writtenValue at h
  by_cases hzero : a = 0 <;> by_cases hzero' : b = 0
  · rw [hzero, hzero']
  · rw [if_pos hzero, if_neg hzero'] at h
    exact absurd h (value_shortest_pos tie hb (Nat.pos_of_ne_zero hzero')).ne
  · rw [if_neg hzero, if_pos hzero'] at h
    exact absurd h (value_shortest_pos tie ha (Nat.pos_of_ne_zero hzero)).ne'
  · rw [if_neg hzero, if_neg hzero'] at h
    exact eq_of_value_shortest_eq tie ha hb (Nat.pos_of_ne_zero hzero) (Nat.pos_of_ne_zero hzero') h

/-! ### Texts -/

/-- Numbers that are written alike are one number, the sign of zero included. -/
theorem Finite.chars_injective (layout : Layout) : Function.Injective (Finite.chars layout) := by
  rintro ⟨negative, units, ha⟩ ⟨negative', units', hb⟩ h
  obtain ⟨digits, exponent, hread, hvalue⟩ := denotes_magnitudeText layout units negative
  obtain ⟨digits', exponent', hread', hvalue'⟩ := denotes_magnitudeText layout units' negative'
  unfold Finite.chars at h
  simp only at h
  rw [h, hread', Option.some.injEq, Literal.mk.injEq] at hread
  obtain ⟨rfl, rfl, rfl⟩ := hread
  have hunits := writtenValue_injective layout.tie ha hb (hvalue.symm.trans hvalue')
  subst hunits
  rfl

/-- Where whole numbers keep their point, a text shows that it is not that of an integer. -/
theorem exists_not_isDigit {layout : Layout} (hlayout : layout.wholePoint = true) (units : Nat) :
    ∃ c ∈ magnitudeText layout units, c = '.' ∨ c = 'e' := by
  have hpositional : ∀ digits exponent, '.' ∈ positionalText layout digits exponent := by
    intro digits exponent
    unfold positionalText
    simp only [hlayout, if_true]
    split
    · simp
    · split <;> simp
  have hexponent : ∀ digits exponent, 'e' ∈ exponentText digits exponent := by
    intro digits exponent
    unfold exponentText
    exact List.mem_append_right _ (List.mem_cons_self ..)
  unfold magnitudeText
  split
  · exact ⟨'.', hpositional _ _, .inl rfl⟩
  · exact iteInduction (motive := fun chars => ∃ c ∈ chars, c = '.' ∨ c = 'e')
      (fun _ => ⟨'.', hpositional _ _, .inl rfl⟩) (fun _ => ⟨'e', hexponent _ _, .inr rfl⟩)

end Number

end TypedCollections
