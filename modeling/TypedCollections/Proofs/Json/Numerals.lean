import TypedCollections.Json.Printer
import TypedCollections.Json.Reader
/-!
# Numerals in JSON text

The reader stays inside a number as long as the characters of one come, and what it has gathered by
then does not depend on the arrays and objects around it. So a numeral that is read back from its
own text is read back wherever it stands. Every integer of 64 bits is; whether a binary number is
depends on its digits, since the reader scales by powers of ten that are rounded themselves.
-/

namespace TypedCollections

namespace Json

/-- The rules by which a whole text is read. -/
def textRules : Rules := ⟨nestingLimit, none⟩

theorem run_append (rules : Rules) (state : State) (front back : List Char) :
    run rules state (front ++ back)
      = (run rules state front).bind fun next => run rules next back := by
  induction front generalizing state with
  | nil => rfl
  | cons c front ih =>
      simp only [List.cons_append, run]
      cases step rules state c with
      | none => rfl
      | some next => exact ih next

/-- The states right after a value inside open arrays and objects. A number is complete only when
the next character ends it. -/
inductive Reads (frames : List Frame) : Json → State → Prop where
  | after (value : Json) : Reads frames value ⟨.after value, frames⟩
  | number {text : NumberText} {numeral : Numeral} (complete : text.isComplete = true)
      (holds : text.numeral? = some numeral) : Reads frames (.number numeral) ⟨.number text, frames⟩

/-- The characters that may follow a value inside an array or object. -/
def IsDelimiter (c : Char) : Prop := c = ',' ∨ c = ']' ∨ c = '\x7d'

theorem push?_delimiter (text : NumberText) {c : Char} (hc : IsDelimiter c) :
    text.push? c = none := by
  unfold NumberText.push?
  rcases hc with rfl | rfl | rfl <;> cases text.part <;> simp

theorem Reads.step_delimiter {frames : List Frame} {value : Json} {state : State}
    (h : Reads frames value state) (rules : Rules) {c : Char} (hc : IsDelimiter c) :
    step rules state c = afterValue value frames c := by
  have hblank : isBlank c = false := by rcases hc with rfl | rfl | rfl <;> rfl
  cases h with
  | after => simp [step, hblank]
  | number complete holds => simp [step, push?_delimiter _ hc, complete, holds, hblank]

theorem Reads.finish_eq {value : Json} {state : State} (h : Reads [] value state) :
    finish state = .ok value := by
  cases h with
  | after => rfl
  | number complete holds => simp [finish, State.settle, complete, holds]

/-! ### The characters of numerals -/

/-- The characters that numerals are written with. -/
def isNumeralChar (c : Char) : Bool := c.isDigit || c = '-' || c = '+' || c = '.' || c = 'e'

theorem isNumeralChar_of_isDigit {c : Char} (h : c.isDigit = true) : isNumeralChar c = true := by
  simp [isNumeralChar, h]

theorem isDigit_of_mem_digitChars {n : Nat} {c : Char} (h : c ∈ Number.digitChars n) :
    c.isDigit = true :=
  Nat.isDigit_of_mem_toDigits (by decide) (by decide) h

private theorem isDigit_of_mem_replicate {n : Nat} {c : Char} (h : c ∈ List.replicate n '0') :
    c.isDigit = true := by
  rw [(List.mem_replicate.1 h).2]
  rfl

private theorem isNumeralChar_of_mem_positionalText {digits : List Char}
    (hdigits : ∀ c ∈ digits, c.isDigit = true) {layout : Number.Layout} {exponent : Int} {c : Char}
    (h : c ∈ Number.positionalText layout digits exponent) : isNumeralChar c = true := by
  unfold Number.positionalText at h
  simp only at h
  split at h
  · simp only [List.append_assoc, List.mem_append] at h
    rcases h with h | h | h
    · exact isNumeralChar_of_isDigit (hdigits c h)
    · exact isNumeralChar_of_isDigit (isDigit_of_mem_replicate h)
    · split at h
      · simp only [List.mem_cons, List.not_mem_nil, or_false] at h
        rcases h with rfl | rfl <;> rfl
      · simp at h
  · split at h
    · simp only [List.mem_append, List.mem_cons] at h
      rcases h with h | rfl | h
      · exact isNumeralChar_of_isDigit (hdigits c (List.mem_of_mem_take h))
      · rfl
      · exact isNumeralChar_of_isDigit (hdigits c (List.mem_of_mem_drop h))
    · simp only [List.cons_append, List.mem_cons, List.mem_append] at h
      rcases h with rfl | rfl | h | h
      · rfl
      · rfl
      · exact isNumeralChar_of_isDigit (isDigit_of_mem_replicate h)
      · exact isNumeralChar_of_isDigit (hdigits c h)

private theorem isNumeralChar_of_mem_exponentText {digits : List Char}
    (hdigits : ∀ c ∈ digits, c.isDigit = true) {exponent : Int} {c : Char}
    (h : c ∈ Number.exponentText digits exponent) : isNumeralChar c = true := by
  unfold Number.exponentText at h
  simp only [List.mem_append, List.mem_cons] at h
  rcases h with h | rfl | rfl | h
  · split at h
    · rename_i first second rest
      simp only [List.mem_cons] at h
      rcases h with rfl | rfl | h
      · exact isNumeralChar_of_isDigit (hdigits _ (by simp))
      · rfl
      · exact isNumeralChar_of_isDigit (hdigits c (by simp [h]))
    · exact isNumeralChar_of_isDigit (hdigits c h)
  · rfl
  · split <;> rfl
  · exact isNumeralChar_of_isDigit (isDigit_of_mem_digitChars h)

private theorem isNumeralChar_of_mem_magnitudeText {layout : Number.Layout} {units : Nat} {c : Char}
    (h : c ∈ Number.magnitudeText layout units) : isNumeralChar c = true := by
  unfold Number.magnitudeText at h
  simp only at h
  split at h
  · exact isNumeralChar_of_mem_positionalText (by simp) h
  · split at h
    · split at h
      · exact isNumeralChar_of_mem_positionalText (fun c hc => isDigit_of_mem_digitChars hc) h
      · exact isNumeralChar_of_mem_exponentText (fun c hc => isDigit_of_mem_digitChars hc) h
    · split at h
      · exact isNumeralChar_of_mem_positionalText (fun c hc => isDigit_of_mem_digitChars hc) h
      · exact isNumeralChar_of_mem_exponentText (fun c hc => isDigit_of_mem_digitChars hc) h

theorem isNumeralChar_of_mem_numeralChars {numeral : Numeral} {c : Char}
    (h : c ∈ numeralChars numeral) : isNumeralChar c = true := by
  cases numeral with
  | integer value =>
      simp only [numeralChars, integerChars] at h
      split at h
      · rcases List.mem_cons.1 h with rfl | h
        · rfl
        · exact isNumeralChar_of_isDigit (isDigit_of_mem_digitChars h)
      · exact isNumeralChar_of_isDigit (isDigit_of_mem_digitChars h)
  | binary value =>
      simp only [numeralChars, Number.Finite.chars] at h
      split at h
      · rcases List.mem_cons.1 h with rfl | h
        · rfl
        · exact isNumeralChar_of_mem_magnitudeText h
      · exact isNumeralChar_of_mem_magnitudeText h

private theorem positionalText_ne_nil (digits : List Char) (exponent : Int) :
    Number.positionalText .json digits exponent ≠ [] := by
  unfold Number.positionalText
  simp only
  split
  · simp [Number.Layout.json]
  · split
    · simp
    · simp

private theorem magnitudeText_ne_nil (units : Nat) : Number.magnitudeText .json units ≠ [] := by
  have hexponent : ∀ digits exponent, Number.exponentText digits exponent ≠ [] := by
    intro digits exponent
    simp [Number.exponentText]
  unfold Number.magnitudeText
  split
  · exact positionalText_ne_nil _ _
  · simp only
    split
    · split
      · exact positionalText_ne_nil _ _
      · exact hexponent _ _
    · split
      · exact positionalText_ne_nil _ _
      · exact hexponent _ _

theorem numeralChars_ne_nil (numeral : Numeral) : numeralChars numeral ≠ [] := by
  cases numeral with
  | integer value =>
      have hdigits : Number.digitChars value.natAbs ≠ [] := Nat.toDigits_ne_nil
      rw [numeralChars, integerChars]
      split
      · simp
      · exact hdigits
  | binary value =>
      rw [numeralChars, Number.Finite.chars]
      split
      · simp
      · exact magnitudeText_ne_nil value.units

/-! ### Reading numerals -/

private theorem not_delimiter_of_isNumeralChar {c : Char} (h : isNumeralChar c = true)
    (value : Json) (frames : List Frame) : afterValue value frames c = none := by
  have hc : c ≠ ',' ∧ c ≠ ']' ∧ c ≠ '\x7d' := by
    refine ⟨?_, ?_, ?_⟩ <;> (rintro rfl; exact absurd h (by decide))
  unfold afterValue
  split <;> simp_all

theorem isBlank_of_isNumeralChar {c : Char} (h : isNumeralChar c = true) :
    isBlank c = false := by
  have hc : c ≠ ' ' ∧ c ≠ '\n' ∧ c ≠ '\r' ∧ c ≠ '\t' := by
    refine ⟨?_, ?_, ?_, ?_⟩ <;> (rintro rfl; exact absurd h (by decide))
  simp [isBlank, hc]

/-- A number goes on through characters of numerals, or it does not, whatever arrays and objects are
around it. -/
theorem run_number_cases {chars : List Char} (hchars : ∀ c ∈ chars, isNumeralChar c = true)
    (text : NumberText) :
    (∃ longer : NumberText, ∀ rules frames,
        run rules ⟨.number text, frames⟩ chars = .ok ⟨.number longer, frames⟩) ∨
      ∀ rules frames state, rules.skims frames = false →
        run rules ⟨.number text, frames⟩ chars ≠ .ok state := by
  induction chars generalizing text with
  | nil => exact .inl ⟨text, fun _ _ => rfl⟩
  | cons c rest ih =>
      have hc := hchars c (by simp)
      have hrest : ∀ c ∈ rest, isNumeralChar c = true := fun d hd => hchars d (by simp [hd])
      cases hpush : text.push? c with
      | none =>
          refine .inr fun rules frames state hskims h => ?_
          have hstep : step rules ⟨.number text, frames⟩ c = none := by
            cases hnumeral : text.numeral? <;>
              simp [step, hpush, hnumeral, hskims, isBlank_of_isNumeralChar hc,
                not_delimiter_of_isNumeralChar hc]
          rw [run, hstep] at h
          cases h
      | some longer =>
          have hrun : ∀ rules frames, run rules ⟨.number text, frames⟩ (c :: rest)
              = run rules ⟨.number longer, frames⟩ rest := by
            intro rules frames
            simp [run, step, hpush]
          simp only [hrun]
          exact ih hrest longer

theorem beginValue_number {c : Char} (hc : isNumeralChar c = true) :
    (∀ rules frames, beginValue rules frames c = none) ∨
      ∃ text : NumberText, ∀ rules frames,
        beginValue rules frames c = some ⟨.number text, frames⟩ := by
  by_cases hminus : c = '-'
  · subst hminus
    exact .inr ⟨.start true, fun _ _ => rfl⟩
  · have hne : c ≠ 'n' ∧ c ≠ 't' ∧ c ≠ 'f' ∧ c ≠ '"' ∧ c ≠ '[' ∧ c ≠ '\x7b' := by
      refine ⟨?_, ?_, ?_, ?_, ?_, ?_⟩ <;> (rintro rfl; exact absurd hc (by decide))
    obtain ⟨hn, ht, hf, hquote, hbracket, hbrace⟩ := hne
    have hbegin : ∀ rules frames, beginValue rules frames c
        = ((NumberText.start false).push? c).map fun text => ⟨.number text, frames⟩ := by
      intro rules frames
      unfold beginValue
      split <;> first | contradiction | rfl
    cases hpush : (NumberText.start false).push? c with
    | none => exact .inl fun rules frames => by simp [hbegin, hpush]
    | some text => exact .inr ⟨text, fun rules frames => by simp [hbegin, hpush]⟩

private theorem settle_number_eq {raw : Json} {numeral : Numeral}
    (h : raw.settle = .number numeral) : raw = .number numeral := by
  cases raw <;> simp_all [settle]

/-- A numeral is read as some number, or it is not read, whatever arrays and objects are around it. -/
theorem run_numeral_cases (numeral : Numeral) :
    (∃ text : NumberText, ∀ rules frames,
        run rules ⟨.value, frames⟩ (numeralChars numeral) = .ok ⟨.number text, frames⟩) ∨
      ∀ rules frames state, rules.skims frames = false →
        run rules ⟨.value, frames⟩ (numeralChars numeral) ≠ .ok state := by
  have hchars : ∀ c ∈ numeralChars numeral, isNumeralChar c = true :=
    fun c hc => isNumeralChar_of_mem_numeralChars hc
  cases hlist : numeralChars numeral with
  | nil => exact absurd hlist (numeralChars_ne_nil numeral)
  | cons c rest =>
      rw [hlist] at hchars
      have hc := hchars c (List.mem_cons_self ..)
      have hfirst : ∀ rules frames, step rules ⟨.value, frames⟩ c = beginValue rules frames c := by
        intro rules frames
        simp [step, isBlank_of_isNumeralChar hc]
      rcases beginValue_number hc with hnone | ⟨text, htext⟩
      · refine .inr fun rules frames state _ h => ?_
        rw [run, hfirst, hnone] at h
        cases h
      · rcases run_number_cases (fun d hd => hchars d (List.mem_cons_of_mem _ hd)) text with
          ⟨longer, hlonger⟩ | hfails
        · refine .inl ⟨longer, fun rules frames => ?_⟩
          rw [run, hfirst, htext]
          exact hlonger rules frames
        · refine .inr fun rules frames state hskims h => ?_
          rw [run, hfirst, htext] at h
          exact hfails rules frames state hskims h

/-- Reading the text of a numeral leaves the machine right after a numeral, inside any arrays and
objects. -/
def NumeralReads (numeral found : Numeral) : Prop :=
  ∀ rules frames, ∃ state, Reads frames (.number found) state ∧
    run rules ⟨.value, frames⟩ (numeralChars numeral) = .ok state

end Json

/-- The numeral is read back from its own text. -/
def Numeral.Legible (numeral : Numeral) : Prop :=
  Json.read (Json.number numeral).text = .ok (.number numeral)

/-- What is read from the text of a numeral, if anything is. -/
def Numeral.reread? (numeral : Numeral) : Option Numeral :=
  match Json.read (Json.number numeral).text with
  | .ok (.number found) => some found
  | _ => none

theorem Numeral.reread?_eq_some_iff {numeral found : Numeral} :
    numeral.reread? = some found ↔
      Json.read (Json.number numeral).text = .ok (.number found) := by
  unfold Numeral.reread?
  split
  · rename_i heq
    rw [heq]
    simp
  · rename_i hother
    constructor
    · intro h
      cases h
    · intro h
      exact absurd h (hother found)

namespace Json

/-- A text is read if its value is, with each name of an object kept once. -/
theorem read_eq_ok_iff {text : String} {json : Json} :
    read text = .ok json ↔ ∃ raw, readRaw textRules text = .ok raw ∧ raw.settle = json := by
  rw [read, show (⟨nestingLimit, none⟩ : Rules) = textRules from rfl]
  cases readRaw textRules text with
  | error stop => simp
  | ok raw => simp

private theorem readRaw_numeral (rules : Rules) (numeral : Numeral) :
    readRaw rules (Json.number numeral).text
      = (run rules ⟨.value, []⟩ (numeralChars numeral)).bind finish := by
  rw [readRaw, text, String.toList_ofList]
  rfl

/-- A numeral is read as the same numeral anywhere as on its own. -/
theorem numeralReads_iff {numeral found : Numeral} :
    NumeralReads numeral found ↔ numeral.reread? = some found := by
  rw [Numeral.reread?_eq_some_iff, read_eq_ok_iff]
  constructor
  · intro h
    obtain ⟨state, hreads, hrun⟩ := h textRules []
    refine ⟨.number found, ?_, rfl⟩
    rw [readRaw_numeral, hrun]
    exact hreads.finish_eq
  · intro h
    obtain ⟨raw, hraw, hsettle⟩ := h
    rw [settle_number_eq hsettle, readRaw_numeral] at hraw
    obtain ⟨text, htext⟩ | hfails := run_numeral_cases numeral
    · rw [htext] at hraw
      have hfinish : finish ⟨.number text, []⟩ = .ok (.number found) := hraw
      have hcomplete : text.isComplete = true ∧ text.numeral? = some found := by
        cases hcomplete : text.isComplete with
        | false => simp [finish, State.settle, hcomplete] at hfinish
        | true =>
            cases hnumeral : text.numeral? with
            | none => simp [finish, State.settle, hcomplete, hnumeral] at hfinish
            | some other =>
                simp only [finish, State.settle, hcomplete, if_true, hnumeral] at hfinish
                cases hfinish
                exact ⟨rfl, rfl⟩
      exact fun rules frames => ⟨_, .number hcomplete.1 hcomplete.2, htext rules frames⟩
    · cases hrun : run textRules ⟨.value, []⟩ (numeralChars numeral) with
      | error stop =>
          rw [hrun] at hraw
          cases hraw
      | ok state => exact absurd hrun (hfails textRules [] state rfl)

/-! ### Integers -/

private theorem accumulate_eq {digits : List Char} {acc : Nat}
    (h : Nat.ofDigitChars 10 digits acc < 1 <<< 64) :
    accumulate acc digits = (Nat.ofDigitChars 10 digits acc, digits.length) := by
  induction digits generalizing acc with
  | nil => simp [accumulate]
  | cons c rest ih =>
      rw [Nat.ofDigitChars_cons] at h ⊢
      have hle : 10 * acc + (c.toNat - '0'.toNat)
          ≤ Nat.ofDigitChars 10 rest (10 * acc + (c.toNat - '0'.toNat)) := by
        rw [Nat.ofDigitChars_eq_ofDigitChars_zero]
        exact Nat.le_trans (Nat.le_mul_of_pos_left _ (Nat.pow_pos (by decide)))
          (Nat.le_add_right _ _)
      have hlt : 10 * acc + (c.toNat - '0'.toNat) < 1 <<< 64 := Nat.lt_of_le_of_lt hle h
      rw [accumulate, if_pos hlt, ih h]
      simp

private theorem head_digitChars_ne_zero {n : Nat} (h : 0 < n) :
    ∃ c rest, Number.digitChars n = c :: rest ∧ c ≠ '0' := by
  unfold Number.digitChars
  induction n using Nat.base_induction 10 (by decide) with
  | single m hm =>
      rw [Nat.toDigits_of_lt_base hm]
      exact ⟨_, [], rfl, by simp; omega⟩
  | digit m k hk hm ih =>
      obtain ⟨c, rest, hlist, hc⟩ := ih hm
      rw [← Nat.toDigits_append_toDigits (by decide) hm hk, hlist]
      exact ⟨c, _, rfl, hc⟩

/-- The state of a number after the digits of its whole part. -/
private def wholeText (negative : Bool) (digits : List Char) : NumberText :=
  ⟨if digits = ['0'] then .zero else .whole, negative, digits.reverse, [], false, []⟩

private theorem run_whole {digits read : List Char} (hdigits : ∀ c ∈ digits, c.isDigit = true)
    (negative : Bool) (rules : Rules) (frames : List Frame) :
    run rules ⟨.number ⟨.whole, negative, read, [], false, []⟩, frames⟩ digits
      = .ok ⟨.number ⟨.whole, negative, digits.reverse ++ read, [], false, []⟩, frames⟩ := by
  induction digits generalizing read with
  | nil => rfl
  | cons c rest ih =>
      have hc := hdigits c (by simp)
      have hstep : step rules ⟨.number ⟨.whole, negative, read, [], false, []⟩, frames⟩ c
          = some ⟨.number ⟨.whole, negative, c :: read, [], false, []⟩, frames⟩ := by
        simp [step, NumberText.push?, hc]
      rw [run, hstep]
      simp only
      rw [ih (fun d hd => hdigits d (by simp [hd]))]
      simp

private theorem run_digitChars (n : Nat) (negative : Bool) :
    ∃ c rest text, Number.digitChars n = c :: rest ∧ c.isDigit = true ∧
      (NumberText.start negative).push? c = some text ∧
      ∀ rules frames, run rules ⟨.number text, frames⟩ rest
        = .ok ⟨.number (wholeText negative (Number.digitChars n)), frames⟩ := by
  rcases Nat.eq_zero_or_pos n with rfl | hpos
  · exact ⟨'0', [], ⟨.zero, negative, ['0'], [], false, []⟩, rfl, rfl, rfl, fun _ _ => rfl⟩
  · obtain ⟨c, rest, hlist, hc⟩ := head_digitChars_ne_zero hpos
    have hdigits : ∀ d ∈ c :: rest, d.isDigit = true :=
      fun d hd => isDigit_of_mem_digitChars (hlist ▸ hd)
    have hdigit : c.isDigit = true := hdigits c (by simp)
    refine ⟨c, rest, ⟨.whole, negative, [c], [], false, []⟩, hlist, hdigit, ?_, fun rules frames => ?_⟩
    · simp [NumberText.push?, NumberText.start, hc, hdigit]
    · rw [run_whole (fun d hd => hdigits d (by simp [hd])), hlist]
      simp [wholeText, hc]

private theorem wholeText_isComplete (negative : Bool) (digits : List Char) :
    (wholeText negative digits).isComplete = true := by
  unfold wholeText NumberText.isComplete
  split <;> simp_all <;> split at * <;> simp_all

private theorem numeral?_wholeText {n : Nat} (hn : n < 1 <<< 64) (negative : Bool)
    (hsign : negative = true → 0 < n ∧ n ≤ 1 <<< 63) :
    (wholeText negative (Number.digitChars n)).numeral?
      = some (.integer (if negative then -(n : Int) else n)) := by
  have haccumulate : accumulate 0 (Number.digitChars n) = (n, (Number.digitChars n).length) := by
    have hvalue : Nat.ofDigitChars 10 (Number.digitChars n) 0 = n :=
      Nat.ofDigitChars_toDigits (by decide) (by decide)
    rw [accumulate_eq (by rw [hvalue]; exact hn), hvalue]
  have hbare : ((wholeText negative (Number.digitChars n)).part = .zero ||
      (wholeText negative (Number.digitChars n)).part = .whole) = true := by
    unfold wholeText
    split <;> simp
  unfold NumberText.numeral?
  simp only [hbare]
  rw [show (wholeText negative (Number.digitChars n)).whole.reverse = Number.digitChars n by
    simp [wholeText]]
  rw [haccumulate]
  cases negative with
  | false => simp [wholeText]
  | true =>
      obtain ⟨hpos, hle⟩ := hsign rfl
      simp [wholeText, hpos]
      exact hle

end Json

/-- The integers that 64 bits hold, with or without a sign. -/
def Numeral.Fits : Numeral → Prop
  | .integer value => -(1 <<< 63 : Nat) ≤ value ∧ value < (1 <<< 64 : Nat)
  | .binary _ => True

namespace Json

theorem numeralReads_integer {value : Int} (h : (Numeral.integer value).Fits) :
    NumeralReads (.integer value) (.integer value) := by
  obtain ⟨hlow, hhigh⟩ := h
  intro rules frames
  by_cases hneg : value < 0
  · obtain ⟨c, rest, text, hlist, hdigit, hpush, hrun⟩ := run_digitChars value.natAbs true
    refine ⟨⟨.number (wholeText true (Number.digitChars value.natAbs)), frames⟩,
      .number (wholeText_isComplete _ _) ?_, ?_⟩
    · rw [numeral?_wholeText (by omega) true (fun _ => by omega)]
      simp only [if_true, Option.some.injEq, Numeral.integer.injEq]
      omega
    · simp only [numeralChars, integerChars, if_pos hneg, hlist, run]
      simp only [step, isBlank, beginValue, Char.reduceEq, decide_false, Bool.or_self,
        Bool.false_eq_true, if_false, hpush]
      rw [← hlist]
      exact hrun rules frames
  · obtain ⟨c, rest, text, hlist, hdigit, hpush, hrun⟩ := run_digitChars value.natAbs false
    refine ⟨⟨.number (wholeText false (Number.digitChars value.natAbs)), frames⟩,
      .number (wholeText_isComplete _ _) ?_, ?_⟩
    · rw [numeral?_wholeText (by omega) false (fun h => absurd h (by decide))]
      simp only [Bool.false_eq_true, if_false, Option.some.injEq, Numeral.integer.injEq]
      omega
    · have hc : isNumeralChar c = true := isNumeralChar_of_isDigit hdigit
      have hminus : c ≠ '-' := by rintro rfl; exact absurd hdigit (by decide)
      have hbegin : step rules ⟨.value, frames⟩ c = some ⟨.number text, frames⟩ := by
        have hne : c ≠ 'n' ∧ c ≠ 't' ∧ c ≠ 'f' ∧ c ≠ '"' ∧ c ≠ '[' ∧ c ≠ '\x7b' := by
          refine ⟨?_, ?_, ?_, ?_, ?_, ?_⟩ <;> (rintro rfl; exact absurd hc (by decide))
        simp only [step, isBlank_of_isNumeralChar hc, Bool.false_eq_true, if_false]
        unfold beginValue
        split <;> simp_all
      simp only [numeralChars, integerChars, if_neg hneg, hlist, run, hbegin]
      rw [← hlist]
      exact hrun rules frames

end Json

end TypedCollections
