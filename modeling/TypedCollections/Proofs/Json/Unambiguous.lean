import TypedCollections.Proofs.Json.ReadBack
import TypedCollections.Proofs.Number.Text
/-!
# JSON texts are told apart

Different values have different texts. Since texts stand inside texts, the statement that is proved
is about texts with something behind them: where a value with its continuation reads like another
value with its continuation, the values are the same and so are the continuations. A number ends
where no character of one follows, and a string at the first quote that is not escaped.
-/

namespace TypedCollections

namespace Json

theorem integerChars_injective : Function.Injective integerChars := by
  have hminus : ∀ n : Nat, ∀ chars, Number.digitChars n ≠ '-' :: chars := by
    intro n chars h
    have hdigit := isDigit_of_mem_digitChars (h ▸ List.mem_cons_self ..)
    exact absurd hdigit (by decide)
  intro a b h
  have hvalue : Number.digitChars a.natAbs = Number.digitChars b.natAbs → a.natAbs = b.natAbs := by
    intro h
    rw [← Number.ofDigits_digitChars a.natAbs, h, Number.ofDigits_digitChars]
  unfold integerChars at h
  split at h <;> split at h
  · have := hvalue (List.cons.inj h).2
    omega
  · exact absurd h.symm (hminus _ _)
  · exact absurd h (hminus _ _)
  · have := hvalue h
    omega

private theorem integerChars_ne (value : Int) (binary : Number.Finite) :
    integerChars value ≠ binary.chars .json := by
  intro h
  obtain ⟨c, hmem, hc⟩ := @Number.exists_not_isDigit .json rfl binary.units
  have hinteger : c ∈ integerChars value := by
    rw [h, Number.Finite.chars]
    split
    · exact List.mem_cons_of_mem _ hmem
    · exact hmem
  have hdigit : c = '-' ∨ c.isDigit = true := by
    rw [integerChars] at hinteger
    split at hinteger
    · exact (List.mem_cons.1 hinteger).imp_right isDigit_of_mem_digitChars
    · exact .inr (isDigit_of_mem_digitChars hinteger)
  rcases hc with rfl | rfl <;> exact absurd hdigit (by decide)

theorem numeralChars_injective : Function.Injective numeralChars := by
  intro a b h
  cases a with
  | integer a =>
      cases b with
      | integer b => rw [integerChars_injective h]
      | binary b => exact absurd h (integerChars_ne a b)
  | binary a =>
      cases b with
      | integer b => exact absurd h.symm (integerChars_ne b a)
      | binary b => rw [Number.Finite.chars_injective .json h]

/-! ### Texts with something behind them -/

/-- No number goes on here. -/
def EndsNumber (rest : List Char) : Prop := ∀ c, rest.head? = some c → isNumeralChar c = false

theorem endsNumber_cons {c : Char} {rest : List Char} (hc : isNumeralChar c = false) :
    EndsNumber (c :: rest) := by
  intro d hd
  cases hd
  exact hc

private theorem endsNumber_moreItems (items : List Json) (rest : List Char) :
    EndsNumber (moreItems items ++ rest) := by
  cases items with
  | nil => exact endsNumber_cons (by decide)
  | cons item items => exact endsNumber_cons (by decide)

private theorem endsNumber_moreMembers (members : List (String × Json)) (rest : List Char) :
    EndsNumber (moreMembers members ++ rest) := by
  cases members with
  | nil => exact endsNumber_cons (by decide)
  | cons member members => exact endsNumber_cons (by decide)

variable {front back : List Char}

theorem numeralChars_append_inj {a b : Numeral} (hfront : EndsNumber front)
    (hback : EndsNumber back) (h : numeralChars a ++ front = numeralChars b ++ back) :
    a = b ∧ front = back := by
  have hchars : ∀ numeral : Numeral, ∀ c ∈ numeralChars numeral, isNumeralChar c = true :=
    fun numeral c hc => isNumeralChar_of_mem_numeralChars hc
  obtain ⟨htake, hdrop⟩ := Number.span_append (hchars a) hfront
  obtain ⟨htake', hdrop'⟩ := Number.span_append (hchars b) hback
  rw [h] at htake hdrop
  exact ⟨numeralChars_injective (htake.symm.trans htake'), hdrop.symm.trans hdrop'⟩

-- A name that is not due stops the reader at its closing quote, with the name gathered so far.
theorem quote_append_inj {a b : String} (h : quote a ++ front = quote b ++ back) :
    a = b ∧ front = back := by
  have hstop := fun text rest => run_quoted text true textRules [] rest
  have hread : a = b := by
    have ha := hstop a front
    have hb := hstop b back
    simp only [quote, List.cons_append, List.append_assoc, List.nil_append] at h
    rw [(List.cons.inj h).2, hb] at ha
    simp only [endString, if_true, Option.elim_none, Except.error.injEq, Stop.mk.injEq, State.mk.injEq,
      Mode.string.injEq, List.reverse_inj, true_and, and_true] at ha
    exact (String.toList_injective ha).symm
  subst hread
  exact ⟨rfl, List.append_cancel_left h⟩

/-- The first character of a value's text, with those of numbers taken as one and those of the truth
values as well. -/
def opening : Json → Char
  | .null => 'n'
  | .bool _ => 't'
  | .number _ => '0'
  | .string _ => '"'
  | .array _ => '['
  | .object _ => '\x7b'

theorem opening_eq {a b : Json} (h : chars a ++ front = chars b ++ back) :
    opening a = opening b := by
  have hopening : ∀ (json : Json) (rest : List Char), (chars json ++ rest).head?.map
      (fun c => if isNumeralChar c then '0' else if c = 'f' then 't' else c) = some json.opening := by
    intro json rest
    cases json with
    | null => rfl
    | bool value => cases value <;> rfl
    | number numeral =>
        cases hlist : numeralChars numeral with
        | nil => exact absurd hlist (numeralChars_ne_nil numeral)
        | cons c tail =>
            have hc : isNumeralChar c = true :=
              isNumeralChar_of_mem_numeralChars (hlist ▸ List.mem_cons_self ..)
            simp [chars, hlist, hc, opening]
    | string value => rfl
    | array items => cases items <;> rfl
    | object members => cases members <;> rfl
  have hhead := hopening a front
  rw [h, hopening b back] at hhead
  exact (Option.some.inj hhead).symm

private theorem chars_append_ne_end (json : Json) (rest : List Char) :
    chars json ++ rest ≠ ']' :: back := by
  intro h
  cases hlist : chars json with
  | nil => exact chars_ne_nil json hlist
  | cons c tail =>
      rw [hlist] at h
      exact (head_chars hlist).2 (List.cons.inj h).1

mutual

-- The first character tells what kind of value it is; the induction follows the printer.
theorem chars_append_inj : ∀ (a b : Json) {front back : List Char}, EndsNumber front →
    EndsNumber back → chars a ++ front = chars b ++ back → a = b ∧ front = back
  | .null, b, front, back, _, _, h => by
      cases b with
      | null => exact ⟨rfl, List.append_cancel_left h⟩
      | _ => exact absurd (opening_eq h) (by simp [opening])
  | .bool value, b, front, back, _, _, h => by
      cases b with
      | bool value' =>
          match value, value' with
          | true, true => exact ⟨rfl, List.append_cancel_left h⟩
          | false, false => exact ⟨rfl, List.append_cancel_left h⟩
          | true, false => simp [chars] at h
          | false, true => simp [chars] at h
      | _ => exact absurd (opening_eq h) (by simp [opening])
  | .number numeral, b, front, back, hfront, hback, h => by
      cases b with
      | number numeral' =>
          obtain ⟨rfl, hrest⟩ := numeralChars_append_inj hfront hback h
          exact ⟨rfl, hrest⟩
      | _ => exact absurd (opening_eq h) (by simp [opening])
  | .string value, b, front, back, _, _, h => by
      cases b with
      | string value' =>
          obtain ⟨rfl, hrest⟩ := quote_append_inj h
          exact ⟨rfl, hrest⟩
      | _ => exact absurd (opening_eq h) (by simp [opening])
  | .array items, b, front, back, _, _, h => by
      cases b with
      | array items' =>
          cases items with
          | nil =>
              cases items' with
              | nil => exact ⟨rfl, List.append_cancel_left h⟩
              | cons item' rest' =>
                  simp only [chars, List.cons_append, List.cons.injEq, true_and,
                    List.append_assoc, List.nil_append] at h
                  exact absurd h.symm (chars_append_ne_end item' _)
          | cons item rest =>
              cases items' with
              | nil =>
                  simp only [chars, List.cons_append, List.cons.injEq, true_and,
                    List.append_assoc, List.nil_append] at h
                  exact absurd h (chars_append_ne_end item _)
              | cons item' rest' =>
                  simp only [chars, List.cons_append, List.cons.injEq, true_and,
                    List.append_assoc] at h
                  obtain ⟨rfl, hmore⟩ := chars_append_inj item item' (endsNumber_moreItems _ _)
                    (endsNumber_moreItems _ _) h
                  obtain ⟨rfl, hback⟩ := moreItems_append_inj rest rest' hmore
                  exact ⟨rfl, hback⟩
      | _ => exact absurd (opening_eq h) (by simp [opening])
  | .object members, b, front, back, _, _, h => by
      cases b with
      | object members' =>
          match members, members' with
          | [], [] => exact ⟨rfl, List.append_cancel_left h⟩
          | [], _ :: _ => simp [chars, quote] at h
          | _ :: _, [] => simp [chars, quote] at h
          | (name, value) :: rest, (name', value') :: rest' =>
              simp only [chars, List.cons_append, List.cons.injEq, true_and,
                List.append_assoc] at h
              obtain ⟨rfl, hvalue⟩ := quote_append_inj h
              obtain ⟨rfl, hmore⟩ := chars_append_inj value value' (endsNumber_moreMembers _ _)
                (endsNumber_moreMembers _ _) (List.cons.inj hvalue).2
              obtain ⟨rfl, hback⟩ := moreMembers_append_inj rest rest' hmore
              exact ⟨rfl, hback⟩
      | _ => exact absurd (opening_eq h) (by simp [opening])

theorem moreItems_append_inj : ∀ (a b : List Json) {front back : List Char},
    moreItems a ++ front = moreItems b ++ back → a = b ∧ front = back
  | [], [], _, _, h => ⟨rfl, List.append_cancel_left h⟩
  | [], _ :: _, _, _, h => by simp [moreItems] at h
  | _ :: _, [], _, _, h => by simp [moreItems] at h
  | item :: rest, item' :: rest', _, _, h => by
      simp only [moreItems, List.cons_append, List.cons.injEq, true_and, List.append_assoc] at h
      obtain ⟨rfl, hmore⟩ := chars_append_inj item item' (endsNumber_moreItems _ _)
        (endsNumber_moreItems _ _) h
      obtain ⟨rfl, hback⟩ := moreItems_append_inj rest rest' hmore
      exact ⟨rfl, hback⟩

theorem moreMembers_append_inj : ∀ (a b : List (String × Json)) {front back : List Char},
    moreMembers a ++ front = moreMembers b ++ back → a = b ∧ front = back
  | [], [], _, _, h => ⟨rfl, List.append_cancel_left h⟩
  | [], _ :: _, _, _, h => by simp [moreMembers] at h
  | _ :: _, [], _, _, h => by simp [moreMembers] at h
  | (name, value) :: rest, (name', value') :: rest', _, _, h => by
      simp only [moreMembers, List.cons_append, List.cons.injEq, true_and, List.append_assoc] at h
      obtain ⟨rfl, hvalue⟩ := quote_append_inj h
      obtain ⟨rfl, hmore⟩ := chars_append_inj value value' (endsNumber_moreMembers _ _)
        (endsNumber_moreMembers _ _) (List.cons.inj hvalue).2
      obtain ⟨rfl, hback⟩ := moreMembers_append_inj rest rest' hmore
      exact ⟨rfl, hback⟩

end

/-- Values with the same text are the same value. -/
theorem text_inj {a b : Json} (h : a.text = b.text) : a = b := by
  have hend : EndsNumber [] := by
    intro c hc
    cases hc
  have hchars : chars a ++ [] = chars b ++ [] := by
    rw [List.append_nil, List.append_nil]
    exact String.ofList_injective h
  exact (chars_append_inj a b hend hend hchars).1

end Json

end TypedCollections
