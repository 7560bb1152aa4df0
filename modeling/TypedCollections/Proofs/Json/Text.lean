import TypedCollections.Proofs.Json.ReadBack
/-!
# What a JSON text holds

Compact texts have no control characters.
-/

namespace TypedCollections

namespace Json

/-- No character is a control character. -/
def Visible (chars : List Char) : Prop := ∀ c ∈ chars, 32 ≤ c.toNat

instance (chars : List Char) : Decidable (Visible chars) :=
  List.decidableBAll (fun c : Char => 32 ≤ c.toNat) chars

private theorem visible_nil : Visible [] := by
  intro c hc
  cases hc

private theorem visible_cons {c : Char} {rest : List Char} (hc : 32 ≤ c.toNat)
    (hrest : Visible rest) : Visible (c :: rest) := by
  intro d hd
  rcases List.mem_cons.1 hd with rfl | hd
  · exact hc
  · exact hrest d hd

private theorem visible_append {front back : List Char} (hfront : Visible front)
    (hback : Visible back) : Visible (front ++ back) := by
  intro c hc
  rcases List.mem_append.1 hc with hc | hc
  · exact hfront c hc
  · exact hback c hc

private theorem le_hexDigit : ∀ n < 16, 32 ≤ (hexDigit n).toNat := by decide

private theorem visible_escape (c : Char) : Visible (escape c) := by
  have hpair : ∀ d : Char, 32 ≤ d.toNat → Visible ['\\', d] := fun d hd =>
    visible_cons (by decide) (visible_cons hd visible_nil)
  unfold escape
  split
  · exact hpair _ (by decide)
  · exact hpair _ (by decide)
  · exact hpair _ (by decide)
  · exact hpair _ (by decide)
  · exact hpair _ (by decide)
  · exact hpair _ (by decide)
  · exact hpair _ (by decide)
  · split
    · rename_i hcontrol
      have hdigits : Visible [hexDigit (c.toNat / 16), hexDigit (c.toNat % 16)] :=
        visible_cons (le_hexDigit _ (by omega)) (visible_cons (le_hexDigit _ (by omega)) visible_nil)
      exact visible_cons (by decide) (visible_cons (by decide) (visible_cons (by decide)
        (visible_cons (by decide) hdigits)))
    · rename_i hcontrol
      exact visible_cons (by omega) visible_nil

private theorem visible_quote (text : String) : Visible (quote text) := by
  refine visible_cons (by decide) (visible_append ?_ (visible_cons (by decide) visible_nil))
  intro d hd
  obtain ⟨c, -, hd⟩ := List.mem_flatMap.1 hd
  exact visible_escape c d hd

private theorem le_of_isNumeralChar {c : Char} (h : isNumeralChar c = true) : 32 ≤ c.toNat := by
  simp only [isNumeralChar, Bool.or_eq_true, decide_eq_true_eq] at h
  rcases h with (((h | rfl) | rfl) | rfl) | rfl
  · simp only [Char.isDigit, Bool.and_eq_true, decide_eq_true_eq] at h
    have hlow : 48 ≤ c.toNat := h.1
    omega
  · decide
  · decide
  · decide
  · decide

mutual

theorem visible_chars : ∀ json : Json, Visible (chars json)
  | .null => by
      rw [chars]
      decide
  | .bool true => by
      rw [chars]
      decide
  | .bool false => by
      rw [chars]
      decide
  | .number numeral => by
      rw [chars]
      exact fun c hc => le_of_isNumeralChar (isNumeralChar_of_mem_numeralChars hc)
  | .string value => by
      rw [chars]
      exact visible_quote value
  | .array [] => by
      rw [chars]
      decide
  | .array (item :: rest) => by
      rw [chars]
      exact visible_cons (by decide) (visible_append (visible_chars item) (visible_moreItems rest))
  | .object [] => by
      rw [chars]
      decide
  | .object ((name, value) :: rest) => by
      rw [chars]
      exact visible_cons (by decide) (visible_append (visible_quote name)
        (visible_cons (by decide) (visible_append (visible_chars value) (visible_moreMembers rest))))

theorem visible_moreItems : ∀ items : List Json, Visible (moreItems items)
  | [] => by
      rw [moreItems]
      decide
  | item :: rest => by
      rw [moreItems]
      exact visible_cons (by decide) (visible_append (visible_chars item) (visible_moreItems rest))

theorem visible_moreMembers : ∀ members : List (String × Json), Visible (moreMembers members)
  | [] => by
      rw [moreMembers]
      decide
  | (name, value) :: rest => by
      rw [moreMembers]
      exact visible_cons (by decide) (visible_append (visible_quote name)
        (visible_cons (by decide) (visible_append (visible_chars value) (visible_moreMembers rest))))

end

/-- The null character stands in no text. -/
theorem null_not_mem_text (json : Json) : '\x00' ∉ json.text.toList := by
  rw [text, String.toList_ofList]
  intro hmem
  have hvisible := visible_chars json _ hmem
  have hnull : '\x00'.toNat = 0 := rfl
  omega

end Json

end TypedCollections
