import TypedCollections.Proofs.Entries
import TypedCollections.Proofs.Json.Numerals
/-!
# Reading printed JSON

Printing a tree and reading the text gives the tree with every numeral read again. The induction is
on the tree, with the arrays and objects around it arbitrary: after the text of a value the machine
stands right after that value, whatever is open. What is asked of the tree is that it nests within
the reader's limit. If it also names no member of an object twice and its numerals are read back, the
tree itself is read.
-/

namespace TypedCollections

namespace Json

mutual

/-- No object names a member twice, and integers fit into 64 bits. -/
def WellFormed : Json → Prop
  | .number value => value.Fits
  | .array items => WellFormedList items
  | .object members => Entries.Distinct members ∧ WellFormedMembers members
  | _ => True

/-- Every item is well-formed. -/
def WellFormedList : List Json → Prop
  | [] => True
  | item :: rest => WellFormed item ∧ WellFormedList rest

/-- Every member's value is well-formed. -/
def WellFormedMembers : List (String × Json) → Prop
  | [] => True
  | (_, value) :: rest => WellFormed value ∧ WellFormedMembers rest

end

mutual

/-- The binary numbers are read back from their digits. -/
def Legible : Json → Prop
  | .number (.binary value) => (Numeral.binary value).Legible
  | .array items => LegibleList items
  | .object members => LegibleMembers members
  | _ => True

/-- Every item is legible. -/
def LegibleList : List Json → Prop
  | [] => True
  | item :: rest => Legible item ∧ LegibleList rest

/-- Every member's value is legible. -/
def LegibleMembers : List (String × Json) → Prop
  | [] => True
  | (_, value) :: rest => Legible value ∧ LegibleMembers rest

end

mutual

/-- The tree with every numeral read again, if each of them is read. -/
def reread? : Json → Option Json
  | .number numeral => numeral.reread?.map .number
  | .array items => (rereadList? items).map .array
  | .object members => (rereadMembers? members).map .object
  | other => some other

def rereadList? : List Json → Option (List Json)
  | [] => some []
  | item :: rest => (reread? item).bind fun found => (rereadList? rest).map (found :: ·)

def rereadMembers? : List (String × Json) → Option (List (String × Json))
  | [] => some []
  | (name, value) :: rest =>
      (reread? value).bind fun found => (rereadMembers? rest).map ((name, found) :: ·)

end

theorem rereadList?_cons_eq_some_iff {item : Json} {rest found : List Json} :
    rereadList? (item :: rest) = some found ↔
      ∃ item' rest', item.reread? = some item' ∧ rereadList? rest = some rest' ∧
        found = item' :: rest' := by
  simp only [rereadList?, Option.bind_eq_some_iff, Option.map_eq_some_iff]
  grind

theorem rereadMembers?_cons_eq_some_iff {name : String} {value : Json}
    {rest found : List (String × Json)} :
    rereadMembers? ((name, value) :: rest) = some found ↔
      ∃ value' rest', value.reread? = some value' ∧ rereadMembers? rest = some rest' ∧
        found = (name, value') :: rest' := by
  simp only [rereadMembers?, Option.bind_eq_some_iff, Option.map_eq_some_iff]
  grind

theorem wellFormedList_iff {items : List Json} :
    WellFormedList items ↔ ∀ item ∈ items, item.WellFormed := by
  induction items with
  | nil => simp [WellFormedList]
  | cons item rest ih => simp [WellFormedList, ih]

theorem wellFormedMembers_iff {members : List (String × Json)} :
    WellFormedMembers members ↔ ∀ member ∈ members, member.2.WellFormed := by
  induction members with
  | nil => simp [WellFormedMembers]
  | cons member rest ih =>
      obtain ⟨name, value⟩ := member
      simp [WellFormedMembers, ih]

theorem legibleList_iff {items : List Json} :
    LegibleList items ↔ ∀ item ∈ items, item.Legible := by
  induction items with
  | nil => simp [LegibleList]
  | cons item rest ih => simp [LegibleList, ih]

theorem legibleMembers_iff {members : List (String × Json)} :
    LegibleMembers members ↔ ∀ member ∈ members, member.2.Legible := by
  induction members with
  | nil => simp [LegibleMembers]
  | cons member rest ih =>
      obtain ⟨name, value⟩ := member
      simp [LegibleMembers, ih]

theorem depthList_le_iff {items : List Json} {limit : Nat} :
    depthList items ≤ limit ↔ ∀ item ∈ items, item.depth ≤ limit := by
  induction items with
  | nil => simp [depthList]
  | cons item rest ih => rw [depthList, Nat.max_le, ih, List.forall_mem_cons]

theorem depthMembers_le_iff {members : List (String × Json)} {limit : Nat} :
    depthMembers members ≤ limit ↔ ∀ member ∈ members, member.2.depth ≤ limit := by
  induction members with
  | nil => simp [depthMembers]
  | cons member rest ih =>
      obtain ⟨name, value⟩ := member
      rw [depthMembers, Nat.max_le, ih, List.forall_mem_cons]

/-! ### Settling -/

mutual

theorem settle_eq_self : ∀ {json : Json}, json.WellFormed → json.settle = json
  | .null, _ => rfl
  | .bool _, _ => rfl
  | .number _, _ => rfl
  | .string _, _ => rfl
  | .array items, h => by rw [settle, settleList_eq_self h]
  | .object members, h => by rw [settle, settleMembers_eq_self h.2, Entries.ofList_eq_self h.1]

theorem settleList_eq_self : ∀ {items : List Json}, WellFormedList items → settleList items = items
  | [], _ => rfl
  | item :: rest, h => by rw [settleList, settle_eq_self h.1, settleList_eq_self h.2]

theorem settleMembers_eq_self : ∀ {members : List (String × Json)}, WellFormedMembers members →
    settleMembers members = members
  | [], _ => rfl
  | (name, value) :: rest, h => by
      rw [settleMembers, settle_eq_self h.1, settleMembers_eq_self h.2]

end

/-! ### Strings -/

private theorem hexValue?_hexDigit : ∀ n < 16, hexValue? (hexDigit n) = some n := by decide

private theorem utf8Size_hexDigit : ∀ n < 16, (hexDigit n).utf8Size = 1 := by decide

private theorem run_control {c : Char} (hc : c.toNat < 32) (isName : Bool) (read : List Char)
    (rules : Rules) (frames : List Frame) :
    run rules ⟨.string isName read .none, frames⟩
        ['\\', 'u', '0', '0', hexDigit (c.toNat / 16), hexDigit (c.toNat % 16)]
      = .ok ⟨.string isName (c :: read) .none, frames⟩ := by
  have hhigh := hexValue?_hexDigit (c.toNat / 16) (by omega)
  have hlow := hexValue?_hexDigit (c.toNat % 16) (by omega)
  have hhighSize := utf8Size_hexDigit (c.toNat / 16) (by omega)
  have hlowSize := utf8Size_hexDigit (c.toNat % 16) (by omega)
  have hcode : 16 * (c.toNat / 16) + c.toNat % 16 = c.toNat := by omega
  have hzero : hexValue? '0' = some 0 := by decide
  have hzeroSize : '0'.utf8Size = 1 := by decide
  have hbelow : ¬ (0xDC00 ≤ c.toNat ∧ c.toNat ≤ 0xDFFF) := by omega
  have hbelow' : ¬ (0xD800 ≤ c.toNat ∧ c.toNat ≤ 0xDBFF) := by omega
  simp only [run, step, stepString, Char.reduceEq, if_false, if_true, hzero, hzeroSize, hhigh, hlow,
    hhighSize, hlowSize, Option.bind_some, Option.map_some, Nat.reduceAdd, Nat.reduceLT,
    Nat.mul_zero, Nat.add_zero, Nat.zero_add, endDigits, hcode, if_neg hbelow, if_neg hbelow',
    Char.ofNat_toNat, ite_self]

private theorem run_escape (c : Char) (isName : Bool) (read : List Char) (rules : Rules)
    (frames : List Frame) :
    run rules ⟨.string isName read .none, frames⟩ (escape c)
      = .ok ⟨.string isName (c :: read) .none, frames⟩ := by
  unfold escape
  split
  case h_8 hquote hbackslash hline hreturn htab hback hfeed =>
    split
    · rename_i hcontrol
      exact run_control hcontrol isName read rules frames
    · rename_i hcontrol
      have hquote : c ≠ '"' := hquote
      have hbackslash : c ≠ '\\' := hbackslash
      simp [run, step, stepString, hquote, hbackslash, hcontrol]
  all_goals simp [run, step, stepString, unescape?]

private theorem run_escapes (chars : List Char) (isName : Bool) (read : List Char) (rules : Rules)
    (frames : List Frame) :
    run rules ⟨.string isName read .none, frames⟩ (chars.flatMap escape)
      = .ok ⟨.string isName (chars.reverse ++ read) .none, frames⟩ := by
  induction chars generalizing read with
  | nil => rfl
  | cons c rest ih =>
      rw [List.flatMap_cons, run_append, run_escape]
      simp only [Except.bind]
      rw [ih]
      simp

theorem run_quoted (text : String) (isName : Bool) (rules : Rules) (frames : List Frame)
    (rest : List Char) :
    run rules ⟨.string isName [] .none, frames⟩ (text.toList.flatMap escape ++ '"' :: rest)
      = (endString isName text frames).elim
          (.error ⟨.malformed, ⟨.string isName text.toList.reverse .none, frames⟩⟩)
          fun next => run rules next rest := by
  rw [run_append, run_escapes]
  simp only [Except.bind, List.append_nil, run, step, stepString, if_true, List.reverse_reverse,
    String.ofList_toList]
  cases endString isName text frames <;> rfl

/-! ### Trees -/

mutual

/-- A tree whose numerals are read back is read back as a whole. -/
theorem reread?_eq_self : ∀ {json : Json}, json.WellFormed → json.Legible → json.reread? = some json
  | .null, _, _ => rfl
  | .bool _, _, _ => rfl
  | .number (.integer value), hwell, _ => by
      rw [reread?, numeralReads_iff.1 (numeralReads_integer hwell)]
      rfl
  | .number (.binary value), _, hlegible => by
      rw [reread?, Numeral.reread?_eq_some_iff.2 hlegible]
      rfl
  | .string _, _, _ => rfl
  | .array items, hwell, hlegible => by
      rw [reread?, rereadList?_eq_self hwell hlegible]
      rfl
  | .object members, hwell, hlegible => by
      rw [reread?, rereadMembers?_eq_self hwell.2 hlegible]
      rfl

theorem rereadList?_eq_self : ∀ {items : List Json}, WellFormedList items → LegibleList items →
    rereadList? items = some items
  | [], _, _ => rfl
  | item :: rest, hwell, hlegible => by
      rw [rereadList?, reread?_eq_self hwell.1 hlegible.1, rereadList?_eq_self hwell.2 hlegible.2]
      rfl

theorem rereadMembers?_eq_self : ∀ {members : List (String × Json)}, WellFormedMembers members →
    LegibleMembers members → rereadMembers? members = some members
  | [], _, _ => rfl
  | (name, value) :: rest, hwell, hlegible => by
      rw [rereadMembers?, reread?_eq_self hwell.1 hlegible.1,
        rereadMembers?_eq_self hwell.2 hlegible.2]
      rfl

end

theorem names_of_rereadMembers? {members found : List (String × Json)}
    (h : rereadMembers? members = some found) : Entries.names found = Entries.names members := by
  induction members generalizing found with
  | nil =>
      cases h
      rfl
  | cons member rest ih =>
      obtain ⟨name, value⟩ := member
      obtain ⟨value', rest', -, hrest, rfl⟩ := rereadMembers?_cons_eq_some_iff.1 h
      exact congrArg (name :: ·) (ih hrest)

mutual

/-- Numerals that are read again name no member twice. -/
theorem settle_of_reread? : ∀ {json raw : Json}, json.WellFormed → json.reread? = some raw →
    raw.settle = raw
  | .null, _, _, h => by
      cases h
      rfl
  | .bool _, _, _, h => by
      cases h
      rfl
  | .number _, _, _, h => by
      obtain ⟨numeral, -, rfl⟩ := Option.map_eq_some_iff.1 h
      rfl
  | .string _, _, _, h => by
      cases h
      rfl
  | .array _, _, hwell, h => by
      obtain ⟨items, hitems, rfl⟩ := Option.map_eq_some_iff.1 h
      rw [settle, settleList_of_rereadList? hwell hitems]
  | .object _, _, hwell, h => by
      obtain ⟨members, hmembers, rfl⟩ := Option.map_eq_some_iff.1 h
      have hdistinct : Entries.Distinct members := by
        rw [Entries.Distinct, names_of_rereadMembers? hmembers]
        exact hwell.1
      rw [settle, settleMembers_of_rereadMembers? hwell.2 hmembers, Entries.ofList_eq_self hdistinct]

theorem settleList_of_rereadList? : ∀ {items raw : List Json}, WellFormedList items →
    rereadList? items = some raw → settleList raw = raw
  | [], _, _, h => by
      cases h
      rfl
  | _ :: _, _, hwell, h => by
      obtain ⟨item, rest, hitem, hrest, rfl⟩ := rereadList?_cons_eq_some_iff.1 h
      rw [settleList, settle_of_reread? hwell.1 hitem, settleList_of_rereadList? hwell.2 hrest]

theorem settleMembers_of_rereadMembers? : ∀ {members raw : List (String × Json)},
    WellFormedMembers members → rereadMembers? members = some raw → settleMembers raw = raw
  | [], _, _, h => by
      cases h
      rfl
  | (_, _) :: _, _, hwell, h => by
      obtain ⟨value, rest, hvalue, hrest, rfl⟩ := rereadMembers?_cons_eq_some_iff.1 h
      rw [settleMembers, settle_of_reread? hwell.1 hvalue,
        settleMembers_of_rereadMembers? hwell.2 hrest]

end

mutual

/-- What is read again as itself has legible numbers. -/
theorem legible_of_reread? : ∀ {json : Json}, json.reread? = some json → json.Legible
  | .null, _ => trivial
  | .bool _, _ => trivial
  | .number (.integer _), _ => trivial
  | .number (.binary _), h => by
      obtain ⟨numeral, hnumeral, heq⟩ := Option.map_eq_some_iff.1 h
      cases heq
      exact Numeral.reread?_eq_some_iff.1 hnumeral
  | .string _, _ => trivial
  | .array _, h => by
      obtain ⟨items, hitems, heq⟩ := Option.map_eq_some_iff.1 h
      cases heq
      exact legibleList_of_rereadList? hitems
  | .object _, h => by
      obtain ⟨members, hmembers, heq⟩ := Option.map_eq_some_iff.1 h
      cases heq
      exact legibleMembers_of_rereadMembers? hmembers

theorem legibleList_of_rereadList? : ∀ {items : List Json}, rereadList? items = some items →
    LegibleList items
  | [], _ => trivial
  | _ :: _, h => by
      obtain ⟨item, rest, hitem, hrest, heq⟩ := rereadList?_cons_eq_some_iff.1 h
      cases heq
      exact ⟨legible_of_reread? hitem, legibleList_of_rereadList? hrest⟩

theorem legibleMembers_of_rereadMembers? : ∀ {members : List (String × Json)},
    rereadMembers? members = some members → LegibleMembers members
  | [], _ => trivial
  | (_, _) :: _, h => by
      obtain ⟨value, rest, hvalue, hrest, heq⟩ := rereadMembers?_cons_eq_some_iff.1 h
      cases heq
      exact ⟨legible_of_reread? hvalue, legibleMembers_of_rereadMembers? hrest⟩

end

/-- A tree is read again as itself exactly if its numbers are read back. -/
theorem reread?_settle_iff {json : Json} (h : json.WellFormed) :
    (∃ raw, json.reread? = some raw ∧ raw.settle = json) ↔ json.Legible := by
  constructor
  · rintro ⟨raw, hraw, hsettle⟩
    rw [settle_of_reread? h hraw] at hsettle
    exact legible_of_reread? (hsettle ▸ hraw)
  · intro hlegible
    exact ⟨json, reread?_eq_self h hlegible, settle_eq_self h⟩

/-- The text of a value starts with a character that is neither blank nor the end of an array. -/
theorem head_chars {json : Json} {c : Char} {rest : List Char} (h : chars json = c :: rest) :
    isBlank c = false ∧ c ≠ ']' := by
  have hcons : ∀ {d : Char} {tail : List Char}, d :: tail = c :: rest →
      isBlank d = false ∧ d ≠ ']' → isBlank c = false ∧ c ≠ ']' := by
    intro d tail heq hd
    cases heq
    exact hd
  cases json with
  | null => exact hcons h (by decide)
  | bool value => cases value <;> exact hcons h (by decide)
  | number numeral =>
      have hc : isNumeralChar c = true :=
        isNumeralChar_of_mem_numeralChars (by rw [← chars, h]; simp)
      refine ⟨isBlank_of_isNumeralChar hc, ?_⟩
      rintro rfl
      exact absurd hc (by decide)
  | string value => exact hcons h (by decide)
  | array items => cases items <;> exact hcons h (by decide)
  | object members => cases members <;> exact hcons h (by decide)

theorem chars_ne_nil (json : Json) : chars json ≠ [] := by
  cases json with
  | null => simp [chars]
  | bool value => cases value <;> simp [chars]
  | number numeral => exact numeralChars_ne_nil numeral
  | string value => simp [chars, quote]
  | array items => cases items <;> simp [chars]
  | object members => cases members <;> simp [chars]

/-- The first item of an array is read as any value is. -/
theorem run_firstItem_iff {json : Json} {rules : Rules} {frames : List Frame} {rest : List Char}
    {state : State} :
    run rules ⟨.firstItem, frames⟩ (chars json ++ rest) = .ok state ↔
      run rules ⟨.value, frames⟩ (chars json ++ rest) = .ok state := by
  cases hlist : chars json with
  | nil => exact absurd hlist (chars_ne_nil json)
  | cons c tail =>
      obtain ⟨hblank, hend⟩ := head_chars hlist
      have hstep : step rules ⟨.firstItem, frames⟩ c = step rules ⟨.value, frames⟩ c := by
        simp [step, hblank, hend]
      rw [List.cons_append, run, run, hstep]
      cases step rules ⟨.value, frames⟩ c with
      | none => simp
      | some next => exact Iff.rfl

theorem run_delimiter {frames : List Frame} {value : Json} {state next : State}
    (hreads : Reads frames value state) (rules : Rules) {c : Char} (hc : IsDelimiter c)
    (hafter : afterValue value frames c = some next) (rest : List Char) :
    run rules state (c :: rest) = run rules next rest := by
  rw [run, hreads.step_delimiter rules hc, hafter]

theorem run_name (name : String) (before : List (String × Json)) (rules : Rules)
    (frames : List Frame) {mode : Mode} (hmode : mode = .firstName ∨ mode = .nextName)
    (rest : List Char) :
    run rules ⟨mode, .names before :: frames⟩ (quote name ++ ':' :: rest)
      = run rules ⟨.value, .member before name :: frames⟩ rest := by
  have hquote : step rules ⟨mode, .names before :: frames⟩ '"'
      = some ⟨.string true [] .none, .names before :: frames⟩ := by
    rcases hmode with rfl | rfl <;> rfl
  rw [quote, List.cons_append, List.append_assoc, run, hquote]
  simp only [List.singleton_append]
  rw [run_quoted]
  simp [endString, run, step, isBlank]

section

variable {rules : Rules}

mutual

-- The induction follows the printer. The reader may end in either of two states after a number, so
-- the statements are about every state that reads the same at the next delimiter.
theorem run_chars : ∀ (json : Json) {found : Json} (frames : List Frame),
    json.reread? = some found → frames.length + json.depth ≤ rules.nesting →
    ∃ state, Reads frames found state ∧ run rules ⟨.value, frames⟩ (chars json) = .ok state
  | .null, _, frames, hfound, _ => by
      cases hfound
      exact ⟨⟨.after .null, frames⟩, .after _, rfl⟩
  | .bool true, _, frames, hfound, _ => by
      cases hfound
      exact ⟨⟨.after (.bool true), frames⟩, .after _, rfl⟩
  | .bool false, _, frames, hfound, _ => by
      cases hfound
      exact ⟨⟨.after (.bool false), frames⟩, .after _, rfl⟩
  | .number numeral, _, frames, hfound, _ => by
      obtain ⟨numeral', hnumeral, rfl⟩ := Option.map_eq_some_iff.1 hfound
      exact numeralReads_iff.2 hnumeral rules frames
  | .string value, _, frames, hfound, _ => by
      cases hfound
      refine ⟨⟨.after (.string value), frames⟩, .after _, ?_⟩
      have hstep : step rules ⟨.value, frames⟩ '"' = some ⟨.string false [] .none, frames⟩ := rfl
      rw [chars, quote, run, hstep]
      simp only
      rw [run_quoted]
      rfl
  | .array [], _, frames, hfound, hdepth => by
      cases hfound
      refine ⟨⟨.after (.array []), frames⟩, .after _, ?_⟩
      have hopen : frames.length < rules.nesting := by
        simp only [depth, depthList] at hdepth
        omega
      simp [chars, run, step, beginValue, isBlank, State.openFrame, hopen]
  | .array (item :: rest), _, frames, hfound, hdepth => by
      simp only [depth, depthList] at hdepth
      obtain ⟨items, hitems, rfl⟩ := Option.map_eq_some_iff.1 hfound
      obtain ⟨item', rest', hitem, hrest, rfl⟩ := rereadList?_cons_eq_some_iff.1 hitems
      have hopen : step rules ⟨.value, frames⟩ '[' = some ⟨.firstItem, .items [] :: frames⟩ := by
        have : frames.length < rules.nesting := by omega
        simp [step, beginValue, isBlank, State.openFrame, this]
      obtain ⟨state, hreads, hrun⟩ := run_chars item (.items [] :: frames) hitem
        (by simp only [List.length_cons]; omega)
      refine ⟨_, .after _, ?_⟩
      rw [chars, run, hopen]
      simp only
      have hfirst : run rules ⟨.firstItem, .items [] :: frames⟩ (chars item ++ []) = .ok state := by
        rw [run_firstItem_iff, List.append_nil]
        exact hrun
      rw [List.append_nil] at hfirst
      rw [run_append, hfirst]
      exact run_moreItems rest [] item' frames state hreads hrest (by omega)
  | .object [], _, frames, hfound, hdepth => by
      cases hfound
      refine ⟨⟨.after (.object []), frames⟩, .after _, ?_⟩
      have hopen : frames.length < rules.nesting := by
        simp only [depth, depthMembers] at hdepth
        omega
      simp [chars, run, step, beginValue, isBlank, State.openFrame, hopen]
  | .object ((name, value) :: rest), _, frames, hfound, hdepth => by
      simp only [depth, depthMembers] at hdepth
      obtain ⟨members, hmembers, rfl⟩ := Option.map_eq_some_iff.1 hfound
      obtain ⟨value', rest', hvalue, hrest, rfl⟩ := rereadMembers?_cons_eq_some_iff.1 hmembers
      have hopen : step rules ⟨.value, frames⟩ '\x7b' = some ⟨.firstName, .names [] :: frames⟩ := by
        have : frames.length < rules.nesting := by omega
        simp [step, beginValue, isBlank, State.openFrame, this]
      obtain ⟨state, hreads, hrun⟩ := run_chars value (.member [] name :: frames) hvalue
        (by simp only [List.length_cons]; omega)
      refine ⟨_, .after _, ?_⟩
      rw [chars, run, hopen]
      simp only
      rw [run_name name [] rules frames (.inl rfl), run_append, hrun]
      exact run_moreMembers rest [] name value' frames state hreads hrest (by omega)

theorem run_moreItems : ∀ (items : List Json) {found : List Json} (before : List Json) (item : Json)
    (frames : List Frame) (state : State), Reads (.items before :: frames) item state →
    rereadList? items = some found → frames.length + 1 + depthList items ≤ rules.nesting →
    run rules state (moreItems items)
      = .ok ⟨.after (.array (before.reverse ++ item :: found)), frames⟩
  | [], _, before, item, frames, state, hreads, hfound, _ => by
      cases hfound
      rw [moreItems, run_delimiter hreads rules (.inr (.inl rfl)) rfl]
      simp [run]
  | next :: rest, _, before, item, frames, state, hreads, hfound, hdepth => by
      simp only [depthList] at hdepth
      obtain ⟨next', rest', hnext, hrest, rfl⟩ := rereadList?_cons_eq_some_iff.1 hfound
      obtain ⟨state', hreads', hrun⟩ := run_chars next (.items (item :: before) :: frames) hnext
        (by simp only [List.length_cons]; omega)
      rw [moreItems, run_delimiter hreads rules (.inl rfl) rfl, run_append, hrun]
      simp only [Except.bind]
      rw [run_moreItems rest (item :: before) next' frames state' hreads' hrest (by omega)]
      simp

theorem run_moreMembers : ∀ (members : List (String × Json)) {found : List (String × Json)}
    (before : List (String × Json)) (name : String) (value : Json) (frames : List Frame)
    (state : State), Reads (.member before name :: frames) value state →
    rereadMembers? members = some found →
    frames.length + 1 + depthMembers members ≤ rules.nesting →
    run rules state (moreMembers members)
      = .ok ⟨.after (.object (before.reverse ++ (name, value) :: found)), frames⟩
  | [], _, before, name, value, frames, state, hreads, hfound, _ => by
      cases hfound
      rw [moreMembers, run_delimiter hreads rules (.inr (.inr rfl)) rfl]
      simp [run]
  | (name', next) :: rest, _, before, name, value, frames, state, hreads, hfound, hdepth => by
      simp only [depthMembers] at hdepth
      obtain ⟨next', rest', hnext, hrest, rfl⟩ := rereadMembers?_cons_eq_some_iff.1 hfound
      obtain ⟨state', hreads', hrun⟩ := run_chars next
        (.member ((name, value) :: before) name' :: frames) hnext
        (by simp only [List.length_cons]; omega)
      rw [moreMembers, run_delimiter hreads rules (.inl rfl) rfl,
        run_name name' ((name, value) :: before) rules frames (.inr rfl), run_append, hrun]
      simp only [Except.bind]
      rw [run_moreMembers rest ((name, value) :: before) name' next' frames state' hreads' hrest
        (by omega)]
      simp

end

end

/-- What is read from the text of a tree is the tree with its numerals read again, whatever else is
skimmed. -/
theorem readRaw_text_of_reread? {json found : Json} (rules : Rules) (hfound : json.reread? = some found)
    (hdepth : json.depth ≤ rules.nesting) : readRaw rules json.text = .ok found := by
  obtain ⟨state, hreads, hrun⟩ := run_chars json [] hfound (by simpa using hdepth)
  rw [readRaw, text, String.toList_ofList]
  show (run rules ⟨.value, []⟩ (chars json)).bind finish = _
  rw [hrun]
  exact hreads.finish_eq

/-- Reading inverts printing, whatever else is skimmed. -/
theorem readRaw_text {json : Json} (rules : Rules) (hwell : json.WellFormed)
    (hlegible : json.Legible) (hdepth : json.depth ≤ rules.nesting) :
    readRaw rules json.text = .ok json :=
  readRaw_text_of_reread? rules (reread?_eq_self hwell hlegible) hdepth

theorem read_text {json : Json} (hwell : json.WellFormed) (hlegible : json.Legible)
    (hdepth : json.depth ≤ nestingLimit) : read json.text = .ok json := by
  apply read_eq_ok_iff.2
  exact ⟨json, readRaw_text textRules hwell hlegible hdepth, settle_eq_self hwell⟩

end Json

end TypedCollections
