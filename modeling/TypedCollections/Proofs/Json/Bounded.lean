import TypedCollections.Proofs.Except
import TypedCollections.Proofs.Json.ReadBack
/-!
# Bounds on what is read

Whatever text a reader gets through, the value nests within the limit and its integers fit into 64
bits. Both are invariants of the machine: what the open arrays and objects hold leaves room for them,
one level for each. Settling the repeated names of such a value makes it well-formed and does not
nest it more deeply.
-/

namespace TypedCollections

namespace Json

mutual

/-- Integers fit into 64 bits. -/
def Sized : Json → Prop
  | .number value => value.Fits
  | .array items => SizedList items
  | .object members => SizedMembers members
  | _ => True

/-- Every item is sized. -/
def SizedList : List Json → Prop
  | [] => True
  | item :: rest => Sized item ∧ SizedList rest

/-- Every member's value is sized. -/
def SizedMembers : List (String × Json) → Prop
  | [] => True
  | (_, value) :: rest => Sized value ∧ SizedMembers rest

end

theorem sizedList_iff {items : List Json} : SizedList items ↔ ∀ item ∈ items, item.Sized := by
  induction items with
  | nil => simp [SizedList]
  | cons item rest ih => simp [SizedList, ih]

theorem sizedMembers_iff {members : List (String × Json)} :
    SizedMembers members ↔ ∀ member ∈ members, member.2.Sized := by
  induction members with
  | nil => simp [SizedMembers]
  | cons member rest ih =>
      obtain ⟨name, value⟩ := member
      simp [SizedMembers, ih]

/-! ### Settling -/

mutual

theorem wellFormed_settle : ∀ {json : Json}, json.Sized → json.settle.WellFormed
  | .null, _ => trivial
  | .bool _, _ => trivial
  | .number _, h => h
  | .string _, _ => trivial
  | .array items, h => by
      rw [settle]
      exact wellFormedList_settle h
  | .object members, h => by
      rw [settle]
      refine ⟨Entries.distinct_ofList _, wellFormedMembers_iff.2 fun member hmem => ?_⟩
      exact wellFormed_of_mem_settle h member (Entries.mem_of_mem_ofList hmem)

theorem wellFormedList_settle : ∀ {items : List Json}, SizedList items →
    WellFormedList (settleList items)
  | [], _ => trivial
  | _ :: _, h => ⟨wellFormed_settle h.1, wellFormedList_settle h.2⟩

theorem wellFormed_of_mem_settle : ∀ {members : List (String × Json)}, SizedMembers members →
    ∀ member ∈ settleMembers members, member.2.WellFormed
  | [], _, member, hmem => by cases hmem
  | (name, value) :: rest, h, member, hmem => by
      rcases List.mem_cons.1 hmem with rfl | hmem
      · exact wellFormed_settle h.1
      · exact wellFormed_of_mem_settle h.2 member hmem

end

mutual

theorem depth_settle_le : ∀ (json : Json), json.settle.depth ≤ json.depth
  | .null => Nat.le_refl _
  | .bool _ => Nat.le_refl _
  | .number _ => Nat.le_refl _
  | .string _ => Nat.le_refl _
  | .array items => by
      rw [settle, depth, depth]
      exact Nat.succ_le_succ (depthList_settle_le items)
  | .object members => by
      rw [settle, depth, depth]
      refine Nat.succ_le_succ (depthMembers_le_iff.2 fun member hmem => ?_)
      exact depth_le_of_mem_settle members member (Entries.mem_of_mem_ofList hmem)

theorem depthList_settle_le : ∀ (items : List Json), depthList (settleList items) ≤ depthList items
  | [] => Nat.le_refl _
  | item :: rest => by
      rw [settleList, depthList, depthList]
      have hitem := depth_settle_le item
      have hrest := depthList_settle_le rest
      omega

theorem depth_le_of_mem_settle : ∀ (members : List (String × Json)),
    ∀ member ∈ settleMembers members, member.2.depth ≤ depthMembers members
  | [], member, hmem => by cases hmem
  | (name, value) :: rest, member, hmem => by
      rw [depthMembers]
      rcases List.mem_cons.1 hmem with rfl | hmem
      · exact Nat.le_trans (depth_settle_le value) (Nat.le_max_left ..)
      · exact Nat.le_trans (depth_le_of_mem_settle rest member hmem) (Nat.le_max_right ..)

end

/-! ### Numerals -/

private theorem accumulate_lt {acc : Nat} {digits : List Char} (h : acc < 1 <<< 64) :
    (accumulate acc digits).1 < 1 <<< 64 := by
  induction digits generalizing acc with
  | nil => exact h
  | cons c rest ih =>
      rw [accumulate]
      simp only
      split
      · rename_i hnext
        exact ih hnext
      · exact h

/-- A number that is read as an integer fits into 64 bits. -/
theorem fits_of_numeral? {text : NumberText} {numeral : Numeral}
    (h : text.numeral? = some numeral) :
    numeral.Fits := by
  have hintegral : (accumulate 0 text.whole.reverse).1 < 1 <<< 64 := accumulate_lt (by decide)
  have hlow : (1 <<< 63 : Nat) = 2 ^ 63 := rfl
  have hhigh : (1 <<< 64 : Nat) = 2 ^ 64 := rfl
  unfold NumberText.numeral? at h
  simp only at h
  split at h
  · cases h
    rw [Numeral.Fits]
    omega
  · split at h
    · rename_i hnegative
      simp only [Bool.and_eq_true, decide_eq_true_eq] at hnegative
      cases h
      rw [Numeral.Fits]
      omega
    · obtain ⟨value, -, rfl⟩ := Option.map_eq_some_iff.1 h
      trivial

/-! ### The machine -/

/-- A value inside as many open arrays and objects nests within the limit, and is sized. -/
structure Within (opened : Nat) (json : Json) : Prop where
  nests : opened + json.depth ≤ nestingLimit
  sized : json.Sized

/-- The values that an open array or object holds. -/
def Frame.held : Frame → List Json
  | .items before => before
  | .names before => before.map Prod.snd
  | .member before _ => before.map Prod.snd

/-- The open arrays and objects nest within the limit, and so do the values they hold. -/
def Sound : List Frame → Prop
  | [] => True
  | frame :: outer => outer.length < nestingLimit ∧
      (∀ value ∈ frame.held, Within (outer.length + 1) value) ∧ Sound outer

/-- The value that is read, as far as it is known, leaves room for what is open. -/
def Mode.Sound (opened : Nat) : Mode → Prop
  | .after json => Within opened json
  | .word _ json => Within opened json
  | _ => True

/-- What the machine has read nests within the limit and is sized. -/
structure State.Sound (state : State) : Prop where
  frames : Json.Sound state.frames
  mode : state.mode.Sound state.frames.length

variable {frames : List Frame} {c : Char} {next : State}

theorem Sound.length_le (h : Sound frames) : frames.length ≤ nestingLimit := by
  cases frames with
  | nil => exact Nat.zero_le _
  | cons frame outer => exact h.1

/-- A value without arrays and objects leaves room for everything that may be open. -/
theorem Sound.within (h : Sound frames) {json : Json} (hdepth : json.depth = 0)
    (hsized : json.Sized) :
    Within frames.length json := by
  refine ⟨?_, hsized⟩
  rw [hdepth]
  exact h.length_le

private theorem sound_openFrame {mode : Mode} {frame : Frame} (h : Sound frames)
    (hmode : ∀ opened, mode.Sound opened) (hheld : frame.held = [])
    (hnext : State.openFrame textRules mode frame frames = some next) : next.Sound := by
  unfold State.openFrame at hnext
  split at hnext
  · rename_i hopen
    cases hnext
    rw [show textRules.skims frames = false from rfl, Bool.or_false, decide_eq_true_eq] at hopen
    refine ⟨⟨hopen, ?_, h⟩, hmode _⟩
    rw [hheld]
    simp
  · cases hnext

private theorem sound_beginValue (h : Sound frames)
    (hnext : beginValue textRules frames c = some next) : next.Sound := by
  unfold beginValue at hnext
  split at hnext
  · cases hnext
    exact ⟨h, h.within rfl trivial⟩
  · cases hnext
    exact ⟨h, h.within rfl trivial⟩
  · cases hnext
    exact ⟨h, h.within rfl trivial⟩
  · cases hnext
    exact ⟨h, trivial⟩
  · refine sound_openFrame h ?_ rfl hnext
    exact fun _ => trivial
  · refine sound_openFrame h ?_ rfl hnext
    exact fun _ => trivial
  · cases hnext
    exact ⟨h, trivial⟩
  · obtain ⟨text, -, rfl⟩ := Option.map_eq_some_iff.1 hnext
    exact ⟨h, trivial⟩

/-- An array that holds sound values is sound outside. -/
private theorem within_array {opened : Nat} {items : List Json} (hopen : opened < nestingLimit)
    (h : ∀ item ∈ items, Within (opened + 1) item) : Within opened (.array items) := by
  refine ⟨?_, sizedList_iff.2 fun item hmem => (h item hmem).sized⟩
  have hdepth : depthList items ≤ nestingLimit - (opened + 1) := by
    apply depthList_le_iff.2
    intro item hmem
    have := (h item hmem).nests
    omega
  rw [depth]
  omega

private theorem within_object {opened : Nat} {members : List (String × Json)}
    (hopen : opened < nestingLimit) (h : ∀ member ∈ members, Within (opened + 1) member.2) :
    Within opened (.object members) := by
  refine ⟨?_, sizedMembers_iff.2 fun member hmem => (h member hmem).sized⟩
  have hdepth : depthMembers members ≤ nestingLimit - (opened + 1) := by
    apply depthMembers_le_iff.2
    intro member hmem
    have := (h member hmem).nests
    omega
  rw [depth]
  omega

private theorem sound_afterValue {value : Json} (h : Sound frames)
    (hvalue : Within frames.length value) (hnext : afterValue value frames c = some next) :
    next.Sound := by
  unfold afterValue at hnext
  split at hnext
  · cases hnext
    exact ⟨⟨h.1, List.forall_mem_cons.2 ⟨hvalue, h.2.1⟩, h.2.2⟩, trivial⟩
  · cases hnext
    refine ⟨h.2.2, within_array h.1 fun item hmem => ?_⟩
    rcases List.mem_cons.1 (List.mem_reverse.1 hmem) with rfl | hmem
    · exact hvalue
    · exact h.2.1 item hmem
  · cases hnext
    exact ⟨⟨h.1, List.forall_mem_cons.2 ⟨hvalue, h.2.1⟩, h.2.2⟩, trivial⟩
  · cases hnext
    refine ⟨h.2.2, within_object h.1 fun member hmem => ?_⟩
    rcases List.mem_cons.1 (List.mem_reverse.1 hmem) with rfl | hmem
    · exact hvalue
    · exact h.2.1 member.2 (List.mem_map_of_mem hmem)
  · cases hnext

private theorem sound_endString {isName : Bool} {text : String} (h : Sound frames)
    (hnext : endString isName text frames = some next) : next.Sound := by
  unfold endString at hnext
  split at hnext
  · split at hnext
    · cases hnext
      exact ⟨h, trivial⟩
    · cases hnext
  · cases hnext
    exact ⟨h, h.within rfl trivial⟩

private theorem sound_endDigits {skims isName : Bool} {read : List Char} {high : Option Nat}
    {code : Nat} (h : Sound frames)
    (hnext : endDigits skims isName read frames high code = some next) : next.Sound := by
  unfold endDigits at hnext
  split at hnext
  · split at hnext
    · cases hnext
      exact ⟨h, trivial⟩
    · split at hnext
      · cases hnext
      · split at hnext
        · cases hnext
          exact ⟨h, trivial⟩
        · cases hnext
          exact ⟨h, trivial⟩
  · split at hnext
    · cases hnext
      exact ⟨h, trivial⟩
    · cases hnext

private theorem sound_stepString {skims isName : Bool} {read : List Char} {escape : Escape}
    (h : Sound frames) (hnext : stepString skims isName read frames escape c = some next) :
    next.Sound := by
  unfold stepString at hnext
  split at hnext
  · split at hnext
    · exact sound_endString h hnext
    · split at hnext
      · cases hnext
        exact ⟨h, trivial⟩
      · split at hnext
        · cases hnext
        · cases hnext
          exact ⟨h, trivial⟩
  · split at hnext
    · cases hnext
      exact ⟨h, trivial⟩
    · obtain ⟨plain, -, rfl⟩ := Option.map_eq_some_iff.1 hnext
      exact ⟨h, trivial⟩
  · simp only at hnext
    split at hnext
    · cases hnext
      exact ⟨h, trivial⟩
    · obtain ⟨code, -, hdigits⟩ := Option.bind_eq_some_iff.1 hnext
      exact sound_endDigits h hdigits
  all_goals
    split at hnext
    · cases hnext
      exact ⟨h, trivial⟩
    · cases hnext

/-- An empty array or object ends where it began. -/
private theorem sound_close {json : Json} (h : Sound frames) (hdepth : json.depth = 1)
    (hsized : json.Sized) : State.Sound ⟨.after json, frames.tail⟩ := by
  cases frames with
  | nil =>
      have hroom : 0 + 1 ≤ nestingLimit := by decide
      exact ⟨trivial, hdepth ▸ hroom, hsized⟩
  | cons frame outer =>
      have hroom : outer.length + 1 ≤ nestingLimit := h.1
      exact ⟨h.2.2, hdepth ▸ hroom, hsized⟩

private theorem sound_blankOr {state : State} {other : Option State} (h : state.Sound)
    (hother : other = some next → next.Sound)
    (hnext : (if isBlank c then some state else other) = some next) : next.Sound := by
  split at hnext
  · cases hnext
    exact h
  · exact hother hnext

private theorem sound_quoteName (h : Sound frames)
    (hnext : (if c = '"' then some ⟨.string true [] .none, frames⟩ else none) = some next) :
    next.Sound := by
  split at hnext
  · cases hnext
    exact ⟨h, trivial⟩
  · cases hnext

/-- Every step keeps what was read within its bounds. -/
theorem State.Sound.step {state : State} (h : state.Sound)
    (hnext : Json.step textRules state c = some next) : next.Sound := by
  obtain ⟨mode, frames⟩ := state
  have hframes : Json.Sound frames := h.frames
  cases mode with
  | value => exact sound_blankOr h (sound_beginValue hframes) hnext
  | firstItem =>
      refine sound_blankOr h (fun hother => ?_) hnext
      split at hother
      · cases hother
        exact sound_close hframes rfl trivial
      · exact sound_beginValue hframes hother
  | firstName =>
      refine sound_blankOr h (fun hother => ?_) hnext
      split at hother
      · cases hother
        exact sound_close hframes rfl trivial
      · exact sound_quoteName hframes hother
  | nextName => exact sound_blankOr h (sound_quoteName hframes) hnext
  | colon =>
      refine sound_blankOr h (fun hother => ?_) hnext
      split at hother
      · cases hother
        exact ⟨hframes, trivial⟩
      · cases hother
  | after json => exact sound_blankOr h (sound_afterValue hframes h.mode) hnext
  | word left json =>
      have hjson : Within frames.length json := h.mode
      cases left with
      | nil => cases hnext
      | cons expected rest =>
          simp only [Json.step] at hnext
          split at hnext
          · cases hnext
          · split at hnext
            · cases hnext
              exact ⟨hframes, hjson⟩
            · cases hnext
              exact ⟨hframes, hjson⟩
  | number text =>
      simp only [Json.step] at hnext
      split at hnext
      · cases hnext
        exact ⟨hframes, trivial⟩
      · split at hnext
        · obtain ⟨numeral, hnumeral, hnext⟩ := Option.bind_eq_some_iff.1 hnext
          rw [show textRules.skims frames = false from rfl, if_neg Bool.false_ne_true,
            Option.or_none] at hnumeral
          have hwithin : Within frames.length (.number numeral) :=
            hframes.within rfl (fits_of_numeral? hnumeral)
          split at hnext
          · cases hnext
            exact ⟨hframes, hwithin⟩
          · exact sound_afterValue hframes hwithin hnext
        · cases hnext
  | string isName read escape => exact sound_stepString hframes hnext

/-- So does every run. -/
theorem State.Sound.run {state final : State} {chars : List Char} (h : state.Sound)
    (hrun : Json.run textRules state chars = .ok final) : final.Sound := by
  induction chars generalizing state with
  | nil =>
      cases hrun
      exact h
  | cons c rest ih =>
      rw [Json.run] at hrun
      cases hnext : Json.step textRules state c with
      | none =>
          rw [hnext] at hrun
          cases hrun
      | some next =>
          rw [hnext] at hrun
          exact ih (h.step hnext) hrun

private theorem within_of_finish {state : State} {json : Json} (h : state.Sound)
    (hfinish : finish state = .ok json) : Within 0 json := by
  obtain ⟨mode, frames⟩ := state
  have hsettled : State.Sound (State.settle ⟨mode, frames⟩) := by
    unfold State.settle
    split
    · split
      · split
        · rename_i numeral hnumeral
          exact ⟨h.frames, h.frames.within rfl (fits_of_numeral? hnumeral)⟩
        · exact h
      · exact h
    · exact h
  unfold finish at hfinish
  simp only at hfinish
  split at hfinish
  · rename_i hmode hframes
    cases hfinish
    have hwithin := hsettled.mode
    rw [hmode, hframes] at hwithin
    exact hwithin
  · cases hfinish
  · cases hfinish

/-- What is read from a text nests within the limit, and its integers fit into 64 bits. -/
theorem bounded_of_readRaw {text : String} {raw : Json} (h : readRaw textRules text = .ok raw) :
    raw.depth ≤ nestingLimit ∧ raw.Sized := by
  obtain ⟨final, hrun, hfinish⟩ := bind_eq_ok_iff.1 h
  have hstart : State.start.Sound := ⟨trivial, trivial⟩
  obtain ⟨hnests, hsized⟩ := within_of_finish (hstart.run hrun) hfinish
  rw [Nat.zero_add] at hnests
  exact ⟨hnests, hsized⟩

/-- The value of a text is well-formed and nests within the limit. -/
theorem bounded_of_read {text : String} {json : Json} (h : read text = .ok json) :
    json.WellFormed ∧ json.depth ≤ nestingLimit := by
  obtain ⟨raw, hraw, rfl⟩ := read_eq_ok_iff.1 h
  obtain ⟨hdepth, hsized⟩ := bounded_of_readRaw hraw
  exact ⟨wellFormed_settle hsized, Nat.le_trans (depth_settle_le raw) hdepth⟩

end Json

end TypedCollections
