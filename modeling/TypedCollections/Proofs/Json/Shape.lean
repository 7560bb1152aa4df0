import TypedCollections.Proofs.Except
import TypedCollections.Proofs.Json.ReadBack
/-!
# What is left of printed JSON

A text that was printed need not be read back: it may nest too deeply, and its numerals may come back
as other numerals. But these are the only reasons. Where the reader gets past a printed value and
skims nothing of it, the value nests within the limit and what was read is the value with its
numerals read again.
-/

namespace TypedCollections

namespace Json

private theorem exists_delimiter_of_moreItems (items : List Json) :
    ∃ c rest, moreItems items = c :: rest ∧ IsDelimiter c := by
  cases items with
  | nil => exact ⟨']', [], rfl, .inr (.inl rfl)⟩
  | cons item rest => exact ⟨',', _, rfl, .inl rfl⟩

private theorem exists_delimiter_of_moreMembers (members : List (String × Json)) :
    ∃ c rest, moreMembers members = c :: rest ∧ IsDelimiter c := by
  cases members with
  | nil => exact ⟨'\x7d', [], rfl, .inr (.inr rfl)⟩
  | cons member rest => exact ⟨',', _, rfl, .inl rfl⟩

/-- Nothing inside the open arrays and objects is skimmed. -/
def Rules.Attends (rules : Rules) (frames : List Frame) : Prop :=
  ∀ inner, rules.skims (inner ++ frames) = false

theorem attends_textRules (frames : List Frame) : textRules.Attends frames := fun _ => rfl

variable {rules : Rules} {frames : List Frame} {c : Char} {rest : List Char} {final : State}

theorem Rules.Attends.cons (h : rules.Attends frames) (frame : Frame) :
    rules.Attends (frame :: frames) := by
  intro inner
  rw [List.append_cons]
  exact h (inner ++ [frame])

theorem Rules.Attends.skims_eq (h : rules.Attends frames) : rules.skims frames = false := h []

private theorem run_of_step {state next : State} (hstep : step rules state c = some next)
    (h : run rules state (c :: rest) = .ok final) : run rules next rest = .ok final := by
  rw [run, hstep] at h
  exact h

/-- Where the reader gets past an opening bracket or brace, it has opened an array or object, and has
not reached its limit before. -/
private theorem run_of_openFrame {mode : Mode} {frame : Frame} (hskims : rules.skims frames = false)
    (hstep : step rules ⟨.value, frames⟩ c = State.openFrame rules mode frame frames)
    (h : run rules ⟨.value, frames⟩ (c :: rest) = .ok final) :
    frames.length < rules.nesting ∧ run rules ⟨mode, frame :: frames⟩ rest = .ok final := by
  rw [run, hstep, State.openFrame, hskims, Bool.or_false] at h
  by_cases hopen : frames.length < rules.nesting
  · rw [decide_eq_true hopen, if_pos rfl] at h
    exact ⟨hopen, h⟩
  · rw [decide_eq_false hopen, if_neg Bool.false_ne_true] at h
    cases h

/-- Where the reader gets past the text of a numeral, it has read the numeral again. -/
private theorem reads_of_number {numeral : Numeral} (hskims : rules.skims frames = false)
    (hc : IsDelimiter c)
    (h : run rules ⟨.value, frames⟩ (numeralChars numeral ++ c :: rest) = .ok final) :
    ∃ found state, numeral.reread? = some found ∧ Reads frames (.number found) state ∧
      run rules state (c :: rest) = .ok final := by
  rw [run_append] at h
  obtain ⟨state, hstate, h⟩ := bind_eq_ok_iff.1 h
  obtain ⟨text, htext⟩ | hfails := run_numeral_cases numeral
  · rw [htext] at hstate
    cases hstate
    -- The number ends at the delimiter only if it may end there.
    have hcomplete : text.isComplete = true ∧ ∃ found, text.numeral? = some found := by
      rw [run] at h
      simp only [step, push?_delimiter text hc] at h
      cases hcomplete : text.isComplete with
      | false => simp [hcomplete] at h
      | true =>
          cases hnumeral : text.numeral? with
          | none => simp [hcomplete, hnumeral, hskims] at h
          | some found => exact ⟨rfl, found, rfl⟩
    obtain ⟨hcomplete, found, hnumeral⟩ := hcomplete
    have hreads : NumeralReads numeral found :=
      fun rules frames => ⟨_, .number hcomplete hnumeral, htext rules frames⟩
    exact ⟨found, _, numeralReads_iff.1 hreads, .number hcomplete hnumeral, h⟩
  · exact absurd hstate (hfails rules frames state hskims)

mutual

-- The induction follows the printer, as that of reading back does, but from the reader's success.
theorem reads_of_run : ∀ (json : Json) {frames : List Frame} {c : Char} {rest : List Char},
    rules.Attends frames → frames.length ≤ rules.nesting → IsDelimiter c →
    run rules ⟨.value, frames⟩ (chars json ++ c :: rest) = .ok final →
    frames.length + json.depth ≤ rules.nesting ∧
      ∃ found state, json.reread? = some found ∧ Reads frames found state ∧
        run rules state (c :: rest) = .ok final
  | .null, _, _, _, _, hframes, _, h => ⟨hframes, _, _, rfl, .after .null, h⟩
  | .bool true, _, _, _, _, hframes, _, h => ⟨hframes, _, _, rfl, .after (.bool true), h⟩
  | .bool false, _, _, _, _, hframes, _, h => ⟨hframes, _, _, rfl, .after (.bool false), h⟩
  | .number numeral, _, _, _, hattends, hframes, hc, h => by
      obtain ⟨found, state, hfound, hreads, h⟩ := reads_of_number hattends.skims_eq hc h
      exact ⟨hframes, .number found, state, by rw [reread?, hfound]; rfl, hreads, h⟩
  | .string value, frames, c, rest, _, hframes, _, h => by
      refine ⟨hframes, _, _, rfl, .after (.string value), ?_⟩
      have hquote : step rules ⟨.value, frames⟩ '"' = some ⟨.string false [] .none, frames⟩ := rfl
      rw [chars, quote, List.cons_append] at h
      have h := run_of_step hquote h
      rw [List.append_assoc, List.singleton_append, run_quoted] at h
      exact h
  | .array [], frames, c, rest, hattends, hframes, _, h => by
      obtain ⟨hopen, h⟩ := run_of_openFrame hattends.skims_eq rfl h
      exact ⟨hopen, _, _, rfl, .after (.array []), run_of_step rfl h⟩
  | .array (item :: items), frames, c, rest, hattends, hframes, _, h => by
      rw [chars, List.cons_append] at h
      obtain ⟨hopen, h⟩ := run_of_openFrame hattends.skims_eq rfl h
      obtain ⟨d, tail, hmore, hd⟩ := exists_delimiter_of_moreItems items
      rw [List.append_assoc, run_firstItem_iff, hmore, List.cons_append] at h
      obtain ⟨hdepth, item', state, hitem, hreads, h⟩ :=
        reads_of_run item (hattends.cons _) hopen hd h
      rw [← List.cons_append, ← hmore] at h
      obtain ⟨hdepths, items', hitems, h⟩ := items_of_run items hattends hopen hreads h
      refine ⟨?_, .array (item' :: items'), _, ?_, .after _, h⟩
      · simp only [depth, depthList, List.length_cons] at hdepth ⊢
        omega
      · rw [reread?, rereadList?_cons_eq_some_iff.2 ⟨item', items', hitem, hitems, rfl⟩]
        rfl
  | .object [], frames, c, rest, hattends, hframes, _, h => by
      obtain ⟨hopen, h⟩ := run_of_openFrame hattends.skims_eq rfl h
      exact ⟨hopen, _, _, rfl, .after (.object []), run_of_step rfl h⟩
  | .object ((name, value) :: members), frames, c, rest, hattends, hframes, _, h => by
      rw [chars, List.cons_append] at h
      obtain ⟨hopen, h⟩ := run_of_openFrame hattends.skims_eq rfl h
      rw [List.append_assoc, List.cons_append, run_name name [] rules frames (.inl rfl)] at h
      obtain ⟨d, tail, hmore, hd⟩ := exists_delimiter_of_moreMembers members
      rw [List.append_assoc, hmore, List.cons_append] at h
      obtain ⟨hdepth, value', state, hvalue, hreads, h⟩ :=
        reads_of_run value (hattends.cons _) hopen hd h
      rw [← List.cons_append, ← hmore] at h
      obtain ⟨hdepths, members', hmembers, h⟩ :=
        members_of_run members (fun _ _ _ => hattends.cons _) hopen hreads h
      refine ⟨?_, .object ((name, value') :: members'), _, ?_, .after _, h⟩
      · simp only [depth, depthMembers, List.length_cons] at hdepth ⊢
        omega
      · rw [reread?, rereadMembers?_cons_eq_some_iff.2 ⟨value', members', hvalue, hmembers, rfl⟩]
        rfl

theorem items_of_run : ∀ (items : List Json) {before : List Json} {item : Json}
    {frames : List Frame} {state : State} {rest : List Char}, rules.Attends frames →
    frames.length < rules.nesting → Reads (.items before :: frames) item state →
    run rules state (moreItems items ++ rest) = .ok final →
    frames.length + 1 + depthList items ≤ rules.nesting ∧
      ∃ found, rereadList? items = some found ∧
        run rules ⟨.after (.array (before.reverse ++ item :: found)), frames⟩ rest = .ok final
  | [], before, item, frames, state, rest, _, hopen, hreads, h => by
      rw [moreItems, List.singleton_append, run_delimiter hreads rules (.inr (.inl rfl)) rfl] at h
      refine ⟨hopen, [], rfl, ?_⟩
      rw [← List.reverse_cons]
      exact h
  | next :: items, before, item, frames, state, rest, hattends, hopen, hreads, h => by
      rw [moreItems, List.cons_append, run_delimiter hreads rules (.inl rfl) rfl,
        List.append_assoc] at h
      obtain ⟨d, tail, hmore, hd⟩ := exists_delimiter_of_moreItems items
      rw [hmore, List.cons_append] at h
      obtain ⟨hdepth, next', state', hnext, hreads', h⟩ :=
        reads_of_run next (hattends.cons _) hopen hd h
      rw [← List.cons_append, ← hmore] at h
      obtain ⟨hdepths, items', hitems, h⟩ := items_of_run items hattends hopen hreads' h
      refine ⟨?_, next' :: items', rereadList?_cons_eq_some_iff.2 ⟨_, _, hnext, hitems, rfl⟩, ?_⟩
      · simp only [depthList, List.length_cons] at hdepth ⊢
        omega
      · rw [List.reverse_cons, List.append_assoc, List.singleton_append] at h
        exact h

/-- Of an object some members may be skimmed; those that are read are of the names given. -/
theorem members_of_run : ∀ (members : List (String × Json))
    {before : List (String × Json)} {name : String} {value : Json} {frames : List Frame}
    {state : State} {rest : List Char},
    (∀ other ∈ Entries.names members, ∀ before, rules.Attends (.member before other :: frames)) →
    frames.length < rules.nesting → Reads (.member before name :: frames) value state →
    run rules state (moreMembers members ++ rest) = .ok final →
    frames.length + 1 + depthMembers members ≤ rules.nesting ∧
      ∃ found, rereadMembers? members = some found ∧
        run rules ⟨.after (.object (before.reverse ++ (name, value) :: found)), frames⟩ rest
          = .ok final
  | [], before, name, value, frames, state, rest, _, hopen, hreads, h => by
      rw [moreMembers, List.singleton_append, run_delimiter hreads rules (.inr (.inr rfl)) rfl] at h
      refine ⟨hopen, [], rfl, ?_⟩
      rw [← List.reverse_cons]
      exact h
  | (name', next) :: members, before, name, value, frames, state, rest, hattends, hopen, hreads,
    h => by
      rw [moreMembers, List.cons_append, run_delimiter hreads rules (.inl rfl) rfl,
        List.append_assoc, List.cons_append, run_name name' _ rules frames (.inr rfl),
        List.append_assoc] at h
      obtain ⟨d, tail, hmore, hd⟩ := exists_delimiter_of_moreMembers members
      rw [hmore, List.cons_append] at h
      obtain ⟨hdepth, next', state', hnext, hreads', h⟩ :=
        reads_of_run next (hattends name' (List.mem_cons_self ..) _) hopen hd h
      rw [← List.cons_append, ← hmore] at h
      obtain ⟨hdepths, members', hmembers, h⟩ := members_of_run members
        (fun other hother => hattends other (List.mem_cons_of_mem _ hother)) hopen hreads' h
      refine ⟨?_, (name', next') :: members',
        rereadMembers?_cons_eq_some_iff.2 ⟨_, _, hnext, hmembers, rfl⟩, ?_⟩
      · simp only [depthMembers, List.length_cons] at hdepth ⊢
        omega
      · rw [List.reverse_cons, List.append_assoc, List.singleton_append] at h
        exact h

end

/-- The text of an object whose members are all attended is read exactly if the object nests within
the limit and its numerals are read again. -/
theorem readRaw_object_eq_ok_iff {members : List (String × Json)} {raw : Json}
    (hattends : ∀ name ∈ Entries.names members, ∀ before, rules.Attends [.member before name])
    (hskims : rules.skims [] = false) :
    readRaw rules (Json.object members).text = .ok raw ↔
      (Json.object members).depth ≤ rules.nesting ∧ (Json.object members).reread? = some raw := by
  refine ⟨fun h => ?_, fun h => readRaw_text_of_reread? rules h.2 h.1⟩
  rw [readRaw, text, String.toList_ofList] at h
  obtain ⟨final, hrun, hfinish⟩ := bind_eq_ok_iff.1 h
  have hrun : run rules ⟨.value, []⟩ (chars (.object members)) = .ok final := hrun
  cases members with
  | nil =>
      obtain ⟨hopen, hrun⟩ := run_of_openFrame hskims rfl hrun
      have hfinal := run_of_step rfl hrun
      cases hfinal
      cases hfinish
      exact ⟨hopen, rfl⟩
  | cons head members =>
      obtain ⟨name, value⟩ := head
      rw [chars] at hrun
      obtain ⟨hopen, hrun⟩ := run_of_openFrame hskims rfl hrun
      rw [run_name name [] rules [] (.inl rfl)] at hrun
      obtain ⟨d, tail, hmore, hd⟩ := exists_delimiter_of_moreMembers members
      rw [hmore] at hrun
      obtain ⟨hdepth, value', state, hvalue, hreads, hrun⟩ :=
        reads_of_run value (hattends name (List.mem_cons_self ..) []) hopen hd hrun
      rw [← hmore, ← List.append_nil (moreMembers members)] at hrun
      obtain ⟨hdepths, members', hmembers, hafter⟩ := members_of_run members
        (fun other hother => hattends other (List.mem_cons_of_mem _ hother)) hopen hreads hrun
      cases hafter
      cases hfinish
      refine ⟨?_, ?_⟩
      · simp only [depth, depthMembers, List.length_cons, List.length_nil] at hdepth hdepths ⊢
        omega
      · rw [reread?, rereadMembers?_cons_eq_some_iff.2 ⟨value', members', hvalue, hmembers, rfl⟩]
        rfl

/-- Where the text of an object is read, its members are read again. -/
theorem exists_members_of_read {members : List (String × Json)} {json : Json}
    (h : read (Json.object members).text = .ok json) :
    ∃ others, rereadMembers? members = some others ∧ json = (Json.object others).settle := by
  obtain ⟨raw, hraw, rfl⟩ := read_eq_ok_iff.1 h
  have hreread := ((readRaw_object_eq_ok_iff (fun _ _ _ => attends_textRules _) rfl).1 hraw).2
  obtain ⟨others, hothers, rfl⟩ := Option.map_eq_some_iff.1 hreread
  exact ⟨others, hothers, rfl⟩

/-- What stands under a name among members that were read again is what stood there, read again. -/
theorem find?_of_rereadMembers? {members others : List (String × Json)}
    (h : rereadMembers? members = some others) (name : String) :
    Entries.find? others name = (Entries.find? members name).bind reread? := by
  induction members generalizing others with
  | nil =>
      cases h
      rfl
  | cons member rest ih =>
      obtain ⟨other, value⟩ := member
      obtain ⟨value', rest', hvalue, hrest, rfl⟩ := rereadMembers?_cons_eq_some_iff.1 h
      rw [Entries.find?_cons, Entries.find?_cons]
      split
      · exact hvalue.symm
      · exact ih hrest

theorem settleMembers_eq_mapValues (members : List (String × Json)) :
    settleMembers members = Entries.mapValues settle members := by
  induction members with
  | nil => rfl
  | cons member rest ih =>
      obtain ⟨name, value⟩ := member
      rw [settleMembers, ih]
      rfl

theorem names_settleMembers (members : List (String × Json)) :
    Entries.names (settleMembers members) = Entries.names members := by
  rw [settleMembers_eq_mapValues, Entries.names_mapValues]

end Json

end TypedCollections
