import Mathlib.Data.List.Induction
import TypedCollections.Proofs.Store.Loading
/-!
# What a document remembers

A program makes a document, sets and removes its fields and has some of them expanded, in any order.
For each expanded field the document remembers one raw value. Which one that is can be told from the
history of the document alone: the one that the field held when it was first expanded after it was
last set or removed.
-/

namespace TypedCollections

namespace Document

/-! ### Histories of a document -/

/-- The documents that a program starts from. -/
inductive Initial : Document → Prop
  | empty (id : ObjectId) : Initial (empty id)
  | ofFields (id : ObjectId) (fields : List (String × Value)) : Initial (ofFields id fields)
  | ofJson {json : Json} {document : Document} (h : ofJson json = .ok document) : Initial document
  | ofOctets {octets : List UInt8} {document : Document} (h : ofOctets octets = .ok document) :
      Initial document

/-- What a program does to a document. A field is expanded by a collection of a store. -/
inductive Edit
  | set (name : String) (value : Value)
  | remove (name : String)
  | expand (store : Store) (collection : Collection) (name : String)

namespace Edit

def apply (document : Document) : Edit → Document
  | .set name value => document.set name value
  | .remove name => document.remove name
  | .expand store collection name => (store.populateInPlace collection document name).2

/-- The edit sets or removes the field. -/
def Resets (name : String) : Edit → Prop
  | .set other _ => other = name
  | .remove other => other = name
  | .expand .. => False

/-- The edit expands the field: it refers to a registered collection, and something is loaded in the
place of what it holds. -/
def Expands (document : Document) (name : String) : Edit → Prop
  | .expand store collection other => other = name ∧ ∃ targetName target loaded,
      collection.reference? name = some targetName ∧ store.collection? targetName = some target ∧
      store.loadReference collection target name (document.get? name) = .ok (some loaded)
  | _ => False

end Edit

/-- The document after edits, one after the other. -/
def editAll (document : Document) (edits : List Edit) : Document := edits.foldl Edit.apply document

/-- Whenever the field was expanded, it was set or removed afterwards. -/
def Unexpanded (start : Document) (edits : List Edit) (name : String) : Prop :=
  ∀ before edit after, edits = before ++ edit :: after → edit.Expands (start.editAll before) name →
    ∃ reset ∈ after, reset.Resets name

/-- The field held the value when it was first expanded since it was last set or removed. -/
def FirstExpanded (start : Document) (edits : List Edit) (name : String) (raw : Value) : Prop :=
  ∃ before edit after, edits = before ++ edit :: after ∧
    start.Unexpanded before name ∧ edit.Expands (start.editAll before) name ∧
    (start.editAll before).get? name = some raw ∧ ∀ later ∈ after, ¬ later.Resets name

variable {start document : Document} {edits : List Edit} {edit : Edit} {name : String} {raw : Value}

theorem editAll_concat (start : Document) (edits : List Edit) (edit : Edit) :
    start.editAll (edits ++ [edit]) = edit.apply (start.editAll edits) := by
  rw [editAll, List.foldl_append]
  rfl

/-- A moment of a history with one more edit is a moment of the history before it, or that edit. -/
private theorem concat_eq_split_iff {before after : List Edit} {last : Edit} :
    edits ++ [last] = before ++ edit :: after ↔
      (∃ others, after = others ++ [last] ∧ edits = before ++ edit :: others) ∨
        after = [] ∧ edits = before ∧ last = edit := by
  rcases List.eq_nil_or_concat after with rfl | ⟨others, other, rfl⟩
  · constructor
    · intro h
      obtain ⟨hedits, hlast⟩ := List.append_inj' h rfl
      exact .inr ⟨rfl, hedits, by simpa using hlast⟩
    · rintro (⟨others, hnil, -⟩ | ⟨-, rfl, rfl⟩)
      · simp at hnil
      · rfl
  · rw [List.concat_eq_append, ← List.cons_append, ← List.append_assoc]
    constructor
    · intro h
      obtain ⟨hedits, hlast⟩ := List.append_inj' h rfl
      exact .inl ⟨others, by simpa using hlast.symm, hedits⟩
    · rintro (⟨others', heq, rfl⟩ | ⟨hnil, -⟩)
      · obtain ⟨rfl, hlast⟩ := List.append_inj' heq rfl
        rw [hlast]
      · simp at hnil

theorem not_expands_of_resets (h : edit.Resets name) : ¬ edit.Expands document name := by
  cases edit with
  | set other value => exact not_false
  | remove other => exact not_false
  | expand store collection other => exact h.elim

theorem unexpanded_nil : start.Unexpanded [] name := by
  intro before edit after h
  simp at h

theorem unexpanded_concat_iff :
    start.Unexpanded (edits ++ [edit]) name ↔
      edit.Resets name ∨
        start.Unexpanded edits name ∧ ¬ edit.Expands (start.editAll edits) name := by
  constructor
  · intro h
    by_cases hresets : edit.Resets name
    · exact .inl hresets
    · refine .inr ⟨fun before earlier after hsplit hexpands => ?_, fun hexpands => ?_⟩
      · obtain ⟨reset, hmem, hreset⟩ :=
          h before earlier (after ++ [edit]) (by rw [hsplit]; simp) hexpands
        rcases List.mem_append.1 hmem with hmem | hmem
        · exact ⟨reset, hmem, hreset⟩
        · rw [List.mem_singleton.1 hmem] at hreset
          exact absurd hreset hresets
      · obtain ⟨reset, hmem, -⟩ := h edits edit [] rfl hexpands
        cases hmem
  · intro h before earlier after hsplit hexpands
    rcases concat_eq_split_iff.1 hsplit with ⟨others, rfl, hedits⟩ | ⟨-, rfl, rfl⟩
    · rcases h with hresets | ⟨hedits', -⟩
      · exact ⟨edit, by simp, hresets⟩
      · obtain ⟨reset, hmem, hreset⟩ := hedits' before earlier others hedits hexpands
        exact ⟨reset, List.mem_append_left _ hmem, hreset⟩
    · rcases h with hresets | ⟨-, hnot⟩
      · exact absurd hexpands (not_expands_of_resets hresets)
      · exact absurd hexpands hnot

theorem not_firstExpanded_nil : ¬ start.FirstExpanded [] name raw := by
  rintro ⟨before, edit, after, h, -⟩
  simp at h

theorem firstExpanded_concat_iff :
    start.FirstExpanded (edits ++ [edit]) name raw ↔
      ¬ edit.Resets name ∧ start.FirstExpanded edits name raw ∨
      start.Unexpanded edits name ∧ edit.Expands (start.editAll edits) name ∧
        (start.editAll edits).get? name = some raw := by
  constructor
  · rintro ⟨before, first, after, hsplit, hbefore, hexpands, hraw, hafter⟩
    rcases concat_eq_split_iff.1 hsplit with ⟨others, rfl, hedits⟩ | ⟨-, rfl, rfl⟩
    · exact .inl ⟨hafter edit (by simp), before, first, others, hedits, hbefore, hexpands, hraw,
        fun later hmem => hafter later (List.mem_append_left _ hmem)⟩
    · exact .inr ⟨hbefore, hexpands, hraw⟩
  · rintro (⟨hkeeps, before, first, after, rfl, hbefore, hexpands, hraw, hafter⟩ |
      ⟨hbefore, hexpands, hraw⟩)
    · refine ⟨before, first, after ++ [edit], by simp, hbefore, hexpands, hraw, ?_⟩
      intro later hmem
      rcases List.mem_append.1 hmem with hmem | hmem
      · exact hafter later hmem
      · rwa [List.mem_singleton.1 hmem]
    · exact ⟨edits, edit, [], rfl, hbefore, hexpands, hraw, fun later hmem => by cases hmem⟩

/-! ### What an edit does -/

/-- What every document keeps: a field stands once and is not called `_id`, and raw values stand in
ascending order, each under the name of a field. -/
structure Tidy (document : Document) : Prop where
  arranged : document.Arranged
  id_not_mem : idField ∉ Entries.names document.fields
  present : ∀ name raw, document.populatedKeys? name = some raw →
    name ∈ Entries.names document.fields

theorem Initial.exists_ofFields (h : document.Initial) :
    ∃ id fields, document = Document.ofFields id fields := by
  have hjson : ∀ {json : Json} {document : Document}, Document.ofJson json = .ok document →
      ∃ id fields, document = Document.ofFields id fields := by
    intro json document h
    unfold Document.ofJson at h
    split at h
    · split at h
      · cases h
        exact ⟨_, _, rfl⟩
      · cases h
    · cases h
  cases h with
  | empty id => exact ⟨id, [], rfl⟩
  | ofFields id fields => exact ⟨id, fields, rfl⟩
  | ofJson h => exact hjson h
  | ofOctets h =>
      unfold Document.ofOctets at h
      split at h
      · cases h
      · split at h
        · cases h
        · exact hjson h

theorem Initial.populated_eq_nil (h : document.Initial) : document.populated = [] := by
  obtain ⟨id, fields, rfl⟩ := h.exists_ofFields
  rw [Document.ofFields_eq]

theorem Initial.tidy (h : document.Initial) : document.Tidy := by
  have hpopulated := h.populated_eq_nil
  obtain ⟨id, fields, rfl⟩ := h.exists_ofFields
  refine ⟨arranged_ofFields id fields, id_not_mem_ofFields id fields, fun name raw hraw => ?_⟩
  rw [populatedKeys?, hpopulated] at hraw
  cases hraw

theorem Arranged.populatedKeys?_erase (h : document.Arranged) (name other : String) :
    SortedMap.lookup (SortedMap.eraseEntry document.populated name) other
      = if name = other then none else document.populatedKeys? other :=
  SortedMap.find?_erase ⟨document.populated, h.ascending⟩ name other

namespace Tidy

theorem mem_populated_iff (h : document.Tidy) :
    (name, raw) ∈ document.populated ↔ document.populatedKeys? name = some raw :=
  (SortedMap.lookup_eq_some_iff h.arranged.ascending).symm

theorem populatedKeys?_id (h : document.Tidy) : document.populatedKeys? idField = none := by
  cases hraw : document.populatedKeys? idField with
  | none => rfl
  | some raw => exact absurd (h.present _ raw hraw) h.id_not_mem

theorem set (h : document.Tidy) (name : String) (value : Value) :
    (document.set name value).Tidy := by
  have harranged := h.arranged.set name value
  unfold Document.set at harranged ⊢
  split
  · exact h
  · rename_i hname
    rw [if_neg hname] at harranged
    refine ⟨harranged, fun hmem => ?_, fun other raw hraw => ?_⟩
    · rcases Entries.mem_names_write.1 hmem with heq | hmem
      · exact hname heq.symm
      · exact h.id_not_mem hmem
    · have hraw := (h.arranged.populatedKeys?_erase name other).symm.trans hraw
      split at hraw
      · cases hraw
      · exact Entries.mem_names_write.2 (.inr (h.present other raw hraw))

theorem remove (h : document.Tidy) (name : String) : (document.remove name).Tidy := by
  have hnames : Entries.names (document.remove name).fields
      = (Entries.names document.fields).filter (· != name) := Entries.names_remove ..
  refine ⟨h.arranged.remove name, fun hmem => ?_, fun other raw hraw => ?_⟩
  · rw [hnames] at hmem
    exact h.id_not_mem (List.mem_filter.1 hmem).1
  · have hraw := (h.arranged.populatedKeys?_erase name other).symm.trans hraw
    rw [hnames]
    split at hraw
    · cases hraw
    · rename_i hname
      exact List.mem_filter.2 ⟨h.present other raw hraw, bne_iff_ne.2 (Ne.symm hname)⟩

/-- Only a field that stands is expanded, and so it is not called `_id`. -/
theorem populate (h : document.Tidy) {value : Value} (hvalue : document.get? name = some value)
    (loaded : Value) : (document.populate name loaded).Tidy := by
  have hnames := names_populate hvalue loaded
  refine ⟨h.arranged.populate name loaded, ?_, fun other raw hraw => ?_⟩
  · rw [hnames]
    exact h.id_not_mem
  · rw [populatedKeys?_populate h.arranged hvalue] at hraw
    rw [hnames]
    split at hraw
    · rename_i heq
      rw [heq]
      exact Entries.mem_names_iff.2 ⟨value, hvalue⟩
    · exact h.present other raw hraw

end Tidy

/-- A document is left as it is unless the field is expanded, and then too if it was expanded
before. -/
theorem populateInPlace_cases (store : Store) (collection : Collection) (document : Document)
    (name : String) :
    ¬ (Edit.expand store collection name).Expands document name ∧
        (store.populateInPlace collection document name).2 = document ∨
      (Edit.expand store collection name).Expands document name ∧ ∃ value loaded,
        document.get? name = some value ∧ (store.populateInPlace collection document name).2
          = if document.isPopulated name then document else document.populate name loaded := by
  by_cases hexpands : (Edit.expand store collection name).Expands document name
  · obtain ⟨-, targetName, target, loaded, hreference, htarget, hloaded⟩ := hexpands
    obtain ⟨value, hvalue, -⟩ := Store.regular_of_loadReference hloaded
    refine .inr ⟨⟨rfl, targetName, target, loaded, hreference, htarget, hloaded⟩, value, loaded,
      hvalue, ?_⟩
    simp only [Store.populateInPlace, Store.populate, hreference, htarget, hloaded]
    cases document.isPopulated name <;> rfl
  · refine .inl ⟨hexpands, ?_⟩
    unfold Store.populateInPlace
    cases hpopulate : store.populate collection document name with
    | error error => rfl
    | ok expanded =>
        obtain ⟨targetName, target, hreference, htarget, ⟨-, rfl⟩ | ⟨-, loaded?, hloaded, rfl⟩⟩ :=
          Store.exists_of_populate hpopulate
        · rfl
        · cases loaded? with
          | none => rfl
          | some loaded =>
              exact absurd ⟨rfl, targetName, target, loaded, hreference, htarget, hloaded⟩ hexpands

theorem Tidy.apply (h : document.Tidy) (edit : Edit) : (edit.apply document).Tidy := by
  cases edit with
  | set name value => exact h.set name value
  | remove name => exact h.remove name
  | expand store collection name =>
      show (store.populateInPlace collection document name).2.Tidy
      obtain ⟨-, heq⟩ | ⟨-, value, loaded, hvalue, heq⟩ :=
        populateInPlace_cases store collection document name
      · rw [heq]
        exact h
      · rw [heq]
        split
        · exact h
        · exact h.populate hvalue loaded

/-- What becomes of the raw value under a name: it is forgotten when the field is set or removed,
the value is remembered when the field is expanded unless one is remembered already, and any other
edit keeps it. -/
inductive RawAfter (document : Document) (edit : Edit) (name : String) (raw? : Option Value) : Prop
  | forgotten (hresets : edit.Resets name) (hraw : raw? = none)
  | expanded (hexpands : edit.Expands document name) (value : Value)
      (hvalue : document.get? name = some value)
      (hraw : raw? = some ((document.populatedKeys? name).getD value))
  | kept (hkeeps : ¬ edit.Resets name) (hnot : ¬ edit.Expands document name)
      (hraw : raw? = document.populatedKeys? name)

theorem Tidy.populatedKeys?_set (h : document.Tidy) (other : String) (value : Value)
    (name : String) : (document.set other value).populatedKeys? name
      = if other = name then none else document.populatedKeys? name := by
  unfold Document.set
  split
  · rename_i hid
    split
    · rename_i hother
      rw [← hother, hid]
      exact h.populatedKeys?_id
    · rfl
  · exact h.arranged.populatedKeys?_erase other name

theorem Tidy.rawAfter_expand (h : document.Tidy) (store : Store) (collection : Collection)
    (other name : String) : RawAfter document (.expand store collection other) name
      ((store.populateInPlace collection document other).2.populatedKeys? name) := by
  obtain ⟨hnot, heq⟩ | ⟨hexpands, value, loaded, hvalue, heq⟩ :=
    populateInPlace_cases store collection document other
  · rw [heq]
    refine .kept not_false (fun hexpands => ?_) rfl
    obtain rfl : other = name := hexpands.1
    exact hnot hexpands
  · rw [heq]
    by_cases hother : other = name
    · subst hother
      refine .expanded hexpands value hvalue ?_
      split
      · rename_i hpopulated
        obtain ⟨raw, hraw⟩ := Option.isSome_iff_exists.1 hpopulated
        rw [hraw, Option.getD_some]
      · rw [populatedKeys?_populate h.arranged hvalue, if_pos rfl]
    · refine .kept not_false (fun hexpands => hother hexpands.1) ?_
      split
      · rfl
      · rw [populatedKeys?_populate h.arranged hvalue, if_neg (Ne.symm hother)]

theorem Tidy.rawAfter (h : document.Tidy) (edit : Edit) (name : String) :
    RawAfter document edit name ((edit.apply document).populatedKeys? name) := by
  cases edit with
  | set other value =>
      have hraw := h.populatedKeys?_set other value name
      by_cases hother : other = name
      · exact .forgotten hother (hraw.trans (if_pos hother))
      · exact .kept hother not_false (hraw.trans (if_neg hother))
  | remove other =>
      have hraw := h.arranged.populatedKeys?_erase other name
      by_cases hother : other = name
      · exact .forgotten hother (hraw.trans (if_pos hother))
      · exact .kept hother not_false (hraw.trans (if_neg hother))
  | expand store collection other => exact h.rawAfter_expand store collection other name

/-! ### Histories and raw values -/

/-- What is remembered after edits is what can be told from the history. -/
structure Remembers (start : Document) (edits : List Edit) (document : Document) : Prop where
  tidy : document.Tidy
  none_iff : ∀ name, document.populatedKeys? name = none ↔ start.Unexpanded edits name
  some_iff : ∀ name raw,
    document.populatedKeys? name = some raw ↔ start.FirstExpanded edits name raw

theorem remembers_nil (h : start.Initial) : start.Remembers [] start := by
  have hnone : ∀ name, start.populatedKeys? name = none := by
    intro name
    rw [populatedKeys?, h.populated_eq_nil]
    rfl
  refine ⟨h.tidy, fun name => ⟨fun _ => unexpanded_nil, fun _ => hnone name⟩, fun name raw => ?_⟩
  rw [hnone name]
  exact ⟨nofun, fun h => absurd h not_firstExpanded_nil⟩

theorem Remembers.apply (h : start.Remembers edits (start.editAll edits)) (edit : Edit) :
    start.Remembers (edits ++ [edit]) (edit.apply (start.editAll edits)) := by
  refine ⟨h.tidy.apply edit, fun name => ?_, fun name raw => ?_⟩
  · rw [unexpanded_concat_iff, ← h.none_iff name]
    cases h.tidy.rawAfter edit name with
    | forgotten hresets hraw => exact ⟨fun _ => .inl hresets, fun _ => hraw⟩
    | expanded hexpands value hvalue hraw =>
        rw [hraw]
        refine ⟨nofun, ?_⟩
        rintro (hresets | ⟨-, hnot⟩)
        · exact absurd hexpands (not_expands_of_resets hresets)
        · exact absurd hexpands hnot
    | kept hkeeps hnot hraw =>
        rw [hraw]
        exact ⟨fun hnone => .inr ⟨hnone, hnot⟩, fun h => (h.resolve_left hkeeps).1⟩
  · rw [firstExpanded_concat_iff, ← h.none_iff name, ← h.some_iff name raw]
    cases h.tidy.rawAfter edit name with
    | forgotten hresets hraw =>
        rw [hraw]
        refine ⟨nofun, ?_⟩
        rintro (⟨hkeeps, -⟩ | ⟨-, hexpands, -⟩)
        · exact absurd hresets hkeeps
        · exact absurd hexpands (not_expands_of_resets hresets)
    | expanded hexpands value hvalue hraw =>
        have hkeeps : ¬ edit.Resets name := fun hresets => not_expands_of_resets hresets hexpands
        rw [hraw, hvalue]
        -- The value that the field holds counts only if none is remembered yet.
        cases (start.editAll edits).populatedKeys? name with
        | none => simp [hexpands]
        | some first => simp [hkeeps]
    | kept hkeeps hnot hraw =>
        rw [hraw]
        exact ⟨fun hsome => .inl ⟨hkeeps, hsome⟩,
          fun h => (h.resolve_right fun h => hnot h.2.1).2⟩

theorem remembers (h : start.Initial) (edits : List Edit) :
    start.Remembers edits (start.editAll edits) := by
  induction edits using List.reverseRecOn with
  | nil => exact remembers_nil h
  | append_singleton edits edit ih =>
      rw [editAll_concat]
      exact ih.apply edit

/-- Whatever was done to a document, none of its fields is called `_id`, what it remembers it
remembers of fields it has, and it is the value that the field held when it was first expanded since
it was last set or removed. -/
theorem raw_values_first_expanded (h : start.Initial) (edits : List Edit) :
    let document := start.editAll edits
    idField ∉ Entries.names document.fields ∧
      (∀ name ∈ Entries.names document.populated, name ∈ Entries.names document.fields) ∧
      ∀ name raw, document.populatedKeys? name = some raw ↔ start.FirstExpanded edits name raw := by
  intro document
  obtain ⟨htidy, -, hsome⟩ : start.Remembers edits document := remembers h edits
  refine ⟨htidy.id_not_mem, fun name hmem => ?_, hsome⟩
  obtain ⟨field, hfield, rfl⟩ := List.mem_map.1 hmem
  exact htidy.present field.1 field.2 (htidy.mem_populated_iff.1 hfield)

end Document

/-! ### A team that changes -/

namespace Sample

/-- The people of a team are expanded, replaced, and expanded twice. -/
def reshuffle : List Document.Edit :=
  [.set "people" (.array [.objectId (ident 2)]),
    .expand introduction.store introduction.collection introduction.field,
    .set "people" (.array [.objectId (ident 1), .objectId (ident 9)]),
    .expand introduction.store introduction.collection introduction.field,
    .expand introduction.store introduction.collection introduction.field]

def identsOf? (value : Value) : Option (List ObjectId) := value.array?.bind (·.mapM Value.objectId?)

theorem raw_value_of_reshuffled_team :
    (Document.empty (ident 7)).Initial ∧
      ∃ raw, (Document.empty (ident 7)).FirstExpanded reshuffle "people" raw ∧
        identsOf? raw = some [ident 1, ident 9] := by
  have hremembered :
      (((Document.empty (ident 7)).editAll reshuffle).populatedKeys? "people").any
        (fun raw => identsOf? raw = some [ident 1, ident 9]) = true := by
    decide +kernel
  obtain ⟨raw, hraw, hidents⟩ := (Option.any_eq_true ..).1 hremembered
  have hinitial : (Document.empty (ident 7)).Initial := .empty (ident 7)
  exact ⟨hinitial, raw,
    ((Document.raw_values_first_expanded hinitial reshuffle).2.2 _ raw).1 hraw,
    of_decide_eq_true hidents⟩

end Sample

end TypedCollections
