import TypedCollections.Proofs.Store.Loading
/-!
# Expanding in any order, and again

Whether a field can be expanded, and what then takes its place, is decided by the store and by what
the field holds; no other field has a say. So what is found with expanded fields depends on which
fields are named, not on their order or on how often they are named: the values, their order and the
raw values that are remembered are the same, or both calls fail. After a field was expanded there is
nothing left to expand in it. Expanding it again leaves the document as it is, in whatever state the
store is by then.
-/

namespace TypedCollections

namespace Document

/-- Nothing is left to expand in a field: it is expanded, or there is no reference in it. -/
inductive Exhausted (document : Document) (field : String) : Prop where
  | expanded (h : document.isPopulated field = true)
  | absent (h : document.get? field = none)
  | null (h : document.get? field = some .null)
  | document {id : ObjectId} {fields populated : List (String × Value)}
      (h : document.get? field = some (.document id fields populated))

/-- A field that was expanded just now is expanded. -/
theorem isPopulated_populate_self (document : Document) (name : String) (loaded : Value) :
    (document.populate name loaded).isPopulated name = true := by
  show (SortedMap.lookup (if document.isPopulated name then document.populated
    else SortedMap.insertEntry document.populated name _) name).isSome = true
  split
  · assumption
  · rw [SortedMap.lookup_insertEntry_self]
    rfl

/-- Two documents of one identifier that hold the same under every name, in the same order, and
remember the same raw values, are equal. -/
theorem Arranged.ext {document other : Document} (hdocument : document.Arranged)
    (hother : other.Arranged) (hid : document.id = other.id)
    (hnames : Entries.names document.fields = Entries.names other.fields)
    (hget : ∀ name, document.get? name = other.get? name)
    (hraw : ∀ name, document.populatedKeys? name = other.populatedKeys? name) :
    document = other := by
  have hfields : document.fields = other.fields :=
    Entries.ext_find? hnames hdocument.distinct fun name _ => hget name
  have hmaps : (⟨document.populated, hdocument.ascending⟩ : SortedMap String Value)
      = ⟨other.populated, hother.ascending⟩ := SortedMap.ext_find? hraw
  have hpopulated : document.populated = other.populated := congrArg SortedMap.entries hmaps
  obtain ⟨id, fields, populated⟩ := document
  obtain ⟨id', fields', populated'⟩ := other
  rw [Document.mk.injEq]
  exact ⟨hid, hfields, hpopulated⟩

end Document

namespace Store

variable {store later : Store} {collection : Collection} {document expanded : Document}
  {field : String}

/-! ### Expanding one field -/

/-- The field can be expanded. -/
def Expandable (store : Store) (collection : Collection) (document : Document) (field : String) :
    Prop :=
  ∃ expanded, store.populate collection document field = .ok expanded

/-- A field can be expanded exactly if it refers to a registered collection, and unless it is expanded
already, what it refers to can be loaded. -/
theorem expandable_iff :
    store.Expandable collection document field ↔ ∃ name target,
      collection.reference? field = some name ∧ store.collection? name = some target ∧
      (document.isPopulated field = true ∨ ∃ loaded?,
        store.loadReference collection target field (document.get? field) = .ok loaded?) := by
  constructor
  · rintro ⟨expanded, h⟩
    obtain ⟨name, target, hreference, htarget, hcases⟩ := exists_of_populate h
    refine ⟨name, target, hreference, htarget, ?_⟩
    exact hcases.imp And.left fun ⟨_, loaded?, hloaded, _⟩ => ⟨loaded?, hloaded⟩
  · rintro ⟨name, target, hreference, htarget, hcases⟩
    unfold Expandable populate
    simp only [hreference, htarget]
    rcases hcases with hpopulated | ⟨loaded?, hloaded⟩
    · rw [if_pos hpopulated]
      exact ⟨document, rfl⟩
    · rw [hloaded]
      split <;> exact ⟨_, rfl⟩

/-- After a field was expanded nothing is left to expand in it. -/
theorem exhausted_of_populate (h : store.populate collection document field = .ok expanded) :
    expanded.Exhausted field := by
  obtain ⟨name, target, -, -, ⟨hpopulated, rfl⟩ | ⟨-, loaded?, hloaded, rfl⟩⟩ :=
    exists_of_populate h
  · exact .expanded hpopulated
  · cases loaded? with
    | some loaded => exact .expanded (document.isPopulated_populate_self field loaded)
    | none =>
        -- Nothing was loaded, so the field held no identifier.
        show document.Exhausted field
        generalize hget : document.get? field = value? at hloaded
        unfold loadReference at hloaded
        split at hloaded
        · exact .absent hget
        · exact .null hget
        · exact .document hget
        · obtain ⟨found, -, heq⟩ := map_eq_ok_iff.1 hloaded
          cases heq
        · obtain ⟨loaded, -, heq⟩ := map_eq_ok_iff.1 hloaded
          cases heq
        · cases hloaded

/-- Where nothing is left to expand, expanding succeeds and changes nothing, as long as the field
refers to a registered collection. -/
theorem populate_of_exhausted (h : document.Exhausted field) {name : String} {target : Collection}
    (hreference : collection.reference? field = some name)
    (htarget : store.collection? name = some target) :
    store.populate collection document field = .ok document := by
  unfold populate
  simp only [hreference, htarget]
  split
  · rfl
  · rename_i hpopulated
    cases h with
    | expanded h => exact absurd h hpopulated
    | absent h =>
        rw [h, loadReference]
        rfl
    | null h =>
        rw [h, loadReference]
        rfl
    | document h =>
        rw [h, loadReference]
        rfl

theorem populateInPlace_of_exhausted (h : document.Exhausted field) :
    (store.populateInPlace collection document field).2 = document := by
  unfold populateInPlace
  split
  · rename_i expanded hpopulate
    obtain ⟨name, target, hreference, htarget, -⟩ := exists_of_populate hpopulate
    rw [populate_of_exhausted h hreference htarget] at hpopulate
    exact (Except.ok.inj hpopulate).symm
  · rfl

/-! ### Expanding several fields -/

/-- Expanding a field does not decide whether another one, or the same one again, can be expanded. -/
theorem expandable_of_populate (hdocument : document.Arranged)
    (h : store.populate collection document field = .ok expanded) (other : String) :
    store.Expandable collection expanded other ↔ store.Expandable collection document other := by
  by_cases hother : other = field
  · subst hother
    obtain ⟨name, target, hreference, htarget, -⟩ := exists_of_populate h
    have hagain := populate_of_exhausted (exhausted_of_populate h) hreference htarget
    exact ⟨fun _ => ⟨expanded, h⟩, fun _ => ⟨expanded, hagain⟩⟩
  · obtain ⟨hpopulated, hget⟩ := (expands_of_populate hdocument h).other other
      (.inl (by simpa using hother))
    rw [expandable_iff, expandable_iff, hpopulated, hget]

/-- Fields can be expanded one after the other exactly if each of them can be expanded first. -/
theorem exists_populateEach_iff (hdocument : document.Regular) (names : List String) :
    (∃ expanded, store.populateEach collection document names = .ok expanded) ↔
      ∀ name ∈ names, store.Expandable collection document name := by
  induction names generalizing document with
  | nil => simp [populateEach]
  | cons first rest ih =>
      rw [List.forall_mem_cons, populateEach]
      cases hfirst : store.populate collection document first with
      | error error =>
          have hnot : ¬ store.Expandable collection document first := by
            rintro ⟨expanded, h⟩
            rw [hfirst] at h
            cases h
          simp [hnot]
      | ok next =>
          have hfirst' : store.Expandable collection document first := ⟨next, hfirst⟩
          have hrest := ih (regular_of_populate hdocument hfirst)
          simp only [expandable_of_populate hdocument.arranged hfirst] at hrest
          exact hrest.trans (and_iff_right hfirst').symm

/-- A field that was expanded remembers what it held, unless it remembers something already. -/
theorem populatedKeys?_of_populateEach {names : List String} (hdocument : document.Regular)
    (h : store.populateEach collection document names = .ok expanded) (name : String) :
    expanded.populatedKeys? name = (document.populatedKeys? name).or
      (if expanded.isPopulated name then document.get? name else none) := by
  induction names generalizing document with
  | nil =>
      cases h
      have hsome : expanded.isPopulated name = (expanded.populatedKeys? name).isSome := rfl
      rw [hsome]
      cases expanded.populatedKeys? name <;> rfl
  | cons first rest ih =>
      rw [populateEach] at h
      split at h
      · cases h
      · rename_i next hnext
        have hnow := ih (regular_of_populate hdocument hnext) h
        obtain rfl | ⟨value, loaded, hvalue, rfl, -⟩ := populate_cases hnext
        · exact hnow
        · rw [Document.populatedKeys?_populate hdocument.arranged hvalue] at hnow
          by_cases hname : name = first
          · subst hname
            rw [if_pos rfl, Option.some_or] at hnow
            have hpopulated : expanded.isPopulated name = true := by
              rw [Document.isPopulated, hnow]
              rfl
            rw [hnow, if_pos hpopulated, hvalue]
            cases document.populatedKeys? name <;> rfl
          · rw [if_neg hname, Document.get?_populate, if_neg (Ne.symm hname)] at hnow
            exact hnow

/-- What expanding does to each field depends on which fields are expanded only. -/
theorem Expands.agree {names others : List String} {first second : Document}
    (hnames : ∀ name, name ∈ names ↔ name ∈ others)
    (hfirst : store.Expands collection names document first)
    (hsecond : store.Expands collection others document second) (name : String) :
    first.isPopulated name = second.isPopulated name ∧ first.get? name = second.get? name := by
  by_cases hchanged : name ∈ names ∧ document.isPopulated name = false
  · obtain ⟨hmem, hpopulated⟩ := hchanged
    obtain ⟨targetName, target, loaded?, hreference, htarget, hloaded, hmark, hvalue⟩ :=
      hfirst.field name hmem hpopulated
    obtain ⟨targetName', target', loaded?', hreference', htarget', hloaded', hmark', hvalue'⟩ :=
      hsecond.field name ((hnames name).1 hmem) hpopulated
    obtain rfl := Option.some.inj (hreference.symm.trans hreference')
    obtain rfl := Option.some.inj (htarget.symm.trans htarget')
    obtain rfl := Except.ok.inj (hloaded.symm.trans hloaded')
    exact ⟨hmark.trans hmark'.symm, hvalue.trans hvalue'.symm⟩
  · have hstays : name ∉ names ∨ document.isPopulated name = true := by
      rwa [not_and_or, Bool.not_eq_false] at hchanged
    obtain ⟨hmark, hvalue⟩ := hfirst.other name hstays
    obtain ⟨hmark', hvalue'⟩ := hsecond.other name
      (hstays.imp_left fun h hmem => h ((hnames name).2 hmem))
    exact ⟨hmark.trans hmark'.symm, hvalue.trans hvalue'.symm⟩

/-- A document whose fields can be expanded in one order is the same when they are expanded in
another order, some of them more than once. -/
theorem populateEach_of_same_names {names others : List String} (hdocument : document.Regular)
    (hnames : ∀ name, name ∈ names ↔ name ∈ others)
    (h : store.populateEach collection document names = .ok expanded) :
    store.populateEach collection document others = .ok expanded := by
  have heach := (exists_populateEach_iff hdocument names).1 ⟨expanded, h⟩
  obtain ⟨other, hother⟩ : ∃ other, store.populateEach collection document others = .ok other :=
    (exists_populateEach_iff hdocument others).2 fun name hmem => heach name ((hnames name).2 hmem)
  have hexpands := expands_of_populateEach hdocument h
  have hexpands' := expands_of_populateEach hdocument hother
  have hagree := hexpands.agree hnames hexpands'
  have hsame : expanded = other := by
    apply (regular_of_populateEach hdocument h).arranged.ext
      (regular_of_populateEach hdocument hother).arranged
    · exact hexpands.id.trans hexpands'.id.symm
    · exact hexpands.names_eq.trans hexpands'.names_eq.symm
    · exact fun name => (hagree name).2
    · intro name
      rw [populatedKeys?_of_populateEach hdocument h,
        populatedKeys?_of_populateEach hdocument hother, (hagree name).1]
  rw [hother, hsame]

theorem findExpanded_of_same_names {id : ObjectId} {names others : List String}
    (hnames : ∀ name, name ∈ names ↔ name ∈ others) {answer : Option Document}
    (h : store.findExpanded collection id names = .ok answer) :
    store.findExpanded collection id others = .ok answer := by
  unfold findExpanded at h ⊢
  split at h
  · cases h
  · exact h
  · rename_i found hfind
    obtain ⟨expanded, hexpanded, rfl⟩ := map_eq_ok_iff.1 h
    exact map_eq_ok_iff.2
      ⟨expanded, populateEach_of_same_names (regular_of_find hfind) hnames hexpanded, rfl⟩

/-- With the same fields expanded, in any order and any number of times, the same document is found,
or both calls fail. A field that is expanded, or that was expanded before with success, is left as it
is when it is expanded again, in any store; and this succeeds as long as the field refers to a
registered collection. -/
theorem expansion_unordered_and_final :
    (∀ (store : Store) (collection : Collection) (id : ObjectId) (names others : List String),
      (∀ name, name ∈ names ↔ name ∈ others) →
        (∃ error error', store.findExpanded collection id names = .error error ∧
          store.findExpanded collection id others = .error error') ∨
        ∃ answer, store.findExpanded collection id names = .ok answer ∧
          store.findExpanded collection id others = .ok answer) ∧
    ∀ (document : Document) (field : String), (document.isPopulated field = true ∨
        ∃ store collection before, populate store collection before field = .ok document) →
      ∀ (later : Store) (collection : Collection),
        (later.populateInPlace collection document field).2 = document ∧
        ∀ name, collection.reference? field = some name → later.hasCollection name = true →
          later.populate collection document field = .ok document := by
  refine ⟨?_, ?_⟩
  · intro store collection id names others hnames
    cases h : store.findExpanded collection id names with
    | ok answer => exact .inr ⟨answer, rfl, findExpanded_of_same_names hnames h⟩
    | error error =>
        cases h' : store.findExpanded collection id others with
        | error error' => exact .inl ⟨error, error', rfl, rfl⟩
        | ok answer =>
            have hback := findExpanded_of_same_names (fun name => (hnames name).symm) h'
            rw [h] at hback
            cases hback
  · intro document field hexpanded later collection
    have hexhausted : document.Exhausted field := by
      rcases hexpanded with hpopulated | ⟨store, collection, before, hpopulate⟩
      · exact .expanded hpopulated
      · exact exhausted_of_populate hpopulate
    refine ⟨populateInPlace_of_exhausted hexhausted, fun name hreference hregistered => ?_⟩
    obtain ⟨target, htarget⟩ := Option.isSome_iff_exists.1 hregistered
    exact populate_of_exhausted hexhausted hreference htarget

end Store

namespace Sample

/-- Squads have a lead and people, who are members. -/
def squads : Collection :=
  let lead : Field := { type := .objectId, required := false, reference := some "members" }
  let people : Field := { type := .array .objectId, required := false, reference := some "members" }
  ⟨"squads", "db", { fields := [("people", people), ("lead", lead)], timestamps := false }, []⟩

/-- A squad that the first member leads, and of which the others are gone. -/
def squad : Document :=
  ⟨ident 8, [("lead", .objectId (ident 1)), ("people", .array [.objectId (ident 9)])], []⟩

def squadRequests : List Request :=
  [.register 0 "members" { fields := members, timestamps := false },
    .register 0 "squads" squads.schema, .insert "members" 0 (member 1 "ann"),
    .insert "squads" 0 squad]

end Sample

namespace Store

theorem expansions_of_squad :
    ∃ store deserted expanded, (fresh "db" Sample.generator).run Sample.squadRequests = store ∧
      store.run [.delete "members" (Sample.ident 1)] = deserted ∧
      store.findExpanded Sample.squads (Sample.ident 8) ["lead", "people"] = .ok (some expanded) ∧
      store.findExpanded Sample.squads (Sample.ident 8) ["people", "lead", "people"]
        = .ok (some expanded) ∧
      expanded.isPopulated "people" = true ∧ deserted.count (Sample.membersOf Sample.members) = 0 ∧
      deserted.populate Sample.squads expanded "people" = .ok expanded := by
  have hany : (((fresh "db" Sample.generator).run Sample.squadRequests).findExpanded Sample.squads
      (Sample.ident 8) ["lead", "people"]).toOption.join.any (·.isPopulated "people") = true := by
    decide +kernel
  obtain ⟨expanded, hexpanded, hpopulated⟩ := Sample.exists_of_any_join hany
  obtain ⟨hnames, hagain⟩ := expansion_unordered_and_final
  refine ⟨_, _, expanded, rfl, rfl, hexpanded, ?_, hpopulated, by decide +kernel, ?_⟩
  · obtain ⟨error, -, herror, -⟩ | ⟨answer, hanswer, hother⟩ := hnames _ Sample.squads
      (Sample.ident 8) ["lead", "people"] ["people", "lead", "people"] (by simp [or_comm])
    · rw [hexpanded] at herror
      cases herror
    · obtain rfl := Except.ok.inj (hexpanded.symm.trans hanswer)
      exact hother
  · exact (hagain expanded "people" (.inl hpopulated) _ Sample.squads).2 "members" rfl
      (by decide +kernel)

end Store

end TypedCollections
