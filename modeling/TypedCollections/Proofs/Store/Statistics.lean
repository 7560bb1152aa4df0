import Mathlib.Data.List.Induction
import TypedCollections.Proofs.Store.Identifiers
import TypedCollections.Proofs.Store.Registry
import TypedCollections.Store.Statistics
/-!
# What the status tells

The catalog outlives a session and the registry does not, but every name comes into the catalog by
being registered and stays there. So the status of a store lists the names that were ever registered
in it. What it tells of each is measured on its tree, whether the name is registered now or not: the
tree holds documents under their identifiers, and an identifier takes twelve octets.
-/

namespace TypedCollections

/-! ### What a tree holds -/

theorem Tree.valueSize_eq_sum (tree : Tree) :
    tree.valueSize = (tree.values.map List.length).sum := by
  rw [valueSize, List.sum_eq_foldl, List.foldl_map]

theorem Tree.keySize_eq_sum (tree : Tree) : tree.keySize = (tree.keys.map List.length).sum := by
  rw [keySize, List.sum_eq_foldl, List.foldl_map]

namespace Store

variable {store other : Store} {name : String}

/-- What is measured is what the documents that are stored take. -/
theorem HoldsExactly.statistics_eq {stored : List Document} (h : store.HoldsExactly name stored) :
    store.statistics name =
      { name,
        qualifiedName := store.database ++ "." ++ name,
        count := stored.length,
        size := (stored.map fun document => document.toOctets.length).sum,
        storageSize := (stored.map fun document => document.toOctets.length).sum
          + 12 * stored.length } := by
  have hvalues : (store.tree name).valueSize
      = (stored.map fun document => document.toOctets.length).sum := by
    rw [Tree.valueSize_eq_sum, h.values_eq, List.map_map, Function.comp_def]
  have hkeys : (store.tree name).keySize = 12 * stored.length := by
    have hlength : ∀ document ∈ stored, document.id.octets.length = 12 :=
      fun document _ => document.id.length_eq
    rw [Tree.keySize_eq_sum, h.keys_eq, List.map_map, Function.comp_def,
      List.map_congr_left hlength, List.map_const', List.sum_replicate_nat, Nat.mul_comm]
  have hcount : (store.tree name).size = stored.length := by
    rw [SortedMap.size, h.entries_eq, List.length_map]
  rw [Store.statistics, Statistics.measure, hvalues, hkeys, hcount, Nat.add_comm]

/-! ### Which names were ever registered -/

/-- The step registers the name: it was free, and afterwards it is taken. -/
def Enters (store : Store) (step : Step) (name : String) : Prop :=
  store.hasCollection name = false ∧ (store.perform step).hasCollection name = true

/-- One of the steps registers the name. -/
def EverRegistered (store : Store) (steps : List Step) (name : String) : Prop :=
  ∃ earlier step later, steps = earlier ++ step :: later ∧
    (store.performAll earlier).Enters step name

/-- A name is registered by the call that answers with its handle. -/
theorem enters_register_iff {now : Nat} {given : String} {schema : Schema} :
    store.Enters (.request (.register now given schema)) name ↔
      given = name ∧ ∃ collection, (store.register now given schema).1 = .ok collection := by
  unfold Enters
  rw [show store.perform (.request (.register now given schema))
    = (store.register now given schema).2 from rfl]
  obtain ⟨error, heq⟩ | ⟨patterns, -, -, hfree, heq⟩ := register_cases store now given schema
  · rw [heq]
    refine ⟨fun ⟨hfree, htaken⟩ => ?_, fun ⟨_, collection, hok⟩ => by cases hok⟩
    rw [hfree] at htaken
    cases htaken
  · rw [heq, hasCollection_addCollection]
    refine ⟨fun ⟨hfree', htaken⟩ => ⟨?_, _, rfl⟩, ?_⟩
    · rw [hfree', Bool.or_false] at htaken
      exact of_decide_eq_true htaken
    · rintro ⟨rfl, -⟩
      exact ⟨hfree, by simp⟩

/-- So is the name of an entity. -/
theorem enters_registerEntity_iff {now : Nat} {entity : Entity} :
    store.Enters (.registerEntity now entity) name ↔
      entity.name = name ∧ ∃ collection, (store.registerEntity now entity).1 = .ok collection := by
  have hperform : store.perform (.registerEntity now entity)
      = (store.registerEntity now entity).2 := rfl
  rw [Enters, hperform]
  obtain ⟨error, herror, hsame⟩ | ⟨schema, before, collection, registered, -, hbefore, hregister,
    hok, hafter⟩ := registerEntity_cases store now entity
  · rw [hsame.hasCollection, herror]
    refine ⟨fun ⟨hfree, htaken⟩ => ?_, fun ⟨_, collection, hok⟩ => by cases hok⟩
    rw [hfree] at htaken
    cases htaken
  · have hregistered : registered = before.perform (.request (.register now entity.name schema)) :=
      (congrArg Prod.snd hregister).symm
    have henters : before.Enters (.request (.register now entity.name schema)) name ↔ _ :=
      enters_register_iff
    rw [Enters, ← hregistered, hregister, hbefore.hasCollection] at henters
    rw [hafter.hasCollection, henters, hok]

theorem everRegistered_nil : ¬ store.EverRegistered [] name := by
  rintro ⟨earlier, step, later, heq, -⟩
  simp at heq

theorem everRegistered_concat {steps : List Step} {step : Step} :
    store.EverRegistered (steps ++ [step]) name ↔
      store.EverRegistered steps name ∨ (store.performAll steps).Enters step name := by
  constructor
  · rintro ⟨earlier, entering, later, heq, henters⟩
    rcases List.eq_nil_or_concat later with rfl | ⟨others, last, rfl⟩
    · obtain ⟨rfl, hlast⟩ := List.append_inj' heq rfl
      cases hlast
      exact .inr henters
    · rw [List.concat_eq_append, ← List.cons_append, ← List.append_assoc] at heq
      obtain ⟨rfl, -⟩ := List.append_inj' heq rfl
      exact .inl ⟨earlier, entering, others, rfl, henters⟩
  · rintro (⟨earlier, entering, later, rfl, henters⟩ | henters)
    · exact ⟨earlier, entering, later ++ [step], by simp, henters⟩
    · exact ⟨steps, step, [], rfl, henters⟩

/-! ### The catalog knows them -/

theorem Coherent.knows_of_hasCollection (h : store.Coherent)
    (hhas : store.hasCollection name = true) : store.Knows name := by
  obtain ⟨collection, hcollection⟩ := hasCollection_eq_true_iff.1 hhas
  obtain ⟨-, now, hentry, -⟩ := h.registered name collection hcollection
  exact ⟨_, hentry⟩

theorem Grows.hasCollection (h : store.Grows other) (hhas : store.hasCollection name = true) :
    other.hasCollection name = true := by
  induction h with
  | keeps hregistry _ =>
      unfold Store.hasCollection
      rw [hregistry]
      exact hhas
  | adds now collection _ _ ih =>
      apply ih
      rw [hasCollection_addCollection, hhas, Bool.or_true]

/-- Within a session the catalog learns only names that are registered. -/
theorem Grows.of_knows (h : store.Grows other) (hknows : other.Knows name) :
    store.Knows name ∨ other.hasCollection name = true := by
  induction h with
  | keeps _ hcatalog =>
      unfold Knows catalogEntry? at *
      rw [hcatalog] at hknows
      exact .inl hknows
  | @adds store _ now collection _ hgrows ih =>
      rcases ih hknows with ⟨entry, hentry⟩ | hhas
      · unfold catalogEntry? at hentry
        rw [Store.addCollection, Catalog.find?_record] at hentry
        split at hentry
        · rename_i hname
          right
          apply hgrows.hasCollection
          rw [hasCollection_addCollection, decide_eq_true (show collection.name = name from hname),
            Bool.true_or]
        · exact .inl ⟨entry, hentry⟩
      · exact .inr hhas

/-- Opening the store again teaches the catalog no names. -/
theorem Coherent.knows_reopen_iff (h : store.Coherent) (hreopen : store.reopen = .ok other) :
    other.Knows name ↔ store.Knows name := by
  refine ⟨fun hknows => ?_, h.knows_of_reopen hreopen⟩
  cases hcollection : store.collection? name with
  | some collection =>
      exact h.knows_of_hasCollection (hasCollection_eq_true_iff.2 ⟨collection, hcollection⟩)
  | none =>
      obtain ⟨-, -, hfind, -⟩ := h.catalogEntry?_reopen hreopen
      obtain ⟨entry, hentry⟩ := hknows
      rw [hfind, ← h.carried name hcollection] at hentry
      exact ⟨entry, hentry⟩

/-- A step teaches the catalog the names that it registers. -/
theorem Coherent.knows_perform_iff (h : store.Coherent) {step : Step} :
    (store.perform step).Knows name ↔ store.Knows name ∨ store.Enters step name := by
  have hafter := h.perform step
  constructor
  · intro hknows
    by_cases hfree : store.hasCollection name = false
    · obtain hgrows | hreopen := perform_cases store step
      · exact (hgrows.of_knows hknows).imp_right fun hhas => ⟨hfree, hhas⟩
      · exact .inl ((h.knows_reopen_iff hreopen).1 hknows)
    · exact .inl (h.knows_of_hasCollection (Bool.not_eq_false _ ▸ hfree))
  · rintro (hknows | henters)
    · exact h.knows_performAll [step] hknows
    · exact hafter.knows_of_hasCollection henters.2

/-- After any steps, the catalog of a store that started without content knows the names that were
registered in their course. -/
theorem knows_iff_everRegistered (database : String) (generator : ObjectId.Generator)
    (steps : List Step) :
    ((fresh database generator).performAll steps).Knows name ↔
      (fresh database generator).EverRegistered steps name := by
  induction steps using List.reverseRecOn with
  | nil =>
      refine ⟨fun ⟨entry, hentry⟩ => ?_, fun h => absurd h everRegistered_nil⟩
      cases hentry
  | append_singleton steps step ih =>
      have hcoherent : ((fresh database generator).performAll steps).Coherent :=
        (coherent_fresh database generator).performAll steps
      rw [everRegistered_concat, ← ih, performAll_append]
      exact hcoherent.knows_perform_iff

theorem Coherent.mem_knownNames_iff (h : store.Coherent) :
    name ∈ store.knownNames.keys ↔ store.Knows name := by
  have hcatalog : name ∈ store.catalog.names ↔ store.Knows name := by
    rw [Catalog.names, SortedMap.mem_keys_iff, SortedMap.has, Option.isSome_iff_exists]
    rfl
  have hregistry : name ∈ store.collectionNames ↔ store.hasCollection name = true :=
    SortedMap.mem_keys_iff
  rw [knownNames, NameSet.mem_keys_ofNames, List.mem_append, hcatalog, hregistry]
  exact ⟨fun h' => h'.elim id h.knows_of_hasCollection, .inl⟩

end Store

/-! ### The status -/

theorem Status.total_eq_sum (status : Status) :
    status.total = (status.collections.map Statistics.count).sum := by
  rw [Status.total, List.sum_eq_foldl, List.foldl_map]

/-- What the status of a store tells: an entry for each name that was ever registered, measured on
the documents stored under it, which is also what its handle answers. -/
structure Status.Reports (status : Status) (store : Store) (registered : String → Prop) : Prop where
  ascending : (status.collections.map Statistics.name).Pairwise fun a b => compare a b = .lt
  listed : ∀ name, name ∈ status.collections.map Statistics.name ↔ registered name
  measured : ∀ entry ∈ status.collections, ∃ stored, store.HoldsExactly entry.name stored ∧
    entry.qualifiedName = store.database ++ "." ++ entry.name ∧
    entry.count = stored.length ∧
    entry.size = (stored.map fun document => document.toOctets.length).sum ∧
    entry.storageSize = entry.size + 12 * entry.count
  handle : ∀ name collection, store.collection? name = some collection → ∃ entry,
    status.collection? name = some entry ∧ entry = store.statistics collection.name ∧
      entry.count = store.count collection
  total : status.total = (status.collections.map Statistics.count).sum

namespace Store

/-- Looking an entry up by the name it was made for. -/
private theorem find?_map_statistics (store : Store) {names : List String} {name : String}
    (h : name ∈ names) :
    (names.map store.statistics).find? (fun entry => entry.name = name)
      = some (store.statistics name) := by
  induction names with
  | nil => cases h
  | cons first rest ih =>
      rw [List.map_cons]
      by_cases hname : first = name
      · subst hname
        exact List.find?_cons_of_pos (decide_eq_true rfl)
      · rw [List.find?_cons, show decide ((store.statistics first).name = name) = false from
          decide_eq_false hname]
        exact ih ((List.mem_cons.1 h).resolve_left (Ne.symm hname))

/-- Whatever was done to a store that started without content, its status lists every collection
that was ever registered once, in ascending order, with the size of what is stored in it. -/
theorem status_reports (database : String) (generator : ObjectId.Generator) (steps : List Step) :
    let store := (fresh database generator).performAll steps
    store.status.Reports store ((fresh database generator).EverRegistered steps) := by
  intro store
  have hcoherent : store.Coherent := (coherent_fresh database generator).performAll steps
  have hkeyed : store.Keyed := (keyed_fresh database generator).performAll steps
  have hnames : store.status.collections.map Statistics.name = store.knownNames.keys := by
    rw [status, List.map_map]
    exact List.map_id _
  refine ⟨?_, fun name => ?_, fun entry hmem => ?_, fun name collection hcollection => ?_,
    Status.total_eq_sum _⟩
  · rw [hnames, SortedMap.keys, List.pairwise_map]
    exact store.knownNames.sorted
  · rw [hnames, hcoherent.mem_knownNames_iff]
    exact knows_iff_everRegistered database generator steps
  · obtain ⟨name, -, rfl⟩ := List.mem_map.1 hmem
    obtain ⟨stored, hstored⟩ := hkeyed.exists_holdsExactly name
    rw [hstored.statistics_eq]
    exact ⟨stored, hstored, rfl, rfl, rfl, rfl⟩
  · obtain ⟨hname, -⟩ := hcoherent.registered name collection hcollection
    have hknown : name ∈ store.knownNames.keys := hcoherent.mem_knownNames_iff.2
      (hcoherent.knows_of_hasCollection (hasCollection_eq_true_iff.2 ⟨collection, hcollection⟩))
    refine ⟨_, find?_map_statistics store hknown, by rw [hname], ?_⟩
    rw [count, hname]
    rfl

end Store

end TypedCollections
