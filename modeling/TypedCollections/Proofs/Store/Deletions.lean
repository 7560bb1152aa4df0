import Mathlib.Tactic.ByContra
import TypedCollections.Proofs.Store.Owners
/-!
# Deletions

A deletion takes out the entry of an identifier before it reads it. So a deletion that fails, because
the entry is no document, has taken it out all the same, and the values it owned stay claimed. And a
deletion releases the values of the document read back, which need not be those that were claimed when
it was inserted: a number that is not finite is claimed as null, and null is not a value of the
document read back.
-/

namespace TypedCollections

namespace Store

variable {store : Store} {collection : Collection} {id : ObjectId}

/-- The trees of documents and the unique index are the same. -/
structure SameEntries (store other : Store) : Prop where
  tree : ∀ name, other.tree name = store.tree name
  unique : other.unique = store.unique

theorem sameEntries_iff {other : Store} : store.SameEntries other ↔
    (∀ name key, (other.tree name).find? key = (store.tree name).find? key) ∧
      ∀ octets, other.unique.tree.find? octets = store.unique.tree.find? octets := by
  constructor
  · intro h
    exact ⟨fun name key => by rw [h.tree], fun octets => by rw [h.unique]⟩
  · intro h
    refine ⟨fun name => SortedMap.ext_find? (h.1 name), ?_⟩
    have htree : other.unique.tree = store.unique.tree := SortedMap.ext_find? h.2
    show UniqueIndex.mk other.unique.tree = UniqueIndex.mk store.unique.tree
    rw [htree]

/-! ### What a deletion does -/

/-- What a deletion leaves in the trees where an entry stood: all other entries. -/
def Erases (store : Store) (name : String) (id : ObjectId) (other : Store) : Prop :=
  ∀ wanted key, (other.tree wanted).find? key =
    if wanted = name ∧ key = id.octets then none else (store.tree wanted).find? key

/-- There is no entry, or it is read and its document's values are released, or it is not read and no
value is released. The entry is gone if there was one. -/
theorem delete_cases (store : Store) (collection : Collection) (id : ObjectId) :
    ((store.tree collection.name).find? id.octets = none ∧
      store.delete collection id = (.ok false, store)) ∨
    (∃ octets removed, (store.tree collection.name).find? id.octets = some octets ∧
      Document.ofOctets octets = .ok removed ∧
      (store.delete collection id).1 = .ok true ∧
      store.Erases collection.name id (store.delete collection id).2 ∧
      (store.delete collection id).2.unique
        = store.unique.releaseEach id (collection.uniqueKeys removed)) ∨
    ∃ octets fault, (store.tree collection.name).find? id.octets = some octets ∧
      Document.ofOctets octets = .error fault ∧
      (store.delete collection id).1 = .error (.unreadable fault) ∧
      store.Erases collection.name id (store.delete collection id).2 ∧
      (store.delete collection id).2.unique = store.unique := by
  have herases := fun wanted key => find?_erased store collection.name wanted id.octets key
  cases hfind : (store.tree collection.name).find? id.octets with
  | none =>
      refine .inl ⟨rfl, ?_⟩
      unfold delete
      simp only [hfind]
  | some octets =>
      cases hread : Document.ofOctets octets with
      | ok removed =>
          obtain ⟨events, hdelete⟩ := delete_of_find? collection hfind hread
          rw [hdelete]
          exact .inr (.inl ⟨octets, removed, rfl, hread, rfl, herases, rfl⟩)
      | error fault =>
          have hdelete : store.delete collection id = (.error (.unreadable fault),
              store.setTree collection.name ((store.tree collection.name).erase id.octets)) := by
            unfold delete
            simp only [hfind, readDocument, hread]
          rw [hdelete]
          exact .inr (.inr ⟨octets, fault, rfl, hread, rfl, herases, rfl⟩)

theorem Erases.not_sameEntries {other : Store} {name : String} {octets : List UInt8}
    (h : store.Erases name id other) (hfind : (store.tree name).find? id.octets = some octets) :
    ¬ store.SameEntries other := by
  intro hsame
  have hgone := h name id.octets
  rw [if_pos ⟨rfl, rfl⟩, hsame.tree, hfind] at hgone
  cases hgone

/-! ### Deletions that fail -/

/-- A deletion fails exactly if the entry under the identifier is no document. It leaves the trees and
the index as they are when it fails, exactly if there is no such entry: a deletion that fails has
taken the entry out and keeps every value claimed. -/
theorem failed_deletion_iff (store : Store) (collection : Collection) (id : ObjectId) :
    (∀ error, (store.delete collection id).1 = .error error ↔
      ∃ octets fault, (store.tree collection.name).find? id.octets = some octets ∧
        Document.ofOctets octets = .error fault ∧ error = .unreadable fault) ∧
    ((∀ error, (store.delete collection id).1 = .error error →
        store.SameEntries (store.delete collection id).2) ↔
      ∀ octets, (store.tree collection.name).find? id.octets = some octets →
        ∃ document, Document.ofOctets octets = .ok document) ∧
    ∀ error, (store.delete collection id).1 = .error error →
      store.Erases collection.name id (store.delete collection id).2 ∧
        (store.delete collection id).2.unique = store.unique := by
  obtain ⟨hfind, hdelete⟩ | ⟨octets, removed, hfind, hread, hanswer, -, -⟩ |
    ⟨octets, fault, hfind, hread, hanswer, herases, hunique⟩ := delete_cases store collection id
  · refine ⟨fun error => ?_, ?_, fun error h => ?_⟩
    · simp [hdelete, hfind]
    · simp [hdelete, hfind]
    · rw [hdelete] at h
      cases h
  · refine ⟨fun error => ?_, ?_, fun error h => ?_⟩
    · simp [hanswer, hfind, hread]
    · simp [hanswer, hfind, hread]
    · rw [hanswer] at h
      cases h
  · have hchanged := herases.not_sameEntries hfind
    refine ⟨fun error => ?_, ?_, fun _ _ => ⟨herases, hunique⟩⟩
    · simp [hanswer, hfind, hread, eq_comm]
    · simp [hanswer, hfind, hread, hchanged]

end Store

/-! ### A damaged entry -/

namespace Sample

/-- A member was written, and of its entry only the first octet is left. -/
def damaged : Store :=
  let store := (Store.fresh "db" generator).run
    [.register 0 "members" { fields := members, timestamps := false },
      .insert "members" 0 (member 1 "ann")]
  store.setTree "members" ((store.tree "members").insert (ident 1).octets [0x7b])

end Sample

namespace Store

/-- Deleting the damaged entry fails, and yet it is gone, and the address is still claimed. -/
theorem entries_of_damaged_deletion :
    (Sample.damaged.serve (.delete "members" (Sample.ident 1))).1
        = .failed (.unreadable .malformed) ∧
      ¬ Sample.damaged.SameEntries
        (Sample.damaged.serve (.delete "members" (Sample.ident 1))).2 ∧
      ((Sample.damaged.serve (.delete "members" (Sample.ident 1))).2.unique.owner?
        ⟨"members", "address", "\"ann\""⟩) = some (Sample.ident 1) := by
  refine ⟨Sample.eq_failed_of_failure? (by decide +kernel), fun hsame => ?_, by decide +kernel⟩
  have hsize := congrArg SortedMap.size (hsame.tree "members")
  exact absurd hsize (by decide +kernel)

end Store

/-! ### Indexes of identifiers -/

namespace UniqueIndex

variable {index claimed : UniqueIndex} {id : ObjectId} {now released : List UniqueKey}

/-- Every entry of the index is an identifier. -/
def NamesOwners (index : UniqueIndex) : Prop :=
  ∀ octets value, index.tree.find? octets = some value → ∃ owner : ObjectId, value = owner.octets

theorem NamesOwners.find?_of_owner?_eq_none (h : index.NamesOwners) {key : UniqueKey}
    (howner : index.owner? key = none) : index.tree.find? key.octets = none := by
  cases hfind : index.tree.find? key.octets with
  | none => rfl
  | some value =>
      obtain ⟨owner, rfl⟩ := h _ value hfind
      rw [owner?_eq_some_iff.2 hfind] at howner
      cases howner

theorem NamesOwners.exchange (h : index.NamesOwners) {before : List UniqueKey}
    (hfree : index.Free id now) : (index.exchange id before now).2.NamesOwners := by
  intro octets value hfind
  rw [(exchange_of_free before hfree).2] at hfind
  split at hfind
  · exact ⟨id, (Option.some.inj hfind).symm⟩
  · split at hfind
    · cases hfind
    · exact h octets value hfind

theorem NamesOwners.releaseEach (h : index.NamesOwners) (id : ObjectId) (keys : List UniqueKey) :
    (index.releaseEach id keys).NamesOwners := by
  intro octets value hfind
  rw [find?_releaseEach] at hfind
  split at hfind
  · cases hfind
  · exact h octets value hfind

/-- Keys were claimed that no other document owned. Releasing keys afterwards leaves the index as it
was before exactly if the document owned none of the keys released, and each key claimed is released
or was owned by the document already. -/
theorem releaseEach_undoes_iff (hnames : index.NamesOwners) (hfree : index.Free id now)
    (hclaims : ∀ octets, claimed.tree.find? octets =
      if Among octets now then some id.octets else index.tree.find? octets)
    (hkeys : ∀ a ∈ now, ∀ b ∈ released, a.octets = b.octets → a = b) :
    (∀ octets, (claimed.releaseEach id released).tree.find? octets = index.tree.find? octets) ↔
      (∀ key ∈ released, index.owner? key ≠ some id) ∧
        ∀ key ∈ now, key ∈ released ∨ index.owner? key = some id := by
  constructor
  · intro h
    constructor
    · intro key hmem howner
      have hfind : index.tree.find? key.octets = some id.octets := owner?_eq_some_iff.1 howner
      have hclaimed : claimed.tree.find? key.octets = some id.octets := by
        rw [hclaims, hfind, ite_self]
      have hafter := h key.octets
      rw [find?_releaseEach, if_pos ⟨⟨key, hmem, rfl⟩, hclaimed⟩, hfind] at hafter
      cases hafter
    · intro key hmem
      by_cases hreleased : key ∈ released
      · exact .inl hreleased
      · right
        have hkept : ¬ Among key.octets released := by
          rintro ⟨other, hother, hoctets⟩
          rw [hkeys key hmem other hother hoctets.symm] at hreleased
          exact hreleased hother
        have hafter := h key.octets
        rw [find?_releaseEach, if_neg fun h => hkept h.1, hclaims, if_pos ⟨key, hmem, rfl⟩] at hafter
        exact owner?_eq_some_iff.2 hafter.symm
  · rintro ⟨hreleased, hnow⟩ octets
    rw [find?_releaseEach, hclaims]
    by_cases hamong : Among octets now
    · rw [if_pos hamong]
      obtain ⟨key, hmem, rfl⟩ := hamong
      rcases hnow key hmem with hkey | howner
      · have hunowned : index.owner? key = none := by
          cases howner : index.owner? key with
          | none => rfl
          | some owner =>
              obtain rfl : owner = id := hfree key hmem owner howner
              exact absurd howner (hreleased key hkey)
        rw [if_pos ⟨⟨key, hkey, rfl⟩, rfl⟩, hnames.find?_of_owner?_eq_none hunowned]
      · have hkept : ¬ Among key.octets released := by
          rintro ⟨other, hother, hoctets⟩
          rw [hkeys key hmem other hother hoctets.symm] at howner
          exact hreleased other hother howner
        rw [if_neg fun h => hkept h.1, owner?_eq_some_iff.1 howner]
    · rw [if_neg hamong, if_neg]
      rintro ⟨⟨key, hmem, rfl⟩, hfind⟩
      exact hreleased key hmem (owner?_eq_some_iff.2 hfind)

end UniqueIndex

namespace Store

variable {store other : Store} {collection : Collection} {id : ObjectId} {now : Nat}
  {document stored : Document}

theorem namesOwners_perform (h : store.unique.NamesOwners) (step : Step) :
    (store.perform step).unique.NamesOwners := by
  cases outcome_of_perform store step with
  | registers hregisters =>
      rw [hregisters.unique]
      exact h
  | reopens _ hreopens =>
      rw [hreopens.unique]
      exact h
  | writes _ _ hwrites =>
      obtain ⟨collection, drawn, now, previous, events, -, hdrawn, -, hwrite, heq⟩ := hwrites
      obtain ⟨checked, unique, others, -, -, hafter, hfree, hexchange⟩ := exists_put_of_write hwrite
      have hunique : (drawn.unique.exchange _ ((previous.map collection.uniqueKeys).getD []) _).2
          = unique := congrArg Prod.snd hexchange
      rw [heq, hafter]
      show unique.NamesOwners
      rw [← hunique]
      refine UniqueIndex.NamesOwners.exchange ?_ hfree
      rw [hdrawn.unique]
      exact h
  | deletes hdeletes =>
      obtain ⟨name, collection, id, -, heq⟩ := hdeletes
      rw [heq]
      obtain ⟨-, hdelete⟩ | ⟨octets, removed, -, -, -, -, hunique⟩ |
        ⟨octets, fault, -, -, -, -, hunique⟩ := delete_cases store collection id
      · rw [hdelete]
        exact h
      · rw [hunique]
        exact h.releaseEach id _
      · rw [hunique]
        exact h

theorem namesOwners_performAll (h : store.unique.NamesOwners) (steps : List Step) :
    (store.performAll steps).unique.NamesOwners := by
  induction steps generalizing store with
  | nil => exact h
  | cons step rest ih => exact ih (namesOwners_perform h step)

/-! ### Deleting what was inserted -/

/-- The other store is the store with one document more: no other document owned its unique values,
and it owns them now. -/
structure Adds (store : Store) (collection : Collection) (stored : Document) (other : Store) :
    Prop where
  absent : (store.tree collection.name).find? stored.id.octets = none
  free : store.unique.Free stored.id (collection.uniqueKeys stored)
  entries : ∀ wanted key, (other.tree wanted).find? key =
    if wanted = collection.name ∧ key = stored.id.octets then some stored.toOctets
    else (store.tree wanted).find? key
  claims : ∀ octets, other.unique.tree.find? octets =
    if UniqueIndex.Among octets (collection.uniqueKeys stored) then some stored.id.octets
    else store.unique.tree.find? octets

/-- A document that was inserted is made of checked fields, and was added. -/
theorem adds_of_insert (h : (store.insert collection now document).1 = .ok stored) :
    (∃ checked, stored = Document.ofFields document.id checked) ∧
      store.Adds collection stored (store.insert collection now document).2 := by
  cases htaken : (store.tree collection.name).has document.id.octets with
  | true =>
      unfold Store.insert at h
      rw [htaken] at h
      cases h
  | false =>
      obtain ⟨events, hinsert⟩ := insert_of_not_has now htaken
      rw [hinsert] at h ⊢
      obtain ⟨checked, unique, others, -, rfl, hafter, hfree, hexchange⟩ := exists_put_of_write h
      have hclaims := (UniqueIndex.exchange_of_free [] hfree).2
      have hunique : (store.unique.exchange document.id [] _).2 = unique := congrArg Prod.snd hexchange
      rw [hunique] at hclaims
      refine ⟨⟨checked, rfl⟩, ?_⟩
      rw [hafter]
      refine ⟨?_, ?_, find?_put _ collection _, fun octets => ?_⟩
      · rw [Document.id_ofFields]
        simpa [SortedMap.has] using htaken
      · rw [Document.id_ofFields]
        exact hfree
      · rw [Document.id_ofFields]
        have hnone : ¬ (UniqueIndex.Among octets [] ∧
            store.unique.tree.find? octets = some document.id.octets) := by
          rintro ⟨⟨key, hmem, -⟩, -⟩
          cases hmem
        exact (hclaims octets).trans (by rw [if_neg hnone])

theorem Owns.eq_of_octets_eq {fields : Fields} {name : String} {a b : Document} {key key' : UniqueKey}
    (h : Owns fields name a key) (h' : Owns fields name b key') (hoctets : key.octets = key'.octets) :
    key = key' := by
  obtain ⟨field, value, -, -, -, rfl⟩ := h
  obtain ⟨field', value', -, -, -, rfl⟩ := h'
  exact UniqueKey.eq_of_octets_eq rfl (Json.null_not_mem_text _) (Json.null_not_mem_text _) hoctets

/-- Deleting an added document leaves the trees and the index as they were before exactly if the
document is read back, it owned none of the values of the document read, and each value claimed for it
is one of these or was its own already. -/
theorem Adds.delete_undoes_iff (h : store.Adds collection stored other)
    (hnames : store.unique.NamesOwners) :
    ((other.delete collection stored.id).1 = .ok true ∧
        store.SameEntries (other.delete collection stored.id).2) ↔
      ∃ read, Document.ofOctets stored.toOctets = .ok read ∧
        (∀ key ∈ collection.uniqueKeys read, store.unique.owner? key ≠ some stored.id) ∧
        ∀ key ∈ collection.uniqueKeys stored,
          key ∈ collection.uniqueKeys read ∨ store.unique.owner? key = some stored.id := by
  have hentry : (other.tree collection.name).find? stored.id.octets = some stored.toOctets := by
    rw [h.entries, if_pos ⟨rfl, rfl⟩]
  obtain ⟨hnone, -⟩ | ⟨octets, read, hfind, hread, hanswer, herases, hunique⟩ |
    ⟨octets, fault, hfind, hread, hanswer, -, -⟩ := delete_cases other collection stored.id
  · rw [hnone] at hentry
    cases hentry
  · obtain rfl : octets = stored.toOctets := Option.some.inj (hfind.symm.trans hentry)
    have htrees : ∀ name key, ((other.delete collection stored.id).2.tree name).find? key
        = (store.tree name).find? key := by
      intro name key
      rw [herases, h.entries]
      split
      · rename_i hplace
        rw [hplace.1, hplace.2, h.absent]
      · rfl
    have hkeys : ∀ a ∈ collection.uniqueKeys stored, ∀ b ∈ collection.uniqueKeys read,
        a.octets = b.octets → a = b := fun a ha b hb =>
      Owns.eq_of_octets_eq (Collection.mem_uniqueKeys.1 ha) (Collection.mem_uniqueKeys.1 hb)
    have hundoes := UniqueIndex.releaseEach_undoes_iff hnames h.free h.claims hkeys
    rw [← hunique] at hundoes
    constructor
    · rintro ⟨-, hsame⟩
      exact ⟨read, hread, hundoes.1 (sameEntries_iff.1 hsame).2⟩
    · rintro ⟨found, hfound, howners⟩
      obtain rfl : found = read := Except.ok.inj (hfound.symm.trans hread)
      exact ⟨hanswer, sameEntries_iff.2 ⟨htrees, hundoes.2 howners⟩⟩
  · obtain rfl : octets = stored.toOctets := Option.some.inj (hfind.symm.trans hentry)
    rw [hanswer, hread]
    constructor
    · rintro ⟨hok, -⟩
      cases hok
    · rintro ⟨found, hfound, -⟩
      cases hfound

/-! ### Which values are claimed and released -/

/-- A document read back needs the key of each unique value that is not read back as null. -/
theorem mem_uniqueKeys_reread {key : UniqueKey} :
    key ∈ collection.uniqueKeys document.reread ↔
      ∃ field value, IsUnique collection.schema.fields field ∧ document.get? field = some value ∧
        value.reread ≠ .null ∧ key = ⟨collection.name, field, value.toJson.text⟩ := by
  rw [Collection.mem_uniqueKeys]
  unfold Owns
  constructor
  · rintro ⟨field, reread, hunique, hget, hnull, rfl⟩
    rw [Document.get?_reread] at hget
    obtain ⟨value, hvalue, rfl⟩ := Option.map_eq_some_iff.1 hget
    exact ⟨field, value, hunique, hvalue, hnull, by rw [Value.toJson_reread]⟩
  · rintro ⟨field, value, hunique, hvalue, hnull, rfl⟩
    refine ⟨field, value.reread, hunique, ?_, hnull, by rw [Value.toJson_reread]⟩
    rw [Document.get?_reread, hvalue]
    rfl

theorem mem_uniqueKeys_of_reread {key : UniqueKey}
    (h : key ∈ collection.uniqueKeys document.reread) : key ∈ collection.uniqueKeys document := by
  obtain ⟨field, value, hunique, hvalue, hnull, rfl⟩ := mem_uniqueKeys_reread.1 h
  refine Collection.mem_uniqueKeys.2 ⟨field, value, hunique, hvalue, ?_, rfl⟩
  rintro rfl
  exact hnull rfl

/-- The document read back needs all the keys that the document needs exactly if its numbers in unique
fields are finite. -/
theorem uniqueKeys_reread_iff :
    (∀ key ∈ collection.uniqueKeys document, key ∈ collection.uniqueKeys document.reread) ↔
      ∀ field number, IsUnique collection.schema.fields field →
        document.get? field = some (.number number) → ∃ finite, number = .finite finite := by
  constructor
  · intro h field number hunique hvalue
    by_contra hfinite
    have hnull : (Value.number number).reread = .null :=
      Value.reread_eq_null_iff.2 (.inr ⟨number, rfl, fun finite heq => hfinite ⟨finite, heq⟩⟩)
    have hkey : (⟨collection.name, field, (Value.number number).toJson.text⟩ : UniqueKey)
        ∈ collection.uniqueKeys document :=
      Collection.mem_uniqueKeys.2 ⟨field, _, hunique, hvalue, by simp, rfl⟩
    obtain ⟨field', value, -, hvalue', hkept, heq⟩ := mem_uniqueKeys_reread.1 (h _ hkey)
    obtain rfl : field = field' := congrArg UniqueKey.field heq
    rw [hvalue] at hvalue'
    cases hvalue'
    exact hkept hnull
  · intro h key hmem
    obtain ⟨field, value, hunique, hvalue, hnull, rfl⟩ := Collection.mem_uniqueKeys.1 hmem
    refine mem_uniqueKeys_reread.2 ⟨field, value, hunique, hvalue, fun hreread => ?_, rfl⟩
    rcases Value.reread_eq_null_iff.1 hreread with rfl | ⟨number, rfl, hfinite⟩
    · exact hnull rfl
    · obtain ⟨finite, rfl⟩ := h field number hunique hvalue
      exact hfinite finite rfl

/-- After every history, deleting a document that was just inserted answers that it was there and
leaves the trees and the index as they were before the insertion exactly if the document is read back,
its identifier owned no value of the document read, and each value it claimed is among these or was its
own already. Where its text is read as it was written and its identifier owned none of its values, this
is so exactly if its numbers in unique fields are finite. -/
theorem insertion_undone_iff (database : String) (generator : ObjectId.Generator)
    (steps : List Step) {store : Store}
    (hstore : store = (fresh database generator).performAll steps) (collection : Collection)
    (now : Nat) (document stored : Document)
    (hinsert : (store.insert collection now document).1 = .ok stored) :
    let deleted := (store.insert collection now document).2.delete collection document.id
    ((deleted.1 = .ok true ∧ store.SameEntries deleted.2) ↔
      ∃ read, Document.ofOctets stored.toOctets = .ok read ∧
        (∀ key ∈ collection.uniqueKeys read, store.unique.owner? key ≠ some document.id) ∧
        ∀ key ∈ collection.uniqueKeys stored,
          key ∈ collection.uniqueKeys read ∨ store.unique.owner? key = some document.id) ∧
    (Json.read stored.text = .ok stored.toJson →
      (∀ key ∈ collection.uniqueKeys stored, store.unique.owner? key ≠ some document.id) →
      ((deleted.1 = .ok true ∧ store.SameEntries deleted.2) ↔
        ∀ field number, IsUnique collection.schema.fields field →
          stored.get? field = some (.number number) → ∃ finite, number = .finite finite)) := by
  intro deleted
  obtain ⟨⟨checked, hstored⟩, hadds⟩ := adds_of_insert hinsert
  have hid : stored.id = document.id := by rw [hstored, Document.id_ofFields]
  have hnames : store.unique.NamesOwners := by
    rw [hstore]
    exact namesOwners_performAll (fun octets value h => by cases h) steps
  have hundoes := hadds.delete_undoes_iff hnames
  rw [hid] at hundoes
  refine ⟨hundoes, fun hread hfree => ?_⟩
  have hreread : Document.ofOctets stored.toOctets = .ok stored.reread := by
    refine Document.ofOctets_of_read ?_ ?_ hread
    · rw [hstored]
      exact Document.id_not_mem_ofFields _ _
    · rw [hstored]
      exact Document.distinct_ofFields _ _
  rw [hundoes, ← uniqueKeys_reread_iff]
  constructor
  · rintro ⟨read, hok, -, hkeys⟩ key hmem
    obtain rfl : read = stored.reread := Except.ok.inj (hok.symm.trans hreread)
    exact (hkeys key hmem).resolve_right (hfree key hmem)
  · intro h
    exact ⟨stored.reread, hreread, fun key hmem => hfree key (mem_uniqueKeys_of_reread hmem),
      fun key hmem => .inl (h key hmem)⟩

end Store

/-! ### A member, and a reading that is no number -/

namespace Sample

/-- Members are registered. -/
def enrolment : List Step :=
  [.request (.register 0 "members" { fields := members, timestamps := false })]

/-- Readings are told apart by their levels. -/
def levels : Fields :=
  [("level", { type := .scalar .number, required := true, options := [("unique", .bool true)] })]

def level (octet : UInt8) (number : Number) : Document :=
  ⟨ident octet, [("level", .number number)], []⟩

/-- Readings are registered, and none is there. -/
def gauge : Store :=
  (Store.fresh "db" generator).performAll
    [.request (.register 0 "readings" { fields := levels, timestamps := false })]

/-- A reading is inserted that is no number, and deleted again. -/
def withdrawal : List Request :=
  [.insert "readings" 0 (level 1 .notANumber), .delete "readings" (ident 1)]

/-- Why the last of three requests failed, if a document was inserted and deleted before. -/
def failureAfterDeletion? : List Answer → Option Error
  | [.written _, .deleted true, .failed error] => some error
  | _ => none

theorem exists_of_failureAfterDeletion? {answers : List Answer} {error : Error}
    (h : failureAfterDeletion? answers = some error) :
    ∃ stored, answers = [.written stored, .deleted true, .failed error] := by
  unfold failureAfterDeletion? at h
  split at h
  · cases h
    exact ⟨_, rfl⟩
  · cases h

end Sample

namespace Store

/-- A member that was inserted and deleted leaves nothing behind. -/
theorem insertion_undone_of_member :
    ∃ store stored, store = (fresh "db" Sample.generator).performAll Sample.enrolment ∧
      (store.insert (Sample.membersOf Sample.members) 0 (Sample.member 1 "ann")).1 = .ok stored ∧
      ((store.insert (Sample.membersOf Sample.members) 0 (Sample.member 1 "ann")).2.delete
          (Sample.membersOf Sample.members) (Sample.ident 1)).1 = .ok true ∧
        store.SameEntries ((store.insert (Sample.membersOf Sample.members) 0
          (Sample.member 1 "ann")).2.delete (Sample.membersOf Sample.members) (Sample.ident 1)).2 := by
  have hany : (((fresh "db" Sample.generator).performAll Sample.enrolment).insert
      (Sample.membersOf Sample.members) 0 (Sample.member 1 "ann")).1.toOption.any Sample.isMember
        = true := by
    decide +kernel
  obtain ⟨stored, hinsert, hmember⟩ := Sample.exists_of_any hany
  obtain ⟨address, hstored⟩ := Sample.eq_of_isMember hmember
  have hwell : stored.WellFormed := by
    rw [hstored]
    exact ⟨by simp [Entries.names, idField], by simp [Entries.Distinct, Entries.names],
      by simp [Value.WellFormed], by simp⟩
  have hundone := insertion_undone_iff "db" Sample.generator Sample.enrolment rfl
    (Sample.membersOf Sample.members) 0 (Sample.member 1 "ann") stored hinsert
  refine ⟨_, stored, rfl, hinsert, (hundone.2 ?_ ?_).2 ?_⟩
  · exact (Sample.storable_of_isMember hmember).readable.read_text hwell
  · intro key hmem howner
    have hempty : ((fresh "db" Sample.generator).performAll Sample.enrolment).unique = .empty :=
      (registers_register (fresh "db" Sample.generator) 0 "members"
        { fields := Sample.members, timestamps := false }).unique
    rw [hempty] at howner
    cases howner
  · intro field number _ hnumber
    have hmem := Entries.mem_of_find? hnumber
    rw [hstored] at hmem
    simp at hmem

/-- A reading that is no number is claimed as null when it is inserted. Deleting it answers that it was
there, and yet null stays claimed, so that an infinite reading is refused afterwards. -/
theorem withdrawal_not_undone :
    ¬ Sample.gauge.SameEntries (Sample.gauge.run Sample.withdrawal) ∧
      ∃ stored, Sample.gauge.answers
          (Sample.withdrawal ++ [.insert "readings" 0 (Sample.level 2 (.infinite false))])
        = [.written stored, .deleted true, .failed (.uniqueViolation "readings" "level" "null")] := by
  constructor
  · intro hsame
    have hsize : (Sample.gauge.run Sample.withdrawal).unique.size = Sample.gauge.unique.size := by
      rw [hsame.unique]
    exact absurd hsize (by decide +kernel)
  · exact Sample.exists_of_failureAfterDeletion? (by decide +kernel)

end Store

end TypedCollections
