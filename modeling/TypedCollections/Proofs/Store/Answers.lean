import TypedCollections.Proofs.Store.Conforming
import TypedCollections.Proofs.Store.Refinement
/-!
# The answers of a run

From the first request on, a store answers as shelves that start without documents. What stands on
them is what is read back of the documents written, which are the same documents as long as their
numbers are finite and no field inside them is marked as identifiers are.
-/

namespace TypedCollections

variable {definition : String → Fields} {store : Store} {shelves : Shelves}

namespace Store

/-! ### What is written was prepared -/

private theorem eq_ok_of_mem_written {request : Request} {name : String} {document : Document}
    {result : Except Error Document} (h : (name, document) ∈ request.written (.of .written result)) :
    request.writes? = some name ∧ result = .ok document := by
  cases result with
  | error error => cases h
  | ok stored =>
      simp only [Answer.of, Request.written, Option.mem_toList, Option.map_eq_some_iff] at h
      obtain ⟨other, hother, heq⟩ := h
      cases heq
      exact ⟨hother, rfl⟩

private theorem eq_ok_of_mem_updated {request : Request} {name : String} {document : Document}
    {result : Except Error (Option Document)}
    (h : (name, document) ∈ request.written (.of .updated result)) :
    request.writes? = some name ∧ result = .ok (some document) := by
  cases result with
  | error error => cases h
  | ok stored? =>
      cases stored? with
      | none => cases h
      | some stored =>
          have hwritten : (name, document) ∈ request.written (.of .written (.ok stored)) := h
          obtain ⟨hname, hok⟩ := eq_ok_of_mem_written hwritten
          exact ⟨hname, by rw [Except.ok.inj hok]⟩

private theorem exists_of_mem_written_on {request : Request} {name asked : String}
    {document : Document} {ask : Collection → Answer × Store}
    (h : (name, document) ∈ request.written (store.on asked ask).1) :
    ∃ collection, store.collection? asked = some collection ∧
      (name, document) ∈ request.written (ask collection).1 := by
  unfold Store.on at h
  cases hfind : store.collection? asked with
  | none =>
      rw [hfind] at h
      cases h
  | some collection =>
      rw [hfind] at h
      exact ⟨collection, rfl, h⟩

/-- A document that is reported as written was prepared. -/
theorem prepared?_of_written {request : Request} {name : String} {document : Document}
    (h : (name, document) ∈ request.written (store.serve request).1) :
    store.prepared? request = some (name, document) := by
  cases request with
  | insert asked now given =>
      obtain ⟨collection, hfind, h⟩ := exists_of_mem_written_on h
      obtain ⟨hname, hok⟩ := eq_ok_of_mem_written h
      cases hname
      simp [prepared?, hfind, prepare?_of_write (exists_write_of_insert hok).1]
  | insertJson asked now json =>
      obtain ⟨collection, hfind, h⟩ := exists_of_mem_written_on h
      obtain ⟨hname, hok⟩ := eq_ok_of_mem_written h
      cases hname
      unfold Store.insertJson at hok
      cases json with
      | object members =>
          obtain ⟨id, generator, hchosen, -⟩ | ⟨error, hchosen, -⟩ :=
            chooseId_cases store now members
          · simp only [hchosen] at hok
            simp [prepared?, hfind, hchosen, prepare?_of_write (exists_write_of_insert hok).1]
          · simp only [hchosen] at hok
            cases hok
      | _ => cases hok
  | update asked now given =>
      obtain ⟨collection, hfind, h⟩ := exists_of_mem_written_on h
      obtain ⟨hname, hok⟩ := eq_ok_of_mem_updated h
      cases hname
      obtain ⟨previous, hprevious, hwrite, -⟩ := exists_write_of_update hok
      simp [prepared?, hfind, hprevious, prepare?_of_write hwrite]
  | _ =>
      unfold Request.written at h
      split at h
      · cases h
      · cases h

/-- A document that was prepared is made of checked fields. -/
theorem Conforming.checked_of_prepared? {good : String → Document → Prop}
    (hstore : store.Conforming definition good) (hdefinition : ∀ name, (definition name).WellFormed)
    {request : Request} (hagrees : request.Agrees definition) {name : String} {document : Document}
    (h : store.prepared? request = some (name, document)) :
    document.Checked (definition name) := by
  cases request with
  | insert asked now given =>
      obtain ⟨collection, hfind, h⟩ := Option.bind_eq_some_iff.1 h
      obtain ⟨stored, hprepare, heq⟩ := Option.map_eq_some_iff.1 h
      cases heq
      exact Collection.checked_of_prepare? (hdefinition _)
        (hstore.registered _ collection hfind) hagrees (fun _ h => by cases h) hprepare
  | insertJson asked now json =>
      cases json with
      | object members =>
          obtain ⟨collection, hfind, h⟩ := Option.bind_eq_some_iff.1 h
          split at h
          · rename_i id _
            obtain ⟨stored, hprepare, heq⟩ := Option.map_eq_some_iff.1 h
            cases heq
            exact Collection.checked_of_prepare? (hdefinition _)
              (hstore.registered _ collection hfind) (Document.wellFormed_ofMembers id hagrees.2)
              (fun _ h => by cases h) hprepare
          · cases h
      | _ => cases h
  | update asked now given =>
      obtain ⟨collection, hfind, h⟩ := Option.bind_eq_some_iff.1 h
      have hregistered := hstore.registered asked collection hfind
      split at h
      · rename_i previous hprevious
        obtain ⟨stored, hprepare, heq⟩ := Option.map_eq_some_iff.1 h
        cases heq
        refine Collection.checked_of_prepare? (hdefinition _) hregistered hagrees ?_ hprepare
        rintro _ ⟨⟩
        obtain ⟨found, hfound, hholds⟩ := hstore.find_eq hregistered given.id
        rw [hprevious] at hfound
        exact hstore.wellFormed_of_holds ((hholds previous).1 (Except.ok.inj hfound).symm).1
      · cases h
  | _ => cases h

/-! ### Runs -/

theorem shows_empty (database : String) (generator : ObjectId.Generator) :
    (fresh database generator).Shows .empty := by
  refine ⟨rfl, ?_, Catalog.readable_empty⟩
  intro name id document
  refine iff_of_false (fun h => by cases h) ?_
  intro h
  obtain ⟨⟨octets, hfind, -⟩, -⟩ := h
  cases hfind

/-- Requests are answered by the rules, one after the other. -/
theorem Shows.run (hshows : store.Shows shelves) (hsound : store.Consistent definition)
    (hdefinition : ∀ name, (definition name).WellFormed) {requests : List Request}
    (hagrees : ∀ request ∈ requests, request.Agrees definition ∧ request.Plain)
    (hrecorded : ∀ request ∈ requests, request.Recorded)
    (hprepared : ∀ name document, (name, document) ∈ store.prepared requests →
      document.Storable (definition name)) :
    ∃ after, Shelves.Run shelves requests (store.answers requests) after ∧
      (store.run requests).Shows after ∧
      ∀ name document, (name, document) ∈ store.written requests →
        document.Checked (definition name) := by
  -- A step keeps the store sound and the shelves in view, both of which the next step needs.
  induction requests generalizing store shelves with
  | nil => exact ⟨shelves, .nil, hshows, fun _ _ h => by cases h⟩
  | cons request rest ih =>
      obtain ⟨hagree, hplain⟩ := hagrees request (List.mem_cons_self ..)
      have hfirst : ∀ name document, store.prepared? request = some (name, document) →
          document.Storable (definition name) := by
        intro name document h
        refine hprepared name document (List.mem_append_left _ ?_)
        rw [h]
        exact List.mem_singleton_self _
      have hserved : (store.serve request).2.Consistent definition :=
        hsound.serve hdefinition hagree hplain fun name document hmem =>
          hfirst name document (prepared?_of_written hmem)
      obtain ⟨between, hserves, hbetween⟩ := hshows.serve hsound hdefinition hagree
        (hrecorded request (List.mem_cons_self ..)) hfirst
      obtain ⟨after, hrun, hafter, hchecked⟩ := ih hbetween hserved
        (fun other hmem => hagrees other (List.mem_cons_of_mem _ hmem))
        (fun other hmem => hrecorded other (List.mem_cons_of_mem _ hmem))
        fun name document hmem => hprepared name document (List.mem_append_right _ hmem)
      refine ⟨after, .cons hserves hrun, hafter, fun name document hmem => ?_⟩
      rcases List.mem_append.1 hmem with hmem | hmem
      · exact hsound.checked_of_prepared? hdefinition hagree (prepared?_of_written hmem)
      · exact hchecked name document hmem

/-- From the first request on, a store answers as shelves do. -/
theorem answers_as_shelves (hdefinition : ∀ name, (definition name).WellFormed) (database : String)
    (generator : ObjectId.Generator) (requests : List Request)
    (hagrees : ∀ request ∈ requests, request.Agrees definition ∧ request.Plain)
    (hrecorded : ∀ request ∈ requests, request.Recorded)
    (hprepared : ∀ name document, (name, document) ∈ (fresh database generator).prepared requests →
      document.Storable (definition name)) :
    (∃ after, Shelves.Run .empty requests ((fresh database generator).answers requests) after ∧
      ∀ name id document, (after.shelf name).find? id = some document ↔
        ((fresh database generator).run requests).Holds name document ∧ document.id = id) ∧
    ∀ name document, (name, document) ∈ (fresh database generator).written requests →
      FieldType.UnmarkedFields (definition name) → document.Finite →
        (document.reread == document) = true := by
  have hsound : (fresh database generator).Consistent definition :=
    consistent_fresh definition database generator
  obtain ⟨after, hrun, hafter, hchecked⟩ :=
    (shows_empty database generator).run hsound hdefinition hagrees hrecorded hprepared
  refine ⟨⟨after, hrun, hafter.find?_iff⟩, fun name document hmem hunmarked hfinite => ?_⟩
  exact (hchecked name document hmem).same_reread hunmarked hfinite

end Store

/-! ### Numbers that JSON does not keep -/

namespace Sample

/-- Readings have a level, if it is known. -/
def readings (options : Options) : Fields :=
  [("level", { type := .scalar .number, required := false, options })]

/-- A reading of a level. -/
def reading (octet : UInt8) (level : Number) : Document :=
  ⟨ident octet, [("level", .number level)], []⟩

/-- A reading is written and found again. -/
def lookups (level : Number) : List Request :=
  [.register 0 "readings" { fields := readings [], timestamps := false },
    .insert "readings" 0 (reading 1 level), .find "readings" (reading 1 level).id]

/-- Two readings are written, no two of which may have the same level. -/
def ranking (level other : Number) : List Request :=
  [.register 0 "ranking" { fields := readings [("unique", .bool true)], timestamps := false },
    .insert "ranking" 0 (reading 1 level), .insert "ranking" 0 (reading 2 other)]

/-- Whether the document found is not the one written. -/
def isChanged : List Answer → Bool
  | [.done, .written stored, .found (some found)] => !(found == stored)
  | _ => false

/-- Whether the second document is refused. -/
def isRefused : List Answer → Bool
  | [.done, .written _, .failed _] => true
  | _ => false

theorem exists_of_isChanged {answers : List Answer} (h : isChanged answers = true) :
    ∃ stored found, answers = [.done, .written stored, .found (some found)] ∧
      (found == stored) = false := by
  unfold isChanged at h
  split at h
  · rename_i stored found
    exact ⟨stored, found, rfl, by simpa using h⟩
  · cases h

theorem exists_of_isRefused {answers : List Answer} (h : isRefused answers = true) :
    ∃ stored error, answers = [.done, .written stored, .failed error] := by
  unfold isRefused at h
  split at h
  · exact ⟨_, _, rfl⟩
  · cases h

/-- What is no number is found as null, and the reader misses ten to the power of minus 23 by one
unit in the last place. Numbers that are not finite exclude one another although they differ. -/
theorem numbers_not_kept :
    (∀ level ∈ [Number.notANumber, Number.nearest false 1 (-23)],
      ∃ stored found, (Store.fresh "db" generator).answers (lookups level)
          = [.done, .written stored, .found (some found)] ∧ (found == stored) = false) ∧
    (∃ stored error, (Store.fresh "db" generator).answers (ranking .notANumber (.infinite false))
        = [.done, .written stored, .failed error]) ∧
      (Value.number .notANumber == Value.number (.infinite false)) = false := by
  have hchanged : [Number.notANumber, Number.nearest false 1 (-23)].all (fun level =>
      isChanged ((Store.fresh "db" generator).answers (lookups level))) = true := by
    decide +kernel
  have hrefused : isRefused ((Store.fresh "db" generator).answers
      (ranking .notANumber (.infinite false))) = true := by
    decide +kernel
  refine ⟨?_, exists_of_isRefused hrefused, rfl⟩
  intro level hmem
  exact exists_of_isChanged (List.all_eq_true.1 hchanged level hmem)

/-! ### A run without such numbers -/

theorem recorded_requests : ∀ request ∈ requests, request.Recorded := by
  have hreadable : (CatalogEntry.ofSchema "members" { fields := members, timestamps := false }
      0).Readable := by
    refine ⟨by simp [CatalogEntry.ofSchema], ?_, ?_⟩
    · simp [CatalogEntry.toJson, CatalogEntry.ofSchema, Json.Legible, Json.LegibleMembers,
        Json.LegibleList, Json.ofNat, Fields.toJson, members, fieldsToMembers, fieldToJson,
        typeMembers, Entries.writeAll, Entries.write]
    · simp [CatalogEntry.toJson, CatalogEntry.ofSchema, Json.depth, Json.depthMembers,
        Json.depthList, Json.ofNat, Fields.toJson, members, fieldsToMembers, fieldToJson,
        typeMembers, Entries.writeAll, Entries.write, Json.nestingLimit]
  simp [requests, Request.Recorded, hreadable]

theorem isMember_of_prepared {name : String} {document : Document}
    (h : (name, document) ∈ (Store.fresh "db" generator).prepared requests) :
    isMember document = true := by
  have hall : ((Store.fresh "db" generator).prepared requests).all (isMember ·.2) = true := by
    decide +kernel
  exact List.all_eq_true.1 hall _ h

end Sample

namespace Store

theorem answers_as_shelves_of_sample_run :
    ∃ after, Shelves.Run .empty Sample.requests
      ((fresh "db" Sample.generator).answers Sample.requests) after := by
  obtain ⟨⟨after, hrun, -⟩, -⟩ := answers_as_shelves (fun _ => Sample.wellFormed_members) "db"
    Sample.generator Sample.requests Sample.agrees_requests Sample.recorded_requests
    fun _ _ h => Sample.storable_of_isMember (Sample.isMember_of_prepared h)
  exact ⟨after, hrun⟩

end Store

end TypedCollections
