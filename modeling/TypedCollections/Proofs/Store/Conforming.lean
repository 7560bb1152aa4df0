import TypedCollections.Proofs.Schema
import TypedCollections.Proofs.Store.Owners
/-!
# Stored documents conform

Whatever a store keeps conforms to the definition of its collection: what is read back of the octets
passes the check that the document passed before it was written, and is not changed by it.
-/

namespace TypedCollections

variable {definition : String → Fields}

/-- Every number inside the document's fields is finite. -/
def Document.Finite (document : Document) : Prop := Value.FiniteMembers document.fields

namespace Document

theorem storable_of_finite {fields : Fields} {document : Document} (hreadable : document.Readable)
    (hfinite : document.Finite) : document.Storable fields := by
  refine ⟨hreadable, fun field number _ hvalue => ?_⟩
  have hmem : (field, Value.number number) ∈ document.fields := Entries.mem_of_find? hvalue
  exact Value.finiteMembers_iff.1 hfinite _ hmem

/-- The fields of a checked document conform, where the definition has no identifier. -/
theorem Checked.exists_conforms {fields : Fields} {document : Document}
    (hchecked : document.Checked fields) (hid : idField ∉ Entries.names fields) :
    ∃ patterns, Patterns.ofFields fields = .ok patterns ∧
      Validation.Conforms patterns fields document.fields := by
  obtain ⟨patterns, checked, hpatterns, hconforms, hfields⟩ := hchecked.conforms
  have hremove : Entries.remove checked idField = checked :=
    Entries.remove_eq_self fun hmem => hid (hconforms.declared idField hmem)
  rw [hremove] at hfields
  exact ⟨patterns, hpatterns, by rw [hfields]; exact hconforms⟩

/-- JSON keeps the fields of a checked document whose numbers are finite. -/
theorem Checked.kept {fields : Fields} {document : Document} (hchecked : document.Checked fields)
    (hunmarked : FieldType.UnmarkedFields fields) (hfinite : document.Finite)
    {field : String × Value} (hmem : field ∈ document.fields) : field.2.Kept := by
  obtain ⟨patterns, checked, -, hconforms, hfields⟩ := hchecked.conforms
  have hfind : Entries.find? checked field.1 = some field.2 := by
    have hfound := Entries.find?_eq_of_mem hchecked.wellFormed.distinct hmem
    rw [hfields] at hfound
    exact Entries.find?_of_find?_remove hfound
  refine Validation.kept_of_fitsFields hunmarked hconforms.fits hfind ?_
    (hchecked.wellFormed.values field hmem) (Value.finiteMembers_iff.1 hfinite field hmem)
  exact hconforms.declared _ (Entries.mem_names_iff.2 ⟨_, hfind⟩)

/-- A checked document whose numbers are finite equals the document read back. -/
theorem Checked.same_reread {fields : Fields} {document : Document}
    (hchecked : document.Checked fields) (hunmarked : FieldType.UnmarkedFields fields)
    (hfinite : document.Finite) : (document.reread == document) = true :=
  (same_reread_iff hchecked.wellFormed hchecked.populated).2 fun _ =>
    hchecked.kept hunmarked hfinite

end Document

namespace Store

/-- Every document that a store keeps after a run conforms to the definition of its collection,
whatever the names are that collections are registered under. -/
theorem conforms_of_run (hcompiled : ∀ name, Compiled (definition name))
    (hunmarked : ∀ name, FieldType.UnmarkedFields (definition name)) (database : String)
    (generator : ObjectId.Generator) (requests : List Request)
    (hagrees : ∀ request ∈ requests, request.Agrees definition)
    (hwritten : ∀ name document, (name, document) ∈ (fresh database generator).written requests →
      document.Readable ∧ document.Finite)
    (name : String) (key octets : List UInt8)
    (hentry : (((fresh database generator).run requests).tree name).find? key = some octets) :
    key.length = 12 ∧ ∃ document, Document.ofOctets octets = .ok document ∧
      document.id.octets = key ∧ (∀ field ∈ document.fields, field.2.Kept) ∧
      (∃ patterns, Patterns.ofFields (definition name) = .ok patterns ∧
        Validation.Conforms patterns (definition name) document.fields ∧
        Validation.validate patterns (definition name) document.fields = .ok document.fields) ∧
      ∀ collection, ((fresh database generator).run requests).collection? name = some collection →
        collection.check document.fields = .ok document.fields := by
  have hwell : ∀ name, (definition name).WellFormed := fun name => (hcompiled name).wellFormed
  have hstore := (conforming_fresh definition (fun _ document => document.Finite) database
    generator).run hwell hagrees fun name document hmem =>
      ⟨Document.storable_of_finite (hwritten name document hmem).1 (hwritten name document hmem).2,
        (hwritten name document hmem).2⟩
  obtain ⟨written, hkeeps, hkey, hoctets⟩ := hstore.entries name key octets hentry
  have hid := (hcompiled name).idField_not_mem
  have hkept : ∀ field ∈ written.fields, field.2.Kept := fun field =>
    hkeeps.checked.kept (hunmarked name) hkeeps.good
  obtain ⟨patterns, hpatterns, hconforms⟩ := hkeeps.checked.exists_conforms hid
  have hreread : Validation.Conforms patterns (definition name) written.reread.fields :=
    hconforms.reread hkept
  have hvalidate := (Validation.conforms_iff (hwell name)).1 hreread
  refine ⟨?_, written.reread, ?_, hkey.symm, ?_, ⟨patterns, hpatterns, hreread, hvalidate⟩, ?_⟩
  · rw [hkey]
    exact written.id.length_eq
  · rw [hoctets]
    exact Document.ofOctets_of_checked hkeeps.checked hkeeps.storable
  · intro field hmem
    obtain ⟨before, hbefore, rfl⟩ := List.mem_map.1 hmem
    exact (hkept before hbefore).reread
  · intro collection hfind
    have hregistered := hstore.registered name collection hfind
    have heq : collection.patterns = patterns := by
      have hpatterns' := hregistered.patterns_eq
      rw [hpatterns] at hpatterns'
      exact (Except.ok.inj hpatterns').symm
    unfold Collection.check
    rw [hregistered.fields_eq, heq, hvalidate]

end Store

/-! ### A run on compiled definitions -/

namespace Sample

/-- The description of members. -/
def memberDescription : ObjectDescription :=
  { properties := [("address", .scalar .string { attributes := [("unique", .bool true)] })] }

theorem compile_memberDescription : compile memberDescription = .ok members := by
  have hname : Text.isBlank "address" = false := by decide +kernel
  simp only [compile, memberDescription, Compiler.compileShape, Compiler.compileProperties, hname]
  rfl

theorem wellFormed_memberDescription : Description.WellFormedShape memberDescription := by
  have hnotes : ∀ options, Json.WellFormedMembers options →
      Annotations.WellFormed { attributes := options } := fun options h => ⟨h, trivial⟩
  refine ⟨?_, ⟨hnotes _ ⟨trivial, trivial⟩, trivial⟩, hnotes _ trivial⟩
  simp [Entries.Distinct, Entries.names]

theorem compiled_members : Compiled members :=
  ⟨memberDescription, members, false, wellFormed_memberDescription, compile_memberDescription, rfl⟩

theorem finite_of_isMember {document : Document} (h : isMember document = true) :
    document.Finite := by
  obtain ⟨address, hdocument⟩ := eq_of_isMember h
  rw [hdocument]
  exact ⟨trivial, trivial⟩

theorem find?_requests :
    (((Store.fresh "db" generator).run requests).tree "members").find? (member 1 "bob").id.octets
      = some (member 1 "bob").toOctets := by
  decide +kernel

end Sample

namespace Store

theorem conforms_of_sample_run :
    ∃ document, Document.ofOctets (Sample.member 1 "bob").toOctets = .ok document ∧
      document.id.octets = (Sample.member 1 "bob").id.octets ∧
      ∃ patterns, Patterns.ofFields Sample.members = .ok patterns ∧
        Validation.validate patterns Sample.members document.fields = .ok document.fields := by
  obtain ⟨-, document, hread, hid, -, ⟨patterns, hpatterns, -, hvalidate⟩, -⟩ :=
    conforms_of_run (fun _ => Sample.compiled_members) (fun _ => ⟨trivial, trivial⟩) "db"
      Sample.generator Sample.requests (fun request hmem => (Sample.agrees_requests request hmem).1)
      (fun _ _ h =>
        ⟨(Sample.storable_of_isMember (Sample.isMember_of_written h)).readable,
          Sample.finite_of_isMember (Sample.isMember_of_written h)⟩)
      "members" _ _ Sample.find?_requests
  exact ⟨document, hread, hid, patterns, hpatterns, hvalidate⟩

end Store

end TypedCollections
