import SchemaCrosswalk.Attachment
import SchemaCrosswalk.Proofs.Files.Persistence
import SchemaCrosswalk.Proofs.Lookups

/-!
# Documents of attachments — where they are kept and what is read back

The document of an attachment lies in a file whose name is made of the three names of the
attachment, which have to be plain. What is kept there is loaded again as long as its text is read
as the document it was printed from.

* `AttachmentStore.path_eq_ok_iff`: which attachments have a file, and which one
* `DocumentFormat.ReadsBack`: documents that are read as they were printed
* `AttachmentStore.persist_of_runOn`: what keeping mappings does to the files
* `AttachmentStore.load?_of_runOn_persist`: mappings that were kept are loaded
* `AttachmentStore.runOn_persist_again`: once mappings were kept, others can be kept in their place
-/

namespace SchemaCrosswalk

/-! ## Names of files -/

namespace AttachmentKey

/-- All names of an attachment can be names of files. -/
structure IsPlain (k : AttachmentKey) : Prop where
  sourceTable : isPlainName k.sourceTable = true
  sinkEngine : isPlainName k.sinkEngine = true
  sinkTable : isPlainName k.sinkTable = true

end AttachmentKey

namespace AttachmentStore

variable {s : AttachmentStore} {k : AttachmentKey} {path : String}

theorem path_eq_ok_iff :
    s.path k = .ok path ↔ k.IsPlain ∧ path = Path.join s.directory (fileName k) := by
  have hplain : k.IsPlain ↔ ∀ name ∈ [k.sourceTable, k.sinkEngine, k.sinkTable],
      isPlainName name = true := by
    constructor
    · rintro ⟨hsource, hengine, hsink⟩
      simp [hsource, hengine, hsink]
    · intro h
      exact ⟨h _ (by simp), h _ (by simp), h _ (by simp)⟩
  unfold AttachmentStore.path
  cases hfound : [k.sourceTable, k.sinkEngine, k.sinkTable].find? fun name => !isPlainName name with
  | some name =>
      -- A name that is refused is not plain.
      have hrefused := List.find?_some hfound
      have hmem := List.mem_of_find?_eq_some hfound
      constructor
      · intro h
        cases h
      · rintro ⟨h, -⟩
        have hname := hplain.1 h name hmem
        simp [hname] at hrefused
  | none =>
      have hall : k.IsPlain := by
        refine hplain.2 fun name hmem => ?_
        have hnot := List.find?_eq_none.1 hfound name hmem
        simpa using hnot
      constructor
      · intro h
        cases h
        exact ⟨hall, rfl⟩
      · rintro ⟨-, rfl⟩
        rfl

/-- The name of the file of an attachment without its ending. -/
def stem (k : AttachmentKey) : String :=
  k.sourceTable ++ "__" ++ k.sinkEngine ++ "." ++ k.sinkTable

theorem fileName_eq_stem_append (k : AttachmentKey) : fileName k = stem k ++ ".yaml" := by
  unfold fileName stem
  rfl

theorem isFileName_fileName (h : k.IsPlain) : IsFileName (fileName k) := by
  rw [fileName_eq_stem_append]
  refine isFileName_append ?_ (by decide) (by decide)
  have hsource := no_slash_of_isPlainName h.sourceTable
  have hengine := no_slash_of_isPlainName h.sinkEngine
  have hsink := no_slash_of_isPlainName h.sinkTable
  unfold stem
  simp [hsource, hengine, hsink]

theorem fileName_ne_draftName (k k' : AttachmentKey) : fileName k ≠ draftName (fileName k') := by
  rw [fileName_eq_stem_append, fileName_eq_stem_append]
  exact ne_draftName _ _

end AttachmentStore

/-! ## Documents that are read back -/

/-- A document whose text is read as that document, wherever the text comes from. -/
def DocumentFormat.ReadsBack {α : Type} (f : DocumentFormat α) (d : α) : Prop :=
  ∀ origin, f.read (f.print d) origin = .ok d

namespace AttachmentDocument

deriving instance DecidableEq for AttachmentDocument

theorem print_format (d : AttachmentDocument) : format.print d = d.toTree.render := rfl

theorem read_format (text origin : String) :
    format.read text origin =
      (form.read text).mapError fun reason =>
        Fault.inDocument origin (.malformed .mapping reason) :=
  rfl

theorem readsBack_of_read {d : AttachmentDocument}
    (h : (form.read d.toTree.render).toOption = some d) : format.ReadsBack d := by
  intro origin
  rw [read_format, print_format, eq_ok_of_toOption h]
  rfl

end AttachmentDocument

namespace AttachmentStore

variable {s : AttachmentStore} {k : AttachmentKey} {path : String}

/-! ## Documents that are kept -/

variable {w w' : Workspace} {mappings : Dictionary String}

theorem runOn_persist (hplain : k.IsPlain) (mappings : Dictionary String) (w : Workspace) :
    (s.persist k mappings).runOn w =
      let persisted := s.format.persist w.files s.directory (Path.join s.directory (fileName k))
        ⟨k, some w.now, mappings⟩
      (persisted.2, { w with files := persisted.1 }) := by
  unfold persist
  rw [path_eq_ok_iff.2 ⟨hplain, rfl⟩]
  rfl

/-- Mappings of an attachment that can have no file are refused, and nothing is changed. -/
theorem runOn_persist_of_refused {fault : Fault} (h : s.path k = .error fault)
    (mappings : Dictionary String) (w : Workspace) :
    (s.persist k mappings).runOn w = (.error fault, w) := by
  unfold persist
  rw [h]
  rfl

theorem isPlain_of_persist
    (h : (s.persist k mappings).runOn w = (.ok (), w')) : k.IsPlain := by
  rcases Session.runOn_bind_eq_ok_iff.1 h with ⟨path, w₁, hpath, -⟩
  have hpath' : s.path k = .ok path := congrArg Prod.fst hpath
  exact (path_eq_ok_iff.1 hpath').1

/-- Where mappings are kept, the document has been put into the file of the attachment. -/
theorem persist_of_runOn
    (h : (s.persist k mappings).runOn w = (.ok (), w')) :
    s.format.persist w.files s.directory (Path.join s.directory (fileName k))
      ⟨k, some w.now, mappings⟩ = (w'.files, .ok ()) := by
  rw [runOn_persist (isPlain_of_persist h)] at h
  rcases Prod.mk.inj h with ⟨hok, rfl⟩
  exact Prod.ext rfl hok

theorem load?_eq (hplain : k.IsPlain) (files : FileTree) :
    s.load? files k = s.format.load? files (Path.join s.directory (fileName k)) := by
  unfold AttachmentStore.load?
  rw [path_eq_ok_iff.2 ⟨hplain, rfl⟩]
  rfl

/-- What the file of an attachment holds is loaded. -/
theorem load?_of_read {d : AttachmentDocument} (hplain : k.IsPlain) (hreads : s.format.ReadsBack d)
    {files : FileTree}
    (h : files.read (Path.join s.directory (fileName k)) = .ok (s.format.print d)) :
    s.load? files k = .ok (some d) := by
  calc
    s.load? files k = s.format.load? files (Path.join s.directory (fileName k)) :=
      load?_eq hplain files
    _ = some <$> s.format.read (s.format.print d) (Path.join s.directory (fileName k)) :=
      DocumentFormat.load?_of_read h
    _ = .ok (some d) := by
      rw [hreads]
      rfl

/-- Mappings that were kept are loaded. -/
theorem load?_of_runOn_persist (h : (s.persist k mappings).runOn w = (.ok (), w'))
    (hreads : s.format.ReadsBack ⟨k, some w.now, mappings⟩) :
    s.load? w'.files k = .ok (some ⟨k, some w.now, mappings⟩) := by
  have hplain := isPlain_of_persist h
  exact load?_of_read hplain hreads
    (DocumentFormat.read_persist (isFileName_fileName hplain) (persist_of_runOn h))

/-- Once mappings of an attachment were kept, others can be kept in their place. -/
theorem runOn_persist_again {w₁ : Workspace}
    (h : (s.persist k mappings).runOn w = (.ok (), w')) (hfiles : w₁.files = w'.files)
    (mappings' : Dictionary String) :
    ∃ w₂, (s.persist k mappings').runOn w₁ = (.ok (), w₂) := by
  have hplain := isPlain_of_persist h
  have hagain := DocumentFormat.persist_again (isFileName_fileName hplain) (persist_of_runOn h)
    ⟨k, some w₁.now, mappings'⟩
  rw [runOn_persist hplain, hfiles]
  exact ⟨_, Prod.ext hagain rfl⟩

end AttachmentStore

end SchemaCrosswalk
