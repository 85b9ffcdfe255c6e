import SchemaCrosswalk.Proofs.Attachments.Documents
import SchemaCrosswalk.Proofs.Overrides.Durability

/-!
# Replacement — one file that is changed at the end

A store puts a document into its file by way of a draft, and nothing else of the files changes. What
is done before that only reads, so an operation that fails leaves the files as they were, unless the
failure is one of the files themselves.

* `FileTree.Replaces`: one file has been replaced by way of its draft
* `EndsIn`: what a computation leaves if it succeeds, having changed nothing if it fails
* `endsIn_bind`, `EndsIn.bind`: what is read before the change, and what comes after it
* `AttachmentStore.endsIn_persist`, `OverrideManager.endsIn_answer`: what stores leave
-/

namespace SchemaCrosswalk

/-! ## One file that is replaced -/

/-- One file of a directory has a text, there is no draft of it, and all other files are as they
were. -/
structure FileTree.Replaces (t t' : FileTree) (directory name : String) : Prop where
  artifact : ∃ text, (address directory name, text) ∈ t'.files
  draft : ∀ text, (address directory (draftName name), text) ∉ t'.files
  others : ∀ path text, path ≠ address directory name → path ≠ address directory (draftName name) →
    ((path, text) ∈ t'.files ↔ (path, text) ∈ t.files)

namespace DocumentFormat

variable {α : Type} {f : DocumentFormat α} {t done : FileTree} {directory name path : String} {d : α}

theorem replaces_persist (hname : IsFileName name)
    (h : f.persist t directory (Path.join directory name) d = (done, .ok ())) :
    t.Replaces done directory name where
  artifact := ⟨f.print d, (mem_files_persist hname h).2 (Or.inl ⟨rfl, rfl⟩)⟩
  draft := by
    intro text hmem
    rcases (mem_files_persist hname h).1 hmem with ⟨hpath, -⟩ | ⟨-, hdraft, -⟩
    · exact FileTree.address_draftName_ne directory name hpath
    · exact hdraft rfl
  others := by
    intro path text hartifact hdraft
    have hmem : (path, text) ∈ done.files ↔ _ := mem_files_persist hname h
    simpa [hartifact, hdraft] using hmem

/-- A document fails to be persisted only if a file does. -/
theorem exists_problem_of_persist {fault : Fault}
    (h : (f.persist t directory path d).2 = .error fault) : ∃ problem, fault = .file problem := by
  unfold persist at h
  rcases hmade : t.createDirectories directory with ⟨made, problem | ⟨⟩⟩
  · simp only [hmade] at h
    exact ⟨problem, (Except.error.inj h).symm⟩
  · cases hwrite : made.write (draftPath path) (f.print d) with
    | error problem =>
        simp only [hmade, hwrite] at h
        exact ⟨problem, (Except.error.inj h).symm⟩
    | ok drafted =>
        cases hrename : drafted.rename (draftPath path) path with
        | error problem =>
            simp only [hmade, hwrite, hrename] at h
            exact ⟨problem, (Except.error.inj h).symm⟩
        | ok moved => simp [hmade, hwrite, hrename] at h

end DocumentFormat

/-! ## How computations end -/

section

variable {σ α β : Type} {filesOf : σ → FileTree} {s : ExceptT Fault (StateM σ) α}
variable {k : α → ExceptT Fault (StateM σ) β} {c c' : σ} {after : FileTree → Prop}

/-- How a computation may end: it succeeds and leaves the files as described, or it fails and leaves
them as they were, unless it is the files that failed. -/
structure EndsIn (filesOf : σ → FileTree) (s : ExceptT Fault (StateM σ) α) (c : σ)
    (after : FileTree → Prop) : Prop where
  of_ok : ∀ a c', runFrom s c = (.ok a, c') → after (filesOf c')
  of_error : ∀ fault c', runFrom s c = (.error fault, c') →
    filesOf c' = filesOf c ∨ ∃ problem, fault = .file problem

theorem EndsIn.imp {after' : FileTree → Prop} (h : EndsIn filesOf s c after)
    (himp : ∀ t, after t → after' t) : EndsIn filesOf s c after' :=
  ⟨fun a c' hrun => himp _ (h.of_ok a c' hrun), h.of_error⟩

theorem endsIn_of_ok {a : α} (hrun : runFrom s c = (.ok a, c')) (h : after (filesOf c')) :
    EndsIn filesOf s c after where
  of_ok := by
    intro a' c'' hrun'
    cases hrun.symm.trans hrun'
    exact h
  of_error := by
    intro fault c'' hrun'
    cases hrun.symm.trans hrun'

theorem endsIn_of_error {fault : Fault} (hrun : runFrom s c = (.error fault, c'))
    (h : filesOf c' = filesOf c ∨ ∃ problem, fault = .file problem) :
    EndsIn filesOf s c after where
  of_ok := by
    intro a c'' hrun'
    cases hrun.symm.trans hrun'
  of_error := by
    intro fault' c'' hrun'
    cases hrun.symm.trans hrun'
    exact h

/-- A computation that leaves the files ends with what they were. -/
theorem endsIn_of_leaves (hs : ∀ c, filesOf (runFrom s c).2 = filesOf c)
    (hafter : after (filesOf c)) : EndsIn filesOf s c after := by
  have hfiles := hs c
  rcases hrun : runFrom s c with ⟨fault | a, c'⟩
  · rw [hrun] at hfiles
    exact endsIn_of_error hrun (Or.inl hfiles)
  · rw [hrun] at hfiles
    exact endsIn_of_ok hrun (hfiles ▸ hafter)

/-- After a computation that leaves the files, only the rest counts. -/
theorem endsIn_bind (hs : ∀ c, filesOf (runFrom s c).2 = filesOf c)
    (hk : ∀ a c', runFrom s c = (.ok a, c') → EndsIn filesOf (k a) c' after) :
    EndsIn filesOf (s >>= k) c after := by
  have hfiles := hs c
  rcases hrun : runFrom s c with ⟨fault | a, c'⟩
  · rw [hrun] at hfiles
    exact endsIn_of_error (runFrom_bind_of_error hrun) (Or.inl hfiles)
  · rw [hrun] at hfiles
    have hends := hk a c' hrun
    rcases hrest : runFrom (k a) c' with ⟨fault | b, c''⟩
    · refine endsIn_of_error ((runFrom_bind_of_ok hrun).trans hrest) ?_
      simpa [hfiles] using hends.of_error fault c'' hrest
    · exact endsIn_of_ok ((runFrom_bind_of_ok hrun).trans hrest) (hends.of_ok b c'' hrest)

/-- What comes after the last change must not fail. -/
theorem EndsIn.bind {b : β} (hs : EndsIn filesOf s c after)
    (hk : ∀ a c', ∃ c'', runFrom (k a) c' = (.ok b, c'') ∧ filesOf c'' = filesOf c') :
    EndsIn filesOf (s >>= k) c after := by
  rcases hrun : runFrom s c with ⟨fault | a, c'⟩
  · exact endsIn_of_error (runFrom_bind_of_error hrun) (hs.of_error fault c' hrun)
  · rcases hk a c' with ⟨last, hlast, hfiles⟩
    exact endsIn_of_ok ((runFrom_bind_of_ok hrun).trans hlast) (hfiles ▸ hs.of_ok a c' hrun)

end

/-! ## Stores -/

theorem AttachmentStore.endsIn_persist (s : AttachmentStore) (k : AttachmentKey)
    (mappings : Dictionary String) (w : Workspace) :
    EndsIn Workspace.files (s.persist k mappings) w fun t =>
      w.files.Replaces t s.directory (fileName k) where
  of_ok := by
    intro _ w' hrun
    have hplain := isPlain_of_persist hrun
    exact DocumentFormat.replaces_persist (isFileName_fileName hplain) (persist_of_runOn hrun)
  of_error := by
    intro fault w' hrun
    cases hpath : s.path k with
    | error refused =>
        have hrefused := (runOn_persist_of_refused hpath mappings w).symm.trans hrun
        exact Or.inl (congrArg Workspace.files (Prod.mk.inj hrefused).2.symm)
    | ok path =>
        have hpersist := (runOn_persist (path_eq_ok_iff.1 hpath).1 mappings w).symm.trans hrun
        exact Or.inr (DocumentFormat.exists_problem_of_persist (congrArg Prod.fst hpersist))

theorem OverrideStore.endsIn_persist (s : OverrideStore) (group : String) (d : OverrideDocument)
    (w : Workspace) :
    EndsIn Workspace.files (s.persist group d) w fun t =>
      w.files.Replaces t s.directory (documentName group) := by
  cases hplain : isPlainName group with
  | false =>
      have hpath : s.path group = .error (Fault.ofCause (.invalidGroupName group)) := by
        simp [path, hplain]
      have hrun : runFrom (s.persist group d) w =
          (.error (Fault.ofCause (.invalidGroupName group)), w) := by
        unfold persist
        rw [hpath]
        rfl
      exact endsIn_of_error hrun (Or.inl rfl)
  | true =>
      constructor
      · intro _ w' hrun
        exact DocumentFormat.replaces_persist (isFileName_documentName hplain)
          (runOn_persist_eq_ok hplain hrun)
      · intro fault w' hrun
        have hpersist := (runOn_persist hplain d w).symm.trans hrun
        exact Or.inr (DocumentFormat.exists_problem_of_persist (congrArg Prod.fst hpersist))

namespace OverrideManager

theorem endsIn_commit (m : OverrideManager) (r : OverrideRegistry) (d : OverrideDocument)
    (w : Workspace) :
    EndsIn Workspace.files (m.commit r d) w fun t =>
      w.files.Replaces t m.store.directory (OverrideStore.documentName r.group) := by
  have hends := m.store.endsIn_persist r.group (d.dated w.now) w
  have hcommit := runOn_commit m r d w
  rcases hpersist : (m.store.persist r.group (d.dated w.now)).runOn w with ⟨fault | ⟨⟩, w'⟩
  · rw [hpersist] at hcommit
    exact endsIn_of_error hcommit (hends.of_error fault w' hpersist)
  · rw [hpersist] at hcommit
    exact endsIn_of_ok hcommit (hends.of_ok ⟨⟩ w' hpersist)

/-- A request changes the document of the group and nothing else, or it changes nothing. -/
theorem endsIn_answer (m : OverrideManager) (r : OverrideRegistry) (q : OverrideRequest)
    (w : Workspace) :
    EndsIn Workspace.files (m.answer r q) w fun t => t = w.files ∨
      w.files.Replaces t m.store.directory (OverrideStore.documentName r.group) := by
  rcases m.commits_answer r q w with ⟨hagrees, -⟩ | ⟨d, w₁, -, hagrees, hanswer⟩
  · have hfiles : ((m.answer r q).runOn w).2.files = w.files := hagrees.files_eq
    rcases hrun : (m.answer r q).runOn w with ⟨fault | r', w'⟩
    · rw [hrun] at hfiles
      exact endsIn_of_error hrun (Or.inl hfiles)
    · rw [hrun] at hfiles
      exact endsIn_of_ok hrun (Or.inl hfiles)
  · have hends := m.endsIn_commit r d w₁
    rw [hagrees.files_eq] at hends
    constructor
    · intro r' w' hrun
      exact Or.inr (hends.of_ok r' w' (hanswer.symm.trans hrun))
    · intro fault w' hrun
      simpa [hagrees.files_eq] using hends.of_error fault w' (hanswer.symm.trans hrun)

end OverrideManager

end SchemaCrosswalk
