import Mathlib.Data.List.Infix
import SchemaCrosswalk.Proofs.Files.Persistence
import SchemaCrosswalk.Proofs.Overrides.Runs

/-!
# Durability — the registry of a run and the document in the file

Along a run of requests the file of the group always holds the document of the current registry.
A request that fails or changes nothing leaves all files as they are. A request that changes the
overrides replaces the document of its group; besides, only a draft that was left beside that
document is gone.

* `OverrideManager.InSync`: the invariant of runs
* `OverrideManager.Rewrites`: what a change of the overrides does to the files
* `OverrideManager.inSync_step`, `OverrideManager.frugal_step`: what one request preserves
* `OverrideManager.inSync_run`: what holds along every run
-/

namespace SchemaCrosswalk

open Text

/-! ## Where documents lie -/

namespace OverrideStore

variable {store : OverrideStore} {group other : String} {w w' : Workspace}

/-- The name of the file with the document of a group. -/
def documentName (group : String) : String := group ++ ".yaml"

theorem isFileName_documentName (h : isPlainName group = true) :
    IsFileName (documentName group) :=
  isFileName_append (no_slash_of_isPlainName h) (by decide) (by decide)

/-- The place of the document of a group among all files. -/
def artifact (store : OverrideStore) (group : String) : String :=
  FileTree.address store.directory (documentName group)

/-- The place of the draft that the document of a group is written to first. -/
def draft (store : OverrideStore) (group : String) : String :=
  FileTree.address store.directory (draftName (documentName group))

theorem artifact_ne (hne : other ≠ group) : store.artifact other ≠ store.artifact group := by
  intro heq
  have hname : other ++ ".yaml" = group ++ ".yaml" := FileTree.address_inj.1 heq
  exact hne ((String.append_left_inj _).1 hname)

/-- The document of a group is never taken for a draft. -/
theorem artifact_ne_draft (store : OverrideStore) (other group : String) :
    store.artifact other ≠ store.draft group := by
  intro heq
  exact ne_draftName other group (FileTree.address_inj.1 heq)

theorem path_of_isPlainName (h : isPlainName group = true) :
    store.path group = .ok (Path.join store.directory (documentName group)) := by
  unfold path
  rw [if_pos h]
  rfl

theorem isPlainName_of_load?_eq_ok {found : Option OverrideDocument}
    (h : store.load? w.files group = .ok found) : isPlainName group = true := by
  unfold load? path at h
  cases hplain : isPlainName group with
  | true => rfl
  | false =>
      rw [hplain] at h
      cases h

theorem load?_of_isPlainName (h : isPlainName group = true) (files : FileTree) :
    store.load? files group =
      store.format.load? files (Path.join store.directory (documentName group)) := by
  unfold load?
  rw [path_of_isPlainName h]
  rfl

theorem runOn_persist (h : isPlainName group = true) (d : OverrideDocument) (w : Workspace) :
    (store.persist group d).runOn w =
      let persisted := store.format.persist w.files store.directory
        (Path.join store.directory (documentName group)) d
      (persisted.2, { w with files := persisted.1 }) := by
  unfold persist
  rw [path_of_isPlainName h]
  rfl

theorem runOn_persist_eq_ok (h : isPlainName group = true) {d : OverrideDocument}
    (hpersist : (store.persist group d).runOn w = (.ok (), w')) :
    store.format.persist w.files store.directory (Path.join store.directory (documentName group)) d
      = (w'.files, .ok ()) := by
  rw [runOn_persist h] at hpersist
  obtain ⟨hok, rfl⟩ := Prod.mk.inj hpersist
  exact Prod.ext rfl hok

theorem isPlainName_of_persist {d : OverrideDocument}
    (h : ((store.persist group d).runOn w).1 = .ok ()) : isPlainName group = true := by
  unfold persist path at h
  cases hplain : isPlainName group with
  | true => rfl
  | false =>
      rw [hplain] at h
      cases h

/-- Where some document of a group can be persisted, so can any other. -/
theorem exists_persist {d : OverrideDocument}
    (h : ((store.persist group d).runOn w).1 = .ok ()) (hfiles : w'.files = w.files)
    (d' : OverrideDocument) : ∃ w'', (store.persist group d').runOn w' = (.ok (), w'') := by
  have hplain := isPlainName_of_persist h
  have hok : ((store.persist group d').runOn w').1 = .ok () := by
    rw [runOn_persist hplain] at h ⊢
    rw [hfiles]
    exact DocumentFormat.persist_any (isFileName_documentName hplain) h d'
  exact ⟨_, Prod.ext hok rfl⟩

/-- What was persisted can be replaced. -/
theorem exists_persist_again {d : OverrideDocument}
    (h : (store.persist group d).runOn w = (.ok (), w')) {w'' : Workspace}
    (hfiles : w''.files = w'.files) (d' : OverrideDocument) :
    ∃ w₁, (store.persist group d').runOn w'' = (.ok (), w₁) := by
  have hplain := isPlainName_of_persist (congrArg Prod.fst h)
  have hok : ((store.persist group d').runOn w'').1 = .ok () := by
    rw [runOn_persist hplain, hfiles]
    exact DocumentFormat.persist_again (isFileName_documentName hplain)
      (runOn_persist_eq_ok hplain h) d'
  exact ⟨_, Prod.ext hok rfl⟩

end OverrideStore

/-! ## Documents that are read back -/

namespace OverrideDocument

variable {d : OverrideDocument} {origin : String}

/-- A document whose text is read as that document. -/
def ReadsBack (d : OverrideDocument) : Prop := form.read d.toText = .ok d

instance (d : OverrideDocument) : Decidable d.ReadsBack :=
  match h : form.read d.toText with
  | .ok found => decidable_of_iff (found = d) (by rw [ReadsBack, h, Except.ok.injEq])
  | .error _ => isFalse fun hread => by
      rw [ReadsBack, h] at hread
      cases hread

theorem ofText_toText (hread : d.ReadsBack) (hvalid : d.flaw? = none) :
    ofText d.toText origin = .ok d := by
  have hform : form.read d.toText = .ok d := hread
  unfold ofText
  rw [hform]
  simp only [hvalid]

theorem read_format : format.read = ofText := rfl

theorem print_format : format.print = toText := rfl

theorem flaw?_empty : empty.flaw? = none := rfl

end OverrideDocument

namespace OverrideManager

variable {m : OverrideManager} {r : OverrideRegistry} {s : OverrideState} {w w' : Workspace}
variable {group engine : String} {q : Timestamp × OverrideRequest} {d : OverrideDocument}

/-! ## Loading -/

theorem runOn_load (m : OverrideManager) (group engine : String) (w : Workspace) :
    (m.load group engine).runOn w =
      match m.store.load? w.files group with
      | .ok (some d) => (.ok (.ofDocument group engine d), w)
      | .ok none => (.ok (.empty group engine), w)
      | .error fault => (.error fault, w) := by
  unfold load
  rw [Session.runOn_bind_of_ok (Session.runOn_get w)]
  have hrun := Session.runOn_ofOutcome (m.store.load? w.files group) w
  rcases hload : m.store.load? w.files group with fault | _ | d
  · rw [hload] at hrun
    exact Session.runOn_bind_of_error hrun
  · rw [hload] at hrun
    exact Session.runOn_bind_of_ok hrun
  · rw [hload] at hrun
    exact Session.runOn_bind_of_ok hrun

/-- A group is loaded if its document, or that there is none, can be read. -/
theorem load_eq_ok_iff :
    (m.load group engine).runOn w = (.ok r, w') ↔
      w' = w ∧ ∃ found, m.store.load? w.files group = .ok found ∧
        r = found.elim (.empty group engine) (.ofDocument group engine) := by
  rw [runOn_load]
  rcases m.store.load? w.files group with fault | _ | d
  · simp
  · simp [eq_comm, and_comm]
  · simp [eq_comm, and_comm]

/-- What is loaded depends on the files only. -/
theorem load_of_files_eq (hfiles : w'.files = w.files)
    (h : (m.load group engine).runOn w = (.ok r, w)) :
    (m.load group engine).runOn w' = (.ok r, w') := by
  obtain ⟨-, found, hload, hr⟩ := load_eq_ok_iff.1 h
  refine load_eq_ok_iff.2 ⟨rfl, found, ?_, hr⟩
  rw [hfiles, hload]

/-- What was persisted is loaded if it is read back. -/
theorem load_of_persist (hformat : m.store.format = OverrideDocument.format)
    (hplain : isPlainName group = true)
    (hpersist : (m.store.persist group d).runOn w = (.ok (), w'))
    (hread : d.ReadsBack) (hvalid : d.flaw? = none) :
    (m.load group engine).runOn w' = (.ok (.ofDocument group engine d), w') := by
  have hname := OverrideStore.isFileName_documentName hplain
  have hpersisted := OverrideStore.runOn_persist_eq_ok hplain hpersist
  have hreads : ∀ path, m.store.format.read (m.store.format.print d) path = .ok d := by
    intro path
    rw [hformat, OverrideDocument.read_format, OverrideDocument.print_format]
    exact OverrideDocument.ofText_toText hread hvalid
  have hload : m.store.load? w'.files group = .ok (some d) := by
    rw [OverrideStore.load?_of_isPlainName hplain, DocumentFormat.load?_persist hname hpersisted,
      hreads]
    rfl
  exact load_eq_ok_iff.2 ⟨rfl, some d, hload, rfl⟩

/-! ## The invariant -/

/-- The file of the group holds the document of the registry, which has no flaw, and can be
replaced. -/
structure InSync (m : OverrideManager) (group engine : String) (s : OverrideState) : Prop where
  group_eq : s.registry.group = group
  engine_eq : s.registry.engine = engine
  valid : s.registry.document.flaw? = none
  loads : (m.load group engine).runOn s.workspace = (.ok s.registry, s.workspace)
  persists : ∀ d, ((m.store.persist group d).runOn s.workspace).1 = .ok ()

/-- The documents of other groups and all other files are as they were, and no draft is left. -/
structure Rewrites (store : OverrideStore) (group : String) (d : OverrideDocument)
    (files files' : FileTree) : Prop where
  artifact : (store.artifact group, d.toText) ∈ files'.files
  draft : ∀ text, (store.draft group, text) ∉ files'.files
  groups : ∀ other text, other ≠ group →
    ((store.artifact other, text) ∈ files'.files ↔ (store.artifact other, text) ∈ files.files)
  others : ∀ path text, path ≠ store.artifact group → path ≠ store.draft group →
    ((path, text) ∈ files'.files ↔ (path, text) ∈ files.files)

/-- Files change only if the overrides do, and then the document of the group is rewritten. -/
structure Frugal (m : OverrideManager) (group : String) (s : OverrideState)
    (q : Timestamp × OverrideRequest) : Prop where
  of_error : ∀ fault w, (m.answer s.registry q.2).runOn (s.workspace.at q.1) = (.error fault, w) →
    (m.step s q).registry = s.registry ∧ (m.step s q).workspace.files = s.workspace.files
  of_unchanged : (m.step s q).registry.entries = s.registry.entries →
    (m.step s q).workspace.files = s.workspace.files
  of_changed : (m.step s q).registry.entries ≠ s.registry.entries →
    Rewrites m.store group (m.step s q).registry.document s.workspace.files
      (m.step s q).workspace.files

namespace InSync

theorem isPlainName_group (h : m.InSync group engine s) : isPlainName group = true := by
  obtain ⟨-, found, hload, -⟩ := load_eq_ok_iff.1 h.loads
  exact OverrideStore.isPlainName_of_load?_eq_ok hload

theorem persists_of_files_eq (h : m.InSync group engine s) (hfiles : w.files = s.workspace.files)
    (d : OverrideDocument) : ((m.store.persist group d).runOn w).1 = .ok () := by
  obtain ⟨_, hpersist⟩ := OverrideStore.exists_persist (h.persists d) hfiles d
  rw [hpersist]

/-- Where nothing keeps a document from being persisted, a request keeps the registry and the files,
or it persists the document that it leads to. -/
theorem step_cases (h : m.InSync group engine s) (q : Timestamp × OverrideRequest) :
    (∃ w : Workspace, w.files = s.workspace.files ∧ m.step s q = ⟨s.registry, w⟩) ∨
      ∃ d w w', m.Leads (s.workspace.at q.1) s.registry q.2 d ∧ w.files = s.workspace.files ∧
        (m.store.persist group (d.dated q.1)).runOn w = (.ok (), w') ∧
        m.step s q = ⟨.ofDocument group engine (d.dated q.1), w'⟩ := by
  have hstep := m.step_spec s q
  generalize m.step s q = s' at hstep ⊢
  cases hstep with
  | @kept w hagrees => exact Or.inl ⟨w, hagrees.files_eq, rfl⟩
  | @failed d w w' fault hleads hagrees hpersist =>
      -- Persisting cannot fail, since it does not from the same files.
      have hok := h.persists_of_files_eq hagrees.files_eq (d.dated q.1)
      rw [h.group_eq] at hpersist
      rw [hpersist] at hok
      cases hok
  | @committed d w w' hleads hagrees hpersist =>
      rw [h.group_eq] at hpersist
      refine Or.inr ⟨d, w, w', hleads, hagrees.files_eq, hpersist, ?_⟩
      rw [h.group_eq, h.engine_eq]

end InSync

/-- One request keeps the file and the registry in step. -/
theorem inSync_step (hformat : m.store.format = OverrideDocument.format)
    (h : m.InSync group engine s) (hread : (m.step s q).registry.document.ReadsBack) :
    m.InSync group engine (m.step s q) := by
  have hplain := h.isPlainName_group
  rcases h.step_cases q with ⟨w, hfiles, hstep⟩ | ⟨d, w, w', hleads, hfiles, hpersist, hstep⟩
  · rw [hstep]
    exact ⟨h.group_eq, h.engine_eq, h.valid, load_of_files_eq hfiles h.loads,
      h.persists_of_files_eq hfiles⟩
  · rw [hstep] at hread ⊢
    have hvalid : (d.dated q.1).flaw? = none := hleads.flaw?_eq_none h.valid
    refine ⟨rfl, rfl, hvalid, load_of_persist hformat hplain hpersist hread hvalid, fun d' => ?_⟩
    obtain ⟨_, hagain⟩ := OverrideStore.exists_persist_again hpersist rfl d'
    rw [hagain]

theorem rewrites_of_persist (hformat : m.store.format = OverrideDocument.format)
    (hplain : isPlainName group = true)
    (hpersist : (m.store.persist group d).runOn w = (.ok (), w')) :
    Rewrites m.store group d w.files w'.files := by
  have hpersisted := OverrideStore.runOn_persist_eq_ok hplain hpersist
  rw [hformat] at hpersisted
  have hmem : ∀ path text, (path, text) ∈ w'.files.files ↔
      path = m.store.artifact group ∧ text = d.toText ∨
        path ≠ m.store.artifact group ∧ path ≠ m.store.draft group ∧
          (path, text) ∈ w.files.files := fun path text =>
    DocumentFormat.mem_files_persist (OverrideStore.isFileName_documentName hplain) hpersisted
  have hothers : ∀ path text, path ≠ m.store.artifact group → path ≠ m.store.draft group →
      ((path, text) ∈ w'.files.files ↔ (path, text) ∈ w.files.files) := by
    intro path text hartifact hdraft
    rw [hmem]
    tauto
  -- The document of another group is one of the other files.
  refine ⟨(hmem _ _).2 (Or.inl ⟨rfl, rfl⟩), fun text hin => ?_, fun other text hne => ?_, hothers⟩
  · rcases (hmem _ _).1 hin with ⟨hdraft, -⟩ | ⟨-, hdraft, -⟩
    · exact OverrideStore.artifact_ne_draft m.store group group hdraft.symm
    · exact hdraft rfl
  · exact hothers _ text (OverrideStore.artifact_ne hne) (OverrideStore.artifact_ne_draft _ _ _)

/-- One request changes no file without need. -/
theorem frugal_step (hformat : m.store.format = OverrideDocument.format)
    (h : m.InSync group engine s) (q : Timestamp × OverrideRequest) : m.Frugal group s q := by
  -- A document that is committed has other overrides than the one before.
  have hunchanged : (m.step s q).registry.entries = s.registry.entries →
      (m.step s q).workspace.files = s.workspace.files := by
    intro hentries
    rcases h.step_cases q with ⟨w, hfiles, hstep⟩ | ⟨d, w, w', hleads, -, -, hstep⟩
    · rw [hstep]
      exact hfiles
    · rw [hstep] at hentries
      exact absurd hentries hleads.entries_ne
  refine ⟨?_, hunchanged, ?_⟩
  · intro fault w hanswer
    have hregistry : (m.step s q).registry = s.registry := by
      unfold step
      rw [hanswer]
    exact ⟨hregistry, hunchanged (by rw [hregistry])⟩
  · intro hentries
    rcases h.step_cases q with ⟨w, -, hstep⟩ | ⟨d, w, w', -, hfiles, hpersist, hstep⟩
    · rw [hstep] at hentries
      exact absurd rfl hentries
    · rw [hstep, ← hfiles]
      exact rewrites_of_persist hformat h.isPlainName_group hpersist

/-! ## Runs -/

theorem inSync_of_load (hformat : m.store.format = OverrideDocument.format)
    (hload : (m.load group engine).runOn w = (.ok r, w))
    (hpersists : ∃ d, ((m.store.persist group d).runOn w).1 = .ok ()) :
    m.InSync group engine ⟨r, w⟩ := by
  obtain ⟨-, found, hfound, hr⟩ := load_eq_ok_iff.1 hload
  have hplain := OverrideStore.isPlainName_of_load?_eq_ok hfound
  have hall : ∀ d, ((m.store.persist group d).runOn w).1 = .ok () := by
    obtain ⟨d, hok⟩ := hpersists
    intro d'
    obtain ⟨_, hpersist⟩ := OverrideStore.exists_persist hok rfl d'
    rw [hpersist]
  cases found with
  | none =>
      subst hr
      exact ⟨rfl, rfl, OverrideDocument.flaw?_empty, hload, hall⟩
  | some d =>
      subst hr
      -- The document has been read, which is refused if it has a flaw.
      rw [OverrideStore.load?_of_isPlainName hplain] at hfound
      obtain ⟨text, hread⟩ := DocumentFormat.exists_read_of_load? hfound
      rw [hformat, OverrideDocument.read_format] at hread
      exact ⟨rfl, rfl, OverrideDocument.flaw?_of_ofText hread, hload, hall⟩

/-- Whatever requests are made, the file and the registry are in step after each of them. -/
theorem inSync_run (hformat : m.store.format = OverrideDocument.format)
    (h : m.InSync group engine s) (requests : List (Timestamp × OverrideRequest))
    (hreads : ∀ done, done <+: requests → (m.run s done).registry.document.ReadsBack) :
    m.InSync group engine (m.run s requests) := by
  induction requests using List.reverseRecOn with
  | nil => exact h
  | append_singleton requests q ih =>
      -- The last request is a step from a state that is in sync by induction.
      rw [run_append_singleton]
      refine inSync_step hformat (ih fun done hdone => ?_) ?_
      · exact hreads done (hdone.trans (List.prefix_append _ _))
      · rw [← run_append_singleton]
        exact hreads _ (List.prefix_refl _)

/-- Memory and files agree along every run that starts with what was loaded: after each request the
group is loaded as the registry that the next one is made with, which has no flaw. Files change only
with the overrides: the document of the group, and a draft that was left beside it and is gone. -/
theorem run_durable (hformat : m.store.format = OverrideDocument.format)
    (hload : (m.load group engine).runOn w = (.ok r, w))
    (hpersists : ∃ d, ((m.store.persist group d).runOn w).1 = .ok ())
    (requests : List (Timestamp × OverrideRequest))
    (hreads : ∀ done, done <+: requests → (m.run ⟨r, w⟩ done).registry.document.ReadsBack) :
    ∀ done, done <+: requests →
      let s := m.run ⟨r, w⟩ done
      (m.load group engine).runOn s.workspace = (.ok s.registry, s.workspace) ∧
        s.registry.document.flaw? = none ∧ ∀ q, m.Frugal group s q := by
  intro done hdone
  have hstart := inSync_of_load hformat hload hpersists
  have hsync := inSync_run hformat hstart done fun before hbefore =>
    hreads before (hbefore.trans hdone)
  exact ⟨hsync.loads, hsync.valid, frugal_step hformat hsync⟩

/-- A manager of overrides of orders. -/
def orderManager : OverrideManager where
  store := { directory := "overrides" }

/-- An override that is set and removed again. -/
def orderRequests : List (Timestamp × OverrideRequest) :=
  [(⟨20000, 0, 0⟩, .set "dbo.Orders" "Amount" " int "),
    (⟨20001, 60, 0⟩, .remove "DBO.ORDERS" "amount")]

/-- A workspace with one text in one file. -/
def workspaceWith (path text : String) : Workspace where
  files := FileTree.plant {} path (some text)

theorem run_durable_orders :
    let start : OverrideState :=
      ⟨.empty "erp" "mssql", workspaceWith "overrides/crm.yaml" "overrides: \x7b\x7d\n"⟩
    let s := orderManager.run start (orderRequests.take 1)
    s.registry.entries = [⟨"dbo.Orders", "Amount", "int"⟩] ∧
      (orderManager.load "erp" "mssql").runOn s.workspace = (.ok s.registry, s.workspace) ∧
      s.registry.document.flaw? = none ∧ ∀ q, orderManager.Frugal "erp" s q := by
  intro start s
  have hreads : ∀ done ∈ orderRequests.inits,
      (orderManager.run start done).registry.document.ReadsBack := by
    decide +kernel
  have hload : (orderManager.load "erp" "mssql").runOn start.workspace =
      (.ok start.registry, start.workspace) := rfl
  have hpersists : ((orderManager.store.persist "erp" .empty).runOn start.workspace).1 = .ok () :=
    rfl
  have hdurable := run_durable (m := orderManager) (r := start.registry) (w := start.workspace) rfl
    hload ⟨.empty, hpersists⟩ orderRequests fun done hdone =>
      hreads done ((List.mem_inits done _).2 hdone)
  exact ⟨by decide +kernel, hdurable _ (List.take_prefix 1 _)⟩

/-- A draft that was left beside the document of a group does not stay when an override is set,
though it is not the document of any group. -/
theorem set_drops_draft :
    let s : OverrideState :=
      ⟨.empty "erp" "mssql", workspaceWith "overrides/erp.yaml.tmp" "left over\n"⟩
    let s' := orderManager.run s (orderRequests.take 1)
    ((orderManager.load "erp" "mssql").runOn s.workspace = (.ok s.registry, s.workspace) ∧
      ((orderManager.store.persist "erp" .empty).runOn s.workspace).1 = .ok () ∧
      s.registry.document.ReadsBack ∧ s'.registry.document.ReadsBack) ∧
    s'.registry.entries ≠ s.registry.entries ∧
      orderManager.store.artifact "erp" ≠ "overrides/erp.yaml.tmp" ∧
      ("overrides/erp.yaml.tmp", "left over\n") ∈ s.workspace.files.files ∧
      ("overrides/erp.yaml.tmp", "left over\n") ∉ s'.workspace.files.files := by
  refine ⟨⟨rfl, rfl, ?_⟩, ?_⟩
  · decide +kernel
  · decide +kernel

end OverrideManager

end SchemaCrosswalk
