import SchemaCrosswalk.Proofs.Attachments.Documents
import SchemaCrosswalk.Proofs.CommandLine.Programs
import SchemaCrosswalk.Proofs.CompatibilityMap.Entries
import SchemaCrosswalk.Proofs.Overrides.Document
import SchemaCrosswalk.Proofs.Resolution.Modification

/-!
# Reapplication — modifications that ask for nothing new

Tables are attached and the mappings are kept. A modification without new mappings loads what was
kept, resolves it as it was, and keeps the same again. As long as every run finds the same tables
and artifacts, this can be done any number of times.

* `Request`: what is resolved and kept, first as an attachment and later as a modification
* `Request.found`: the tables and artifacts that a run finds
* `Request.keptAt_attach`, `Request.keptAt_reapply`: what one run keeps
* `reapply_keeps_mappings`: what any number of runs keeps
-/

namespace SchemaCrosswalk

/-! ## Mappings that are kept in files -/

namespace AttachmentStore

variable {s : AttachmentStore} {k : AttachmentKey} {mappings : Dictionary String}
variable {now : Timestamp} {files : FileTree}

/-- The files are those that keeping mappings of an attachment at a time has left. -/
def KeptAt (s : AttachmentStore) (k : AttachmentKey) (mappings : Dictionary String)
    (now : Timestamp) (files : FileTree) : Prop :=
  ∃ w w' : Workspace, w.now = now ∧ w'.files = files ∧
    (s.persist k mappings).runOn w = (.ok (), w')

theorem KeptAt.load? (h : s.KeptAt k mappings now files)
    (hreads : s.format.ReadsBack ⟨k, some now, mappings⟩) :
    s.load? files k = .ok (some ⟨k, some now, mappings⟩) := by
  rcases h with ⟨w, w', rfl, rfl, hkeep⟩
  exact load?_of_runOn_persist hkeep hreads

/-- Where mappings were kept, others can be kept in their place. -/
theorem KeptAt.again (h : s.KeptAt k mappings now files) (mappings' : Dictionary String)
    {w : Workspace} (hfiles : w.files = files) :
    ∃ w', (s.persist k mappings').runOn w = (.ok (), w') := by
  rcases h with ⟨w₀, w₁, -, rfl, hkeep⟩
  exact runOn_persist_again hkeep hfiles mappings'

end AttachmentStore

namespace CommandLine

variable {config : Configuration} {json : Bool} {sinkTable : String} {pair : TablePair}
variable {mappings : List ExplicitMapping} {r : Resolution} {c c' : Console}
variable {files : FileTree} {now : Timestamp}

/-! ## Resolutions whose mappings are kept -/

/-- A resolution that is concluded has put its mappings into the files. -/
theorem exists_persist_of_conclude {result : Resolution × List MappingWarning}
    (h : (conclude config json sinkTable pair result).runOn c = (.ok (), c')) :
    ∃ w', ((storeOf config).persist (keyOf sinkTable pair) result.1.applied).runOn c.workspace =
      (.ok (), w') ∧ w'.files = c'.workspace.files := by
  rcases Program.runOn_bind_eq_ok_iff.1 h with ⟨⟨⟩, c₁, hkeep, hreport⟩
  rcases returns_report json true config.mappingsDirectory pair.sourceTable sinkTable result.1
    result.2 c₁ with ⟨c₂, hreported, hagrees⟩
  rw [hreported] at hreport
  cases hreport
  rw [Program.runOn_session] at hkeep
  rcases Prod.mk.inj hkeep with ⟨hok, rfl⟩
  exact ⟨_, Prod.ext hok rfl, hagrees.files_eq.symm⟩

theorem keptAt_of_conclude {result : Resolution × List MappingWarning}
    (h : (conclude config json sinkTable pair result).runOn c = (.ok (), c')) :
    (storeOf config).KeptAt (keyOf sinkTable pair) result.1.applied c.workspace.now
      c'.workspace.files := by
  rcases exists_persist_of_conclude h with ⟨w', hkeep, hfiles⟩
  exact ⟨c.workspace, w', rfl, hfiles, hkeep⟩

/-- A resolution is concluded if its mappings can be kept. -/
theorem exists_conclude (result : Resolution × List MappingWarning) {w' : Workspace}
    (h : ((storeOf config).persist (keyOf sinkTable pair) result.1.applied).runOn c.workspace =
      (.ok (), w')) :
    ∃ c', (conclude config json sinkTable pair result).runOn c = (.ok (), c') := by
  have hkeep : (Program.session ((storeOf config).persist (keyOf sinkTable pair)
      result.1.applied)).runOn c = (.ok (), { c with workspace := w' }) := by
    rw [Program.runOn_session, h]
  rcases returns_report json true config.mappingsDirectory pair.sourceTable sinkTable result.1
    result.2 { c with workspace := w' } with ⟨c₁, hreport, -⟩
  refine ⟨c₁, ?_⟩
  calc
    (conclude config json sinkTable pair result).runOn c
        = (report json true config.mappingsDirectory pair.sourceTable sinkTable result.1
            result.2).runOn { c with workspace := w' } := Program.runOn_bind_of_ok hkeep
    _ = (.ok (), c₁) := hreport

/-- A modification resolves the mappings that are loaded, with the new ones put over them. -/
theorem exists_modification {store : AttachmentStore} {key : AttachmentKey}
    {found : Option AttachmentDocument}
    (hload : store.load? c.workspace.files key = .ok found)
    (hresolve : Resolution.resolve pair
      (mergeMappings ((found.map (·.explicitMappings)).getD []) mappings) = .ok r) :
    ∃ c', (modification store key pair mappings).runOn c = (.ok (r, r.warnings), c') ∧
      c.Agrees c' := by
  have hmodify := Resolution.resolveForModify_eq_ok_iff.2 ⟨hresolve, rfl⟩
  unfold modification
  have hfiles : Program.files.runOn c = (.ok c.workspace.files, c) := rfl
  have hfound : (Program.ofOutcome (store.load? c.workspace.files key)).runOn c =
      (.ok found, c) := by
    rw [Program.runOn_ofOutcome, hload]
  rw [Program.runOn_bind_of_ok hfiles, Program.runOn_bind_of_ok hfound]
  simp only [hmodify]
  rw [Program.runOn_bind_of_ok (Program.runOn_ofOutcome _ c)]
  -- All that is left is to give the warnings.
  refine (?_ : Program.Returns _ (r, r.warnings)) c
  refine Program.returns_bind (Program.returns_forIn (fun w => ?_) _) (Program.returns_pure _)
  exact Program.returns_bind (Program.returns_warn _) (Program.returns_pure _)

/-! ## Requests -/

/-- Two tables that are to be resolved, with the options of the command line. -/
structure Request where
  config : Option String
  outputJson : Bool
  verbosity : String
  sourceEngine : String
  sinkEngine : String
  sourceTable : String
  sinkTable : String
  service : Option String

namespace Request

variable {q : Request}

/-- The invocation that resolves the tables and keeps the mappings. -/
def invocation (q : Request) (mappings : List ExplicitMapping) (modify : Bool) : Invocation where
  config := q.config
  outputJson := q.outputJson
  verbosity := q.verbosity
  command := .resolve q.sourceEngine q.sinkEngine q.sourceTable q.sinkTable mappings modify true
    q.service

/-- The tables are attached with explicit mappings. -/
def attach (q : Request) (mappings : List ExplicitMapping) : Invocation :=
  q.invocation mappings false

/-- The attachment is modified without new mappings. -/
def reapply (q : Request) : Invocation := q.invocation [] true

/-- Read the configuration, the tables and the artifacts. -/
def basis (q : Request) : Program (Configuration × TablePair) := do
  let config ← configuration q.config
  modify fun c =>
    { c with workspace := { c.workspace with catalog := { settings := config.artifacts } } }
  let pair ← tables config q.sourceEngine q.sinkEngine q.sourceTable q.sinkTable q.service
  return (config, pair)

theorem reads_basis (q : Request) : q.basis.Reads := by
  unfold basis
  refine Program.reads_bind (reads_configuration q.config) fun config => ?_
  refine Program.reads_bind (fun c => ⟨rfl, rfl⟩) fun _ => ?_
  exact Program.reads_bind (reads_tables config _ _ _ _ q.service) fun pair =>
    Program.reads_pure _

theorem program_invocation (mappings : List ExplicitMapping) (modify : Bool) :
    (q.invocation mappings modify).program =
      q.basis >>= fun found =>
        resolution found.1 q.sinkTable mappings modify found.2 >>=
          conclude found.1 q.outputJson q.sinkTable found.2 := by
  unfold Invocation.program basis
  simp only [bind_assoc, pure_bind]
  simp only [invocation, run, resolve_eq_bind]

/-- The configuration, the tables and the artifacts that a run on files at a time finds. -/
def found (q : Request) (files : FileTree) (now : Timestamp) :
    Outcome (Configuration × TablePair) :=
  (q.basis.runOn (.start files now)).1

/-- Once the tables are found, a run resolves them on the same files. -/
theorem runOn_program (hfound : q.found files now = .ok (config, pair))
    (mappings : List ExplicitMapping) (modify : Bool) :
    ∃ c : Console, c.workspace.files = files ∧ c.workspace.now = now ∧
      (q.invocation mappings modify).program.runOn (.start files now) =
        (resolution config q.sinkTable mappings modify pair >>=
          conclude config q.outputJson q.sinkTable pair).runOn c := by
  have hbasis : q.basis.runOn (.start files now) = (.ok (config, pair), _) :=
    Prod.ext hfound rfl
  have hagrees := q.reads_basis.agrees hbasis
  rw [program_invocation, Program.runOn_bind_of_ok hbasis]
  exact ⟨_, hagrees.files_eq, hagrees.now_eq, rfl⟩

/-- An attachment that succeeds has resolved the tables and put what was applied into the files. -/
theorem exists_persist_of_attach (hfound : q.found files now = .ok (config, pair))
    (hok : ((q.attach mappings).execute files now).exitCode = 0) :
    ∃ r warnings w w', Resolution.resolveForAttach pair mappings = .ok (r, warnings) ∧
      w.files = files ∧ w.now = now ∧
        ((storeOf config).persist (keyOf q.sinkTable pair) r.applied).runOn w = (.ok (), w') ∧
          w'.files = ((q.attach mappings).execute files now).files := by
  rcases runOn_program hfound mappings false with ⟨c, rfl, rfl, hprogram⟩
  unfold attach at hok ⊢
  rw [Invocation.exitCode_execute_eq_zero_iff, hprogram] at hok
  rw [Invocation.files_execute, hprogram]
  rcases Program.runOn_bind_eq_ok_iff.1 (Prod.ext hok rfl) with
    ⟨⟨r, warnings⟩, c₁, hattach, hconclude⟩
  have hattach' : (Resolution.resolveForAttach pair mappings, c) = (.ok (r, warnings), c₁) :=
    hattach
  rcases Prod.mk.inj hattach' with ⟨hresult, rfl⟩
  rcases exists_persist_of_conclude hconclude with ⟨w', hkeep, hfiles⟩
  exact ⟨r, warnings, c.workspace, w', hresult, rfl, rfl, hkeep, hfiles⟩

/-- An attachment that succeeds has resolved the tables and keeps what was applied. -/
theorem keptAt_attach (hfound : q.found files now = .ok (config, pair))
    (hok : ((q.attach mappings).execute files now).exitCode = 0) :
    ∃ r, Resolution.resolve pair mappings = .ok r ∧
      (storeOf config).KeptAt (keyOf q.sinkTable pair) r.applied now
        ((q.attach mappings).execute files now).files := by
  rcases exists_persist_of_attach hfound hok with
    ⟨r, warnings, w, w', hattach, -, hnow, hkeep, hfiles⟩
  exact ⟨r, Resolution.resolveForAttach_eq_ok hattach, w, w', hnow, hfiles, hkeep⟩

/-- A modification without new mappings succeeds where the mappings were kept, and keeps them. -/
theorem keptAt_reapply {now' : Timestamp} (hfound : q.found files now' = .ok (config, pair))
    (hkept : (storeOf config).KeptAt (keyOf q.sinkTable pair) r.applied now files)
    (hreads : AttachmentDocument.format.ReadsBack
      ⟨keyOf q.sinkTable pair, some now, r.applied⟩)
    (hresolve : Resolution.resolve pair mappings = .ok r) :
    (q.reapply.execute files now').exitCode = 0 ∧
      (storeOf config).KeptAt (keyOf q.sinkTable pair) r.applied now'
        (q.reapply.execute files now').files := by
  rcases runOn_program hfound [] true with ⟨c, rfl, rfl, hprogram⟩
  have hload := hkept.load? hreads
  rcases exists_modification hload
    (Resolution.resolve_persisted hresolve (keyOf q.sinkTable pair) (some now)) with
    ⟨c₁, hmodify, hagrees⟩
  rcases hkept.again r.applied hagrees.files_eq with ⟨w', hkeep⟩
  rcases exists_conclude (r, r.warnings) hkeep with ⟨c₂, hconclude⟩
  have hrun : (q.invocation [] true).program.runOn
      (.start c.workspace.files c.workspace.now) = (.ok (), c₂) := by
    calc
      _ = (resolution config q.sinkTable [] true pair >>=
            conclude config q.outputJson q.sinkTable pair).runOn c := hprogram
      _ = (conclude config q.outputJson q.sinkTable pair (r, r.warnings)).runOn c₁ :=
          Program.runOn_bind_of_ok hmodify
      _ = (.ok (), c₂) := hconclude
  have hkept' := keptAt_of_conclude hconclude
  rw [hagrees.now_eq] at hkept'
  unfold reapply
  rw [Invocation.exitCode_execute_eq_zero_iff, Invocation.files_execute, hrun]
  exact ⟨rfl, hkept'⟩

/-! ## Runs -/

/-- Modifications without new mappings at given times, each on the files that the one before has
left. -/
def reapplyAll (q : Request) (files : FileTree) : List Timestamp → List Execution
  | [] => []
  | now :: times =>
      let execution := q.reapply.execute files now
      execution :: q.reapplyAll execution.files times

/-- Each of these modifications finds the same configuration, tables and artifacts. -/
def FindsAgain (q : Request) (config : Configuration) (pair : TablePair) (files : FileTree) :
    List Timestamp → Prop
  | [] => True
  | now :: times =>
      q.found files now = .ok (config, pair) ∧
        q.FindsAgain config pair (q.reapply.execute files now).files times

/-- All modifications succeed and keep the mappings that were kept before. -/
theorem keptAt_reapplyAll (hresolve : Resolution.resolve pair mappings = .ok r)
    (times : List Timestamp) :
    ∀ {files : FileTree} {now : Timestamp},
      (storeOf config).KeptAt (keyOf q.sinkTable pair) r.applied now files →
      (∀ time ∈ now :: times, AttachmentDocument.format.ReadsBack
        ⟨keyOf q.sinkTable pair, some time, r.applied⟩) →
      q.FindsAgain config pair files times →
      ∀ execution ∈ q.reapplyAll files times, execution.exitCode = 0 ∧ ∃ time ∈ times,
        (storeOf config).KeptAt (keyOf q.sinkTable pair) r.applied time execution.files := by
  induction times with
  | nil =>
      intro files now _ _ _ execution hmem
      cases hmem
  | cons next times ih =>
      intro files now hkept hreads hfinds execution hmem
      rcases hfinds with ⟨hfound, hrest⟩
      rcases keptAt_reapply hfound hkept (hreads now List.mem_cons_self) hresolve with ⟨hok, hnext⟩
      rcases List.mem_cons.1 hmem with rfl | hlater
      · exact ⟨hok, next, List.mem_cons_self, hnext⟩
      · have hreads' := fun time htime => hreads time (List.mem_cons_of_mem now htime)
        rcases ih hnext hreads' hrest execution hlater with ⟨hok', time, htime, hkept'⟩
        exact ⟨hok', time, List.mem_cons_of_mem next htime, hkept'⟩

end Request

/-- Mappings that were persisted resolve to themselves. So if tables were attached, any number of
modifications without new mappings that find the same tables and artifacts succeed and leave the
mappings as they were persisted, provided that documents are read as they are printed. -/
theorem reapply_keeps_mappings (hresolve : Resolution.resolve pair mappings = .ok r) :
    (∀ key time, Resolution.resolve pair
      (mergeMappings (AttachmentDocument.explicitMappings ⟨key, time, r.applied⟩) []) = .ok r) ∧
    ∀ (q : Request) (files : FileTree) (now : Timestamp) (times : List Timestamp)
      (config : Configuration),
      let attached := (q.attach mappings).execute files now
      let key := keyOf q.sinkTable pair
      q.found files now = .ok (config, pair) → attached.exitCode = 0 →
      q.FindsAgain config pair attached.files times →
      (∀ time ∈ now :: times, AttachmentDocument.format.ReadsBack ⟨key, some time, r.applied⟩) →
        (storeOf config).load? attached.files key = .ok (some ⟨key, some now, r.applied⟩) ∧
          ∀ execution ∈ q.reapplyAll attached.files times, execution.exitCode = 0 ∧
            ∃ time ∈ times, (storeOf config).load? execution.files key =
              .ok (some ⟨key, some time, r.applied⟩) := by
  refine ⟨Resolution.resolve_persisted hresolve, ?_⟩
  intro q files now times config attached key hfound hok hfinds hreads
  rcases Request.keptAt_attach hfound hok with ⟨r', hresolve', hkept⟩
  rw [hresolve, Except.ok.injEq] at hresolve'
  rw [← hresolve'] at hkept
  refine ⟨hkept.load? (hreads now List.mem_cons_self), ?_⟩
  intro execution hmem
  rcases Request.keptAt_reapplyAll hresolve times hkept hreads hfinds execution hmem with
    ⟨hok', time, htime, hkept'⟩
  exact ⟨hok', time, htime, hkept'.load? (hreads time (List.mem_cons_of_mem now htime))⟩

/-! ## People that are attached to their contacts -/

deriving instance DecidableEq for OverrideRegistry, Checker, ColumnSet, TablePair

/-- People on one engine and their contacts on another one. -/
def peopleRequest : Request where
  config := none
  outputJson := false
  verbosity := "info"
  sourceEngine := "erp"
  sinkEngine := "crm"
  sourceTable := "people"
  sinkTable := "contacts"
  service := none

/-- A configuration, the tables and a map of their types. -/
def peopleFiles : FileTree :=
  [("cdc-typemap.yaml", "snapshot: tables\nartifacts:\n  compatibility_paths: [.]\n"),
    ("tables", "tables:\n  erp:\n    people:\n    - name: Name\n      type: text\n" ++
      "  crm:\n    contacts:\n    - name: Label\n      type: text\n"),
    ("erp_to_crm.yaml", "mappings:\n  text: text\n")].foldl
    (fun files f => files.plant f.1 (some f.2)) {}

/-- The configuration in the files. -/
def peopleConfiguration : Configuration where
  artifacts := { compatibilityPaths := ["."] }
  snapshot := some "tables"

/-- The tables in the files, with the checker of their types. -/
def peopleTables : TablePair where
  checker := { map := {
    sourceEngine := "erp", sinkEngine := "crm", origin := "./erp_to_crm.yaml"
    sourceAliases := ⟨Dictionary.empty, true⟩
    sinkAliases := ⟨Dictionary.empty, true⟩
    casts := Dictionary.ofList [("text", "text")]
    wider := Dictionary.empty
    wildcard := Dictionary.empty
    stripsParameters := true } }
  sourceTable := "people"
  source := ⟨[⟨"Name", "text", true, false, false⟩], by decide⟩
  sink := ⟨[⟨"Label", "text", true, false, false⟩], by decide⟩

/-- One mapping in two spellings. -/
def peopleMappings : List ExplicitMapping := [⟨"NAME", "LABEL"⟩, ⟨"name", "label"⟩]

/-- What is persisted: the mapping as the tables spell it. -/
def peopleDocument (time : Timestamp) : AttachmentDocument :=
  ⟨⟨"people", "crm", "contacts"⟩, some time, Dictionary.ofList [("Label", "Name")]⟩

/-- The people are attached. -/
def peopleAttached : Execution :=
  (peopleRequest.attach peopleMappings).execute peopleFiles ⟨20000, 0, 0⟩

/-- When the attachment is modified without new mappings. -/
def peopleTimes : List Timestamp := [⟨20001, 0, 0⟩, ⟨20002, 0, 0⟩]

theorem readsBack_people : ∀ time ∈ ⟨20000, 0, 0⟩ :: peopleTimes,
    AttachmentDocument.format.ReadsBack (peopleDocument time) := by
  have hread : ∀ time ∈ ⟨20000, 0, 0⟩ :: peopleTimes,
      (AttachmentDocument.form.read (peopleDocument time).toTree.render).toOption =
        some (peopleDocument time) := by
    decide +kernel
  intro time htime
  exact AttachmentDocument.readsBack_of_read (hread time htime)

theorem resolve_people :
    Resolution.resolve peopleTables peopleMappings =
      .ok (.ofApplied peopleTables (peopleDocument default).mappings) :=
  Resolution.resolve_of_toOption (by decide +kernel)

theorem reapply_keeps_mappings_people :
    Resolution.resolve peopleTables peopleMappings =
        .ok (.ofApplied peopleTables (peopleDocument default).mappings) ∧
      peopleAttached.exitCode = 0 ∧
      ∀ execution ∈ peopleRequest.reapplyAll peopleAttached.files peopleTimes,
        execution.exitCode = 0 ∧ ∃ time ∈ peopleTimes,
          (storeOf peopleConfiguration).load? execution.files (peopleDocument default).key =
            .ok (some (peopleDocument time)) := by
  -- The runs are computed together: each of them starts with the files of the one before.
  have hruns :
      (peopleRequest.found peopleFiles ⟨20000, 0, 0⟩).toOption =
        some (peopleConfiguration, peopleTables) ∧
      peopleAttached.exitCode = 0 ∧
      (peopleRequest.found peopleAttached.files ⟨20001, 0, 0⟩).toOption =
        some (peopleConfiguration, peopleTables) ∧
      (peopleRequest.found (peopleRequest.reapply.execute peopleAttached.files
          ⟨20001, 0, 0⟩).files ⟨20002, 0, 0⟩).toOption =
        some (peopleConfiguration, peopleTables) := by
    decide +kernel
  rcases hruns with ⟨hfound, hok, hnext, hlast⟩
  have hfinds : peopleRequest.FindsAgain peopleConfiguration peopleTables peopleAttached.files
      peopleTimes :=
    ⟨eq_ok_of_toOption hnext, eq_ok_of_toOption hlast, trivial⟩
  have hkeeps := (reapply_keeps_mappings resolve_people).2 peopleRequest peopleFiles ⟨20000, 0, 0⟩
    peopleTimes peopleConfiguration (eq_ok_of_toOption hfound) hok hfinds readsBack_people
  exact ⟨resolve_people, hok, hkeeps.2⟩

end CommandLine

end SchemaCrosswalk
