import SchemaCrosswalk.Proofs.CommandLine.Effects
import SchemaCrosswalk.Proofs.CommandLine.Reapplication

/-!
# Answers — what a resolution finds, resolves and prints

A run that resolves two tables finds its configuration, the tables and the artifacts, loads what was
kept of the attachment, resolves the tables and keeps the mappings if it is asked to. Each step
depends on the files and on what the steps before it have found. Only the last one prints anything.

* `Request.run`: what is asked for, with the mappings kept or not
* `Request.found_eq`: what a run finds, step by step
* `Request.resolved`: the resolution that a run comes to
* `Request.answer`: what a run prints, or how it fails
* `Request.tells_execute`: it does so
-/

namespace SchemaCrosswalk.CommandLine

variable {config : Configuration} {pair : TablePair} {c c' : Console}
variable {files : FileTree} {now : Timestamp}

/-! ## Programs that print nothing -/

namespace Program

variable {α β : Type} {s : Program α} {k : α → Program β}

theorem fst_runOn_bind (s : Program α) (k : α → Program β) (c : Console) :
    ((s >>= k).runOn c).1 = (s.runOn c).1 >>= fun a => ((k a).runOn (s.runOn c).2).1 := by
  rcases h : s.runOn c with ⟨fault | a, c'⟩
  · rw [runOn_bind_of_error h]
    rfl
  · rw [runOn_bind_of_ok h]
    rfl

theorem Returns.fst_runOn {a : α} (h : s.Returns a) (c : Console) : (s.runOn c).1 = .ok a := by
  rcases h c with ⟨c', hrun, -⟩
  rw [hrun]

/-- A program that prints nothing. -/
def Silent (s : Program α) : Prop := ∀ c : Console, (s.runOn c).2.output = c.output

theorem Silent.output_eq {o : Outcome α} (h : s.Silent) (hrun : s.runOn c = (o, c')) :
    c'.output = c.output := by
  have houtput := h c
  rw [hrun] at houtput
  exact houtput

theorem silent_pure (a : α) : (pure a : Program α).Silent := fun _ => rfl

theorem silent_throw (fault : Fault) : (throw fault : Program α).Silent := fun _ => rfl

theorem silent_files : Program.files.Silent := fun _ => rfl

theorem silent_session (s : Session α) : (session s).Silent := by
  intro c
  rw [runOn_session]

theorem silent_ofOutcome (o : Outcome α) : (ofOutcome o).Silent := fun _ => rfl

theorem silent_bind (hs : s.Silent) (hk : ∀ a, (k a).Silent) : (s >>= k).Silent := by
  intro c
  rcases h : s.runOn c with ⟨fault | a, c'⟩
  · rw [runOn_bind_of_error h]
    exact hs.output_eq h
  · rw [runOn_bind_of_ok h]
    exact (hk a c').trans (hs.output_eq h)

theorem silent_forIn {body : α → PUnit → Program (ForInStep PUnit)} (h : ∀ a, (body a ⟨⟩).Silent)
    (items : List α) : (forIn items PUnit.unit body : Program PUnit).Silent := by
  induction items with
  | nil => exact silent_pure _
  | cons a items ih =>
      rw [List.forIn_cons]
      refine silent_bind (h a) fun step => ?_
      cases step with
      | done _ => exact silent_pure _
      | yield _ => exact ih

/-! ## What a program prints -/

/-- A program fails, or it succeeds and prints some lines. -/
def Prints (s : Program Unit) (c : Console) : Outcome (List String) → Prop
  | .ok lines => ∃ c', s.runOn c = (.ok (), c') ∧ c'.output = c.output ++ lines.map (· ++ "\n")
  | .error fault => ∃ c', s.runOn c = (.error fault, c') ∧ c'.output = c.output

/-- After a program that prints nothing, only the rest counts. -/
theorem prints_bind {k : α → Program Unit} {o : Outcome α} {p : α → Outcome (List String)}
    (hs : s.Silent) (ho : (s.runOn c).1 = o)
    (hk : ∀ a c', s.runOn c = (.ok a, c') → (k a).Prints c' (p a)) :
    (s >>= k).Prints c (o >>= p) := by
  subst ho
  rcases h : s.runOn c with ⟨fault | a, c'⟩
  · exact ⟨c', runOn_bind_of_error h, hs.output_eq h⟩
  · have hrest := hk a c' h
    have hsame := hs.output_eq h
    show (s >>= k).Prints c (p a)
    cases hp : p a with
    | error fault =>
        rw [hp] at hrest
        rcases hrest with ⟨c'', hrun, houtput⟩
        exact ⟨c'', (runOn_bind_of_ok h).trans hrun, houtput.trans hsame⟩
    | ok lines =>
        rw [hp] at hrest
        rcases hrest with ⟨c'', hrun, houtput⟩
        exact ⟨c'', (runOn_bind_of_ok h).trans hrun, by rw [houtput, hsame]⟩

theorem runOn_print (line : String) (c : Console) :
    (print line).runOn c = (.ok (), { c with output := c.output ++ [line ++ "\n"] }) :=
  rfl

theorem runOn_printAll (lines : List String) (c : Console) :
    (forIn lines PUnit.unit fun line _ => do
        print line
        pure (ForInStep.yield PUnit.unit) : Program PUnit).runOn c =
      (.ok ⟨⟩, { c with output := c.output ++ lines.map (· ++ "\n") }) := by
  induction lines generalizing c with
  | nil =>
      rw [List.map_nil, List.append_nil]
      rfl
  | cons line lines ih =>
      rw [List.forIn_cons, bind_assoc, runOn_bind_of_ok (runOn_print line c), pure_bind]
      simp only [ih, List.map_cons, List.append_assoc, List.singleton_append]

end Program

/-- What is told of an execution: it has failed, or it has succeeded and printed some lines. -/
def Execution.Tells (e : Execution) : Outcome (List String) → Prop
  | .ok lines => e.exitCode = 0 ∧ e.failure = none ∧ e.output = String.join (lines.map (· ++ "\n"))
  | .error fault => e.exitCode = fault.exitCode ∧ e.failure = some fault ∧ e.output = ""

theorem Invocation.output_execute (i : Invocation) (files : FileTree) (now : Timestamp) :
    (i.execute files now).output = String.join (i.program.runOn (.start files now)).2.output :=
  rfl

theorem Invocation.tells_execute_of_prints {i : Invocation} {o : Outcome (List String)}
    (h : i.program.Prints (.start files now) o) : (i.execute files now).Tells o := by
  cases o with
  | error fault =>
      rcases h with ⟨c, hrun, houtput⟩
      have hfailure : (i.execute files now).failure = some fault := by
        rw [i.failure_execute, hrun]
      refine ⟨?_, hfailure, ?_⟩
      · rw [i.exitCode_execute, hfailure]
        rfl
      · rw [i.output_execute, hrun, houtput]
        rfl
  | ok lines =>
      rcases h with ⟨c, hrun, houtput⟩
      have hfailure : (i.execute files now).failure = none := by
        rw [i.failure_execute, hrun]
      refine ⟨?_, hfailure, ?_⟩
      · rw [i.exitCode_execute, hfailure]
        rfl
      · rw [i.output_execute, hrun, houtput]
        rfl

/-! ## Reports -/

/-- The lines that tell of a resolution, and of its mappings if they were kept. -/
def reportLines (json apply : Bool) (directory sourceTable sinkTable : String) (r : Resolution)
    (warnings : List MappingWarning) : List String :=
  if json then
    [(Json.object [
      ("resolution", resolutionJson r),
      ("warnings", .array (warnings.map warningJson))]).render]
  else
    resolutionLines sourceTable sinkTable r warnings ++
      if apply then [s!"  Applied mappings persisted to {directory}"] else []

theorem prints_report (json apply : Bool) (directory sourceTable sinkTable : String)
    (r : Resolution) (warnings : List MappingWarning) (c : Console) :
    (report json apply directory sourceTable sinkTable r warnings).Prints c
      (.ok (reportLines json apply directory sourceTable sinkTable r warnings)) := by
  unfold report reportLines
  cases json with
  | true => exact ⟨_, rfl, rfl⟩
  | false =>
      have hall := Program.runOn_printAll (resolutionLines sourceTable sinkTable r warnings) c
      cases apply with
      | false =>
          refine ⟨_, Program.runOn_bind_of_ok hall, ?_⟩
          simp
      | true =>
          refine ⟨_, Program.runOn_bind_of_ok hall, ?_⟩
          simp

/-! ## What is kept -/

/-- Whether mappings can be kept depends on the files and the time only. -/
theorem fst_runOn_persist_congr (s : AttachmentStore) (k : AttachmentKey)
    (mappings : Dictionary String) {w w' : Workspace} (hfiles : w'.files = w.files)
    (hnow : w'.now = w.now) :
    ((s.persist k mappings).runOn w').1 = ((s.persist k mappings).runOn w).1 := by
  cases hpath : s.path k with
  | error fault =>
      rw [AttachmentStore.runOn_persist_of_refused hpath,
        AttachmentStore.runOn_persist_of_refused hpath]
  | ok path =>
      have hplain := (AttachmentStore.path_eq_ok_iff.1 hpath).1
      rw [AttachmentStore.runOn_persist hplain, AttachmentStore.runOn_persist hplain, hfiles, hnow]

/-- The mappings that are kept of an attachment in some files, none if it has no document. -/
def persistedIn (config : Configuration) (sinkTable : String) (pair : TablePair)
    (files : FileTree) : Outcome (List ExplicitMapping) := do
  let existing ← (storeOf config).load? files (keyOf sinkTable pair)
  return (existing.map (·.explicitMappings)).getD []

/-- The resolution of two tables that is asked for, on some files. -/
def resolutionIn (config : Configuration) (sinkTable : String) (mappings : List ExplicitMapping)
    (modify : Bool) (pair : TablePair) (files : FileTree) :
    Outcome (Resolution × List MappingWarning) :=
  if modify then do
    let persisted ← persistedIn config sinkTable pair files
    Resolution.resolveForModify pair (mergeMappings persisted mappings)
  else Resolution.resolveForAttach pair mappings

theorem fst_runOn_modification (store : AttachmentStore) (key : AttachmentKey) (pair : TablePair)
    (mappings : List ExplicitMapping) (c : Console) :
    ((modification store key pair mappings).runOn c).1 =
      store.load? c.files key >>= fun existing =>
        Resolution.resolveForModify pair
          (mergeMappings ((existing.map (·.explicitMappings)).getD []) mappings) := by
  unfold modification
  have hfiles : Program.files.runOn c = (.ok c.files, c) := rfl
  rw [Program.runOn_bind_of_ok hfiles, Program.fst_runOn_bind, Program.runOn_ofOutcome]
  refine congrArg (store.load? c.files key >>= ·) (funext fun existing => ?_)
  rw [Program.fst_runOn_bind, Program.runOn_ofOutcome]
  -- The warnings are given once the tables have been resolved, and they cannot fail.
  cases Resolution.resolveForModify pair
      (mergeMappings ((existing.map (·.explicitMappings)).getD []) mappings) with
  | error fault => rfl
  | ok result =>
      refine Program.Returns.fst_runOn (?_ : Program.Returns _ result) c
      refine Program.returns_bind (Program.returns_forIn (fun w => ?_) _) (Program.returns_pure _)
      exact Program.returns_bind (Program.returns_warn _) (Program.returns_pure _)

theorem fst_runOn_resolution (config : Configuration) (sinkTable : String)
    (mappings : List ExplicitMapping) (modify : Bool) (pair : TablePair) (c : Console) :
    ((resolution config sinkTable mappings modify pair).runOn c).1 =
      resolutionIn config sinkTable mappings modify pair c.files := by
  cases modify with
  | false => rfl
  | true =>
      unfold resolution resolutionIn persistedIn
      simp only [if_true, fst_runOn_modification, bind_assoc, pure_bind]

theorem silent_resolution (config : Configuration) (sinkTable : String)
    (mappings : List ExplicitMapping) (modify : Bool) (pair : TablePair) :
    (resolution config sinkTable mappings modify pair).Silent := by
  unfold resolution
  cases modify with
  | false => exact Program.silent_ofOutcome _
  | true =>
      refine Program.silent_bind Program.silent_files fun files => ?_
      refine Program.silent_bind (Program.silent_ofOutcome _) fun existing => ?_
      refine Program.silent_bind (Program.silent_ofOutcome _) fun result => ?_
      refine Program.silent_bind (Program.silent_forIn (fun w => ?_) _) fun _ =>
        Program.silent_pure _
      exact Program.silent_bind (Program.silent_session _) fun _ => Program.silent_pure _

/-! ## What is found -/

theorem silent_registryOf (config : Configuration) (service engine : String) :
    (registryOf config service engine).Silent := by
  unfold registryOf
  refine Program.silent_bind (Program.silent_ofOutcome _) fun found => ?_
  cases found with
  | none => exact Program.silent_pure _
  | some group =>
      simp only
      split
      · exact Program.silent_bind (Program.silent_session _) fun _ => Program.silent_pure _
      · exact Program.silent_throw _

theorem silent_checkerFor (config : Configuration) (sourceEngine sinkEngine : String)
    (service : Option String) : (checkerFor config sourceEngine sinkEngine service).Silent := by
  unfold checkerFor
  refine Program.silent_bind (Program.silent_session _) fun checker => ?_
  cases service with
  | none => exact Program.silent_pure _
  | some service =>
      exact Program.silent_bind (silent_registryOf config service _) fun _ => Program.silent_pure _

theorem silent_tables (config : Configuration)
    (sourceEngine sinkEngine sourceTable sinkTable : String) (service : Option String) :
    (tables config sourceEngine sinkEngine sourceTable sinkTable service).Silent := by
  have hsnapshot : (requireSnapshot config).Silent := by
    intro c
    rw [runOn_requireSnapshot]
  unfold tables
  refine Program.silent_bind hsnapshot fun s => ?_
  refine Program.silent_bind (Program.silent_ofOutcome _) fun source => ?_
  refine Program.silent_bind (Program.silent_ofOutcome _) fun sink => ?_
  exact Program.silent_bind (silent_checkerFor config _ _ service) fun _ => Program.silent_pure _

namespace Request

variable {q : Request}

/-- The configuration of a request on some files. -/
def configurationIn (q : Request) (files : FileTree) : Outcome Configuration :=
  (q.attach []).configurationIn files

/-- The snapshot that the configuration names. -/
def snapshotIn (q : Request) (files : FileTree) : Outcome Snapshot := do
  (← q.configurationIn files).snapshotIn files

/-- The columns of the tables in a snapshot. -/
def columnsOf (q : Request) (s : Snapshot) : Outcome (ColumnSet × ColumnSet) := do
  let source ← s.columns q.sourceEngine q.sourceTable
  let sink ← s.columns q.sinkEngine q.sinkTable
  return (source, sink)

/-- The checker of the engines, with a new catalog. -/
def checkerIn (q : Request) (config : Configuration) (files : FileTree) (now : Timestamp) :
    Outcome Checker :=
  ((checkerFor config q.sourceEngine q.sinkEngine q.service).runOn
    { workspace := { files, now, catalog := { settings := config.artifacts } } }).1

theorem fst_runOn_tables (q : Request) (config : Configuration) (files : FileTree)
    (now : Timestamp) :
    ((tables config q.sourceEngine q.sinkEngine q.sourceTable q.sinkTable q.service).runOn
        { workspace := { files, now, catalog := { settings := config.artifacts } } }).1 = (do
      let s ← config.snapshotIn files
      let columns ← q.columnsOf s
      let checker ← q.checkerIn config files now
      return ⟨checker, q.sourceTable, columns.1, columns.2⟩) := by
  unfold tables columnsOf checkerIn
  rw [Program.fst_runOn_bind, runOn_requireSnapshot]
  refine congrArg (config.snapshotIn files >>= ·) (funext fun s => ?_)
  rw [Program.fst_runOn_bind, Program.runOn_ofOutcome, bind_assoc]
  refine congrArg (s.columns q.sourceEngine q.sourceTable >>= ·) (funext fun source => ?_)
  rw [Program.fst_runOn_bind, Program.runOn_ofOutcome, bind_assoc]
  refine congrArg (s.columns q.sinkEngine q.sinkTable >>= ·) (funext fun sink => ?_)
  rw [Program.fst_runOn_bind, pure_bind]
  rfl

theorem runOn_configuration (q : Request) (c : Console) :
    (configuration q.config).runOn c = (q.configurationIn c.files, c) :=
  (q.attach []).runOn_configuration c

/-- What a run finds: the configuration, the columns of the tables and the checker. -/
theorem found_eq (q : Request) (files : FileTree) (now : Timestamp) :
    q.found files now = (do
      let config ← q.configurationIn files
      let s ← config.snapshotIn files
      let columns ← q.columnsOf s
      let checker ← q.checkerIn config files now
      return (config, ⟨checker, q.sourceTable, columns.1, columns.2⟩)) := by
  unfold found basis
  rw [Program.fst_runOn_bind, runOn_configuration]
  refine congrArg (q.configurationIn files >>= ·) (funext fun config => ?_)
  -- The tables are looked up with a new catalog that has the settings of the configuration.
  have htables := q.fst_runOn_tables config files now
  have hcatalog : Program.runOn (modify fun c : Console =>
      { c with workspace := { c.workspace with catalog := { settings := config.artifacts } } })
      (.start files now) =
        (.ok ⟨⟩, { workspace := { files, now, catalog := { settings := config.artifacts } } }) :=
    rfl
  rw [Program.runOn_bind_of_ok hcatalog, Program.fst_runOn_bind, htables]
  simp only [bind_assoc, pure_bind]
  rfl

theorem silent_configuration (q : Request) : (configuration q.config).Silent := by
  intro c
  rw [q.runOn_configuration c]

theorem silent_basis (q : Request) : q.basis.Silent := by
  unfold basis
  refine Program.silent_bind (silent_configuration q) fun config => ?_
  refine Program.silent_bind (fun _ => rfl) fun _ => ?_
  exact Program.silent_bind (silent_tables config _ _ _ _ q.service) fun _ => Program.silent_pure _

/-! ## What is resolved and printed -/

/-- The invocation that resolves the tables, with the mappings kept or not. -/
def run (q : Request) (mappings : List ExplicitMapping) (modify apply : Bool) : Invocation where
  config := q.config
  outputJson := q.outputJson
  verbosity := q.verbosity
  command := .resolve q.sourceEngine q.sinkEngine q.sourceTable q.sinkTable mappings modify apply
    q.service

/-- The mappings that a modification goes on with. -/
def persisted (q : Request) (files : FileTree) (now : Timestamp) :
    Outcome (List ExplicitMapping) := do
  let found ← q.found files now
  persistedIn found.1 q.sinkTable found.2 files

/-- The resolution that a run comes to. -/
def resolved (q : Request) (mappings : List ExplicitMapping) (modify : Bool) (files : FileTree)
    (now : Timestamp) : Outcome (Resolution × List MappingWarning) := do
  let found ← q.found files now
  resolutionIn found.1 q.sinkTable mappings modify found.2 files

/-- What a run does with a resolution: it keeps the mappings if it is asked to, and reports. -/
def concluded (q : Request) (apply : Bool) (files : FileTree) (now : Timestamp)
    (config : Configuration) (pair : TablePair) (result : Resolution × List MappingWarning) :
    Outcome (List String) := do
  if apply then
    (((storeOf config).persist (keyOf q.sinkTable pair) result.1.applied).runOn { files, now }).1
  return reportLines q.outputJson apply config.mappingsDirectory pair.sourceTable q.sinkTable
    result.1 result.2

/-- What a run prints, or how it fails. -/
def answer (q : Request) (mappings : List ExplicitMapping) (modify apply : Bool)
    (files : FileTree) (now : Timestamp) : Outcome (List String) := do
  let found ← q.found files now
  let result ← resolutionIn found.1 q.sinkTable mappings modify found.2 files
  q.concluded apply files now found.1 found.2 result

theorem answer_of_resolutionIn {mappings : List ExplicitMapping} {modify apply : Bool}
    {result : Resolution × List MappingWarning} (hfound : q.found files now = .ok (config, pair))
    (hresult : resolutionIn config q.sinkTable mappings modify pair files = .ok result) :
    q.answer mappings modify apply files now =
      q.concluded apply files now config pair result := by
  unfold answer
  rw [hfound]
  show (resolutionIn config q.sinkTable mappings modify pair files >>= _) = _
  rw [hresult]
  rfl

/-- A run whose mappings cannot be kept reports nothing. -/
theorem concluded_of_error {result : Resolution × List MappingWarning} {fault : Fault}
    (h : (((storeOf config).persist (keyOf q.sinkTable pair) result.1.applied).runOn
      { files, now }).1 = .error fault) :
    q.concluded true files now config pair result = .error fault := by
  unfold concluded
  simp only [if_true, h]
  rfl

theorem program_run (q : Request) (mappings : List ExplicitMapping) (modify apply : Bool) :
    (q.run mappings modify apply).program =
      q.basis >>= fun found =>
        resolution found.1 q.sinkTable mappings modify found.2 >>= fun result =>
          if apply then conclude found.1 q.outputJson q.sinkTable found.2 result
          else report q.outputJson false found.1.mappingsDirectory found.2.sourceTable q.sinkTable
            result.1 result.2 := by
  unfold Invocation.program basis
  simp only [bind_assoc, pure_bind]
  simp only [run, CommandLine.run, resolve_eq]

theorem prints_concluded (q : Request) (apply : Bool) (config : Configuration) (pair : TablePair)
    (result : Resolution × List MappingWarning) (hfiles : c.files = files)
    (hnow : c.workspace.now = now) :
    Program.Prints
      (if apply then conclude config q.outputJson q.sinkTable pair result
        else report q.outputJson false config.mappingsDirectory pair.sourceTable q.sinkTable
          result.1 result.2) c
      (q.concluded apply files now config pair result) := by
  unfold concluded
  cases apply with
  | false => exact prints_report _ _ _ _ _ _ _ c
  | true =>
      refine Program.prints_bind (Program.silent_session _) ?_ fun _ c' _ =>
        prints_report _ _ _ _ _ _ _ c'
      rw [Program.runOn_session]
      exact fst_runOn_persist_congr _ _ _ hfiles hnow

theorem prints_run (q : Request) (mappings : List ExplicitMapping) (modify apply : Bool)
    (files : FileTree) (now : Timestamp) :
    (q.run mappings modify apply).program.Prints (.start files now)
      (q.answer mappings modify apply files now) := by
  rw [program_run]
  refine Program.prints_bind q.silent_basis rfl ?_
  rintro ⟨config, pair⟩ c hbasis
  -- Nothing has been printed or changed so far, so the tables are resolved on the same files.
  have hagrees := q.reads_basis.agrees hbasis
  have hfiles : c.files = files := hagrees.files_eq
  refine Program.prints_bind (silent_resolution config q.sinkTable mappings modify pair) ?_ ?_
  · rw [fst_runOn_resolution, hfiles]
  · intro result c' hresolution
    have hagrees' := hagrees.trans
      ((reads_resolution config q.sinkTable mappings modify pair).agrees hresolution)
    exact q.prints_concluded apply config pair result hagrees'.files_eq hagrees'.now_eq

/-- A run tells what it was asked for. -/
theorem tells_execute (q : Request) (mappings : List ExplicitMapping) (modify apply : Bool)
    (files : FileTree) (now : Timestamp) :
    ((q.run mappings modify apply).execute files now).Tells
      (q.answer mappings modify apply files now) :=
  Invocation.tells_execute_of_prints (q.prints_run mappings modify apply files now)

end Request

end SchemaCrosswalk.CommandLine
