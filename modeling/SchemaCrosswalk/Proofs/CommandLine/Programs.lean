import SchemaCrosswalk.CommandLine
import SchemaCrosswalk.Proofs.Lookups

/-!
# Programs — what the steps of a command do to the files

Most steps of a command look something up or tell something. They leave the files as they are, so
what a command does to them is done by the one step that is left.

* `Program.Reads`: a program that leaves the files, whether it fails or not
* `Program.Returns`: a program that leaves the files and always has the same result
* `resolve_eq_bind`: two tables are read and resolved, and then the mappings are kept
* `reads_configuration`, `reads_tables`: what a resolution reads before
* `Invocation.exitCode_execute_eq_zero_iff`: an invocation succeeds if its program does
-/

namespace SchemaCrosswalk

/-! ## Failures and lookups of overrides -/

theorem Fault.exitCode_ne_zero (fault : Fault) : fault.exitCode ≠ 0 := by
  cases fault <;> simp [exitCode]

theorem Session.keeps_ofOutcome {α : Type} (o : Outcome α) : (Session.ofOutcome o).Keeps :=
  Workspace.Agrees.refl

theorem OverrideManager.keeps_load (m : OverrideManager) (group engine : String) :
    (m.load group engine).Keeps := by
  unfold load
  refine Session.keeps_bind Workspace.Agrees.refl fun w => ?_
  refine Session.keeps_bind (Session.keeps_ofOutcome _) fun found => ?_
  cases found with
  | none => exact Session.keeps_pure _
  | some d => exact Session.keeps_pure _

namespace CommandLine

/-! ## Runs of programs -/

/-- The files and the time are the same. -/
structure Console.Agrees (c c' : Console) : Prop where
  files_eq : c'.workspace.files = c.workspace.files
  now_eq : c'.workspace.now = c.workspace.now

theorem Console.Agrees.refl (c : Console) : c.Agrees c := ⟨rfl, rfl⟩

theorem Console.Agrees.trans {c c' c'' : Console} (h : c.Agrees c') (h' : c'.Agrees c'') :
    c.Agrees c'' where
  files_eq := h'.files_eq.trans h.files_eq
  now_eq := h'.now_eq.trans h.now_eq

namespace Program

variable {α β : Type} {s : Program α} {k : α → Program β} {c c' : Console}

/-- The outcome of a program and the console after it. -/
def runOn (s : Program α) (c : Console) : Outcome α × Console := runFrom s c

theorem runOn_bind_of_ok {a : α} (h : s.runOn c = (.ok a, c')) :
    (s >>= k).runOn c = (k a).runOn c' :=
  runFrom_bind_of_ok h

theorem runOn_bind_of_error {fault : Fault} (h : s.runOn c = (.error fault, c')) :
    (s >>= k).runOn c = (.error fault, c') :=
  runFrom_bind_of_error h

/-- A program succeeds with another one after it if both do. -/
theorem runOn_bind_eq_ok_iff {b : β} {c'' : Console} :
    (s >>= k).runOn c = (.ok b, c'') ↔
      ∃ a c', s.runOn c = (.ok a, c') ∧ (k a).runOn c' = (.ok b, c'') :=
  runFrom_bind_eq_ok_iff

theorem runOn_session (s : Session α) (c : Console) :
    (session s).runOn c =
      ((s.runOn c.workspace).1, { c with workspace := (s.runOn c.workspace).2 }) :=
  rfl

theorem runOn_ofOutcome (o : Outcome α) (c : Console) : (ofOutcome o).runOn c = (o, c) := rfl

/-! ## Programs that leave the files -/

/-- A program that leaves the files, whether it fails or not. -/
def Reads (s : Program α) : Prop := ∀ c : Console, c.Agrees (s.runOn c).2

theorem Reads.agrees {o : Outcome α} (h : s.Reads) (hrun : s.runOn c = (o, c')) : c.Agrees c' := by
  have hagrees := h c
  rw [hrun] at hagrees
  exact hagrees

theorem reads_pure (a : α) : (pure a : Program α).Reads := Console.Agrees.refl

theorem reads_throw (fault : Fault) : (throw fault : Program α).Reads := Console.Agrees.refl

theorem reads_files : Program.files.Reads := Console.Agrees.refl

theorem reads_ofOutcome (o : Outcome α) : (ofOutcome o).Reads := Console.Agrees.refl

theorem reads_session {s : Session α} (h : s.Keeps) : (session s).Reads := by
  intro c
  rw [runOn_session]
  exact ⟨(h c.workspace).files_eq, (h c.workspace).now_eq⟩

theorem reads_bind (hs : s.Reads) (hk : ∀ a, (k a).Reads) : (s >>= k).Reads := by
  intro c
  rcases h : s.runOn c with ⟨fault | a, c'⟩
  · rw [runOn_bind_of_error h]
    exact hs.agrees h
  · rw [runOn_bind_of_ok h]
    exact (hs.agrees h).trans (hk a c')

/-- A program that leaves the files and always has the same result. -/
def Returns (s : Program α) (a : α) : Prop :=
  ∀ c : Console, ∃ c', s.runOn c = (.ok a, c') ∧ c.Agrees c'

theorem returns_pure (a : α) : (pure a : Program α).Returns a := fun c => ⟨c, rfl, .refl c⟩

theorem returns_bind {a : α} {b : β} (hs : s.Returns a) (hk : (k a).Returns b) :
    (s >>= k).Returns b := by
  intro c
  rcases hs c with ⟨c₁, hfirst, hagrees⟩
  rcases hk c₁ with ⟨c₂, hrest, hagrees'⟩
  exact ⟨c₂, (runOn_bind_of_ok hfirst).trans hrest, hagrees.trans hagrees'⟩

theorem returns_print (line : String) : (print line).Returns ⟨⟩ := fun _ => ⟨_, rfl, rfl, rfl⟩

theorem returns_warn (message : String) : (session (Session.warn message)).Returns ⟨⟩ :=
  fun _ => ⟨_, rfl, rfl, rfl⟩

theorem returns_forIn {body : α → PUnit → Program (ForInStep PUnit)}
    (h : ∀ a, (body a ⟨⟩).Returns (.yield ⟨⟩)) (items : List α) :
    (forIn items PUnit.unit body : Program PUnit).Returns ⟨⟩ := by
  induction items with
  | nil => exact returns_pure _
  | cons a items ih =>
      rw [List.forIn_cons]
      exact returns_bind (h a) ih

end Program

/-! ## What a resolution reads -/

/-- The tables that are to be resolved, with the checker of their engines. -/
def tables (config : Configuration) (sourceEngine sinkEngine sourceTable sinkTable : String)
    (service : Option String) : Program TablePair := do
  let snapshot ← requireSnapshot config
  let source ← Program.ofOutcome (snapshot.columns sourceEngine sourceTable)
  let sink ← Program.ofOutcome (snapshot.columns sinkEngine sinkTable)
  let checker ← checkerFor config sourceEngine sinkEngine service
  return { checker, sourceTable, source, sink }

/-- Tell of a resolution, and of its mappings if they were kept. -/
def report (json apply : Bool) (directory sourceTable sinkTable : String) (r : Resolution)
    (warnings : List MappingWarning) : Program Unit := do
  if json then
    Program.print (Json.object [
      ("resolution", resolutionJson r),
      ("warnings", .array (warnings.map warningJson))]).render
  else
    for line in resolutionLines sourceTable sinkTable r warnings do
      Program.print line
    if apply then Program.print s!"  Applied mappings persisted to {directory}"

/-- Where the mappings of attachments are kept. -/
def storeOf (config : Configuration) : AttachmentStore := { directory := config.mappingsDirectory }

/-- The attachment of two tables. -/
def keyOf (sinkTable : String) (pair : TablePair) : AttachmentKey :=
  ⟨pair.sourceTable, pair.checker.sinkEngine, sinkTable⟩

/-- The resolution of two tables that is asked for. -/
def resolution (config : Configuration) (sinkTable : String) (mappings : List ExplicitMapping)
    (modify : Bool) (pair : TablePair) : Program (Resolution × List MappingWarning) :=
  if modify then modification (storeOf config) (keyOf sinkTable pair) pair mappings
  else Program.ofOutcome (Resolution.resolveForAttach pair mappings)

/-- Keep the mappings of a resolution and tell of it. -/
def conclude (config : Configuration) (json : Bool) (sinkTable : String) (pair : TablePair)
    (result : Resolution × List MappingWarning) : Program Unit := do
  Program.session ((storeOf config).persist (keyOf sinkTable pair) result.1.applied)
  report json true config.mappingsDirectory pair.sourceTable sinkTable result.1 result.2

variable {config : Configuration} {json modify : Bool}
variable {sourceEngine sinkEngine sourceTable sinkTable : String} {service : Option String}
variable {mappings : List ExplicitMapping}

/-- Two tables are read and resolved, and then the mappings are kept. -/
theorem resolve_eq_bind :
    resolve config json sourceEngine sinkEngine sourceTable sinkTable mappings modify true
        service =
      tables config sourceEngine sinkEngine sourceTable sinkTable service >>= fun pair =>
        resolution config sinkTable mappings modify pair >>=
          conclude config json sinkTable pair := by
  unfold resolve tables
  simp only [bind_assoc, pure_bind]
  cases modify <;> rfl

theorem reads_configuration (path : Option String) : (configuration path).Reads := by
  unfold configuration
  refine Program.reads_bind Program.reads_files fun files => ?_
  cases path with
  | some path => exact Program.reads_ofOutcome _
  | none =>
      simp only
      split
      · exact Program.reads_ofOutcome _
      · exact Program.reads_pure _

theorem reads_requireSnapshot (config : Configuration) : (requireSnapshot config).Reads := by
  unfold requireSnapshot
  cases config.snapshot with
  | some path => exact Program.reads_bind Program.reads_files fun files => Program.reads_ofOutcome _
  | none => exact Program.reads_throw _

theorem reads_registryOf (config : Configuration) (service engine : String) :
    (registryOf config service engine).Reads := by
  unfold registryOf
  refine Program.reads_bind (Program.reads_ofOutcome _) fun found => ?_
  cases found with
  | none => exact Program.reads_pure _
  | some group =>
      simp only
      split
      · refine Program.reads_bind (Program.reads_session ?_) fun registry => Program.reads_pure _
        exact OverrideManager.keeps_load _ group.name engine
      · exact Program.reads_throw _

theorem reads_checkerFor (config : Configuration) (sourceEngine sinkEngine : String)
    (service : Option String) : (checkerFor config sourceEngine sinkEngine service).Reads := by
  unfold checkerFor
  refine Program.reads_bind (Program.reads_session (Session.keeps_checker _ _)) fun checker => ?_
  cases service with
  | none => exact Program.reads_pure _
  | some service =>
      exact Program.reads_bind (reads_registryOf config service _) fun r => Program.reads_pure _

theorem reads_tables (config : Configuration)
    (sourceEngine sinkEngine sourceTable sinkTable : String) (service : Option String) :
    (tables config sourceEngine sinkEngine sourceTable sinkTable service).Reads := by
  unfold tables
  refine Program.reads_bind (reads_requireSnapshot config) fun snapshot => ?_
  refine Program.reads_bind (Program.reads_ofOutcome _) fun source => ?_
  refine Program.reads_bind (Program.reads_ofOutcome _) fun sink => ?_
  exact Program.reads_bind (reads_checkerFor config sourceEngine sinkEngine service)
    fun checker => Program.reads_pure _

theorem returns_report (json apply : Bool) (directory sourceTable sinkTable : String)
    (r : Resolution) (warnings : List MappingWarning) :
    (report json apply directory sourceTable sinkTable r warnings).Returns ⟨⟩ := by
  unfold report
  cases json with
  | true => exact Program.returns_print _
  | false =>
      refine Program.returns_bind (Program.returns_forIn (fun line => ?_) _) ?_
      · exact Program.returns_bind (Program.returns_print line) (Program.returns_pure _)
      · cases apply with
        | true => exact Program.returns_print _
        | false => exact Program.returns_pure _

/-! ## Executions -/

variable {files : FileTree} {now : Timestamp}

/-- The console at the start of an execution. -/
def Console.start (files : FileTree) (now : Timestamp) : Console := { workspace := { files, now } }

theorem Invocation.files_execute (i : Invocation) (files : FileTree) (now : Timestamp) :
    (i.execute files now).files = (i.program.runOn (.start files now)).2.workspace.files :=
  rfl

/-- An invocation succeeds if its program does. -/
theorem Invocation.exitCode_execute_eq_zero_iff {i : Invocation} :
    (i.execute files now).exitCode = 0 ↔ (i.program.runOn (.start files now)).1 = .ok () := by
  have hexitCode : (i.execute files now).exitCode =
      ((match (i.program.runOn (.start files now)).1 with
        | .ok () => none
        | .error fault => some fault : Option Fault).map Fault.exitCode).getD 0 := rfl
  rw [hexitCode]
  rcases (i.program.runOn (.start files now)).1 with fault | ⟨⟩
  · simp [Fault.exitCode_ne_zero]
  · simp

end CommandLine

end SchemaCrosswalk
