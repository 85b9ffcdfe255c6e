import SchemaCrosswalk.Proofs.Catalog.Maps
import SchemaCrosswalk.Proofs.CommandLine.Programs
import SchemaCrosswalk.Proofs.Files.Replacement

/-!
# Effects — what an invocation leaves in the files

Whatever a command reads, checks and refuses, it does so before it changes a file, and it has at most
one file to change. So an invocation that fails leaves all files as they were, unless the failure is
one of the files themselves. One that succeeds leaves them but for one artifact, which is written to
a draft beside it first.

* `resolve_eq`: two tables are read and resolved, and then the mappings are kept or not
* `keyOf_tables`: the attachment whose mappings are kept
* `Command.Leaves`, `Program.endsIn_run`: what each command leaves if it succeeds
* `Invocation.execute_leaves`: what an invocation leaves, whether it succeeds or fails
-/

namespace SchemaCrosswalk

/-! ## Artifacts of an engine -/

theorem CompatibilityMap.sinkEngine_of_ofDocument {d : CompatibilityMap.Document}
    {source sink origin : String} {strips : Bool} {m : CompatibilityMap}
    (h : CompatibilityMap.ofDocument d source sink origin strips = .ok m) : m.sinkEngine = sink := by
  have hdeclared := mapError_eq_ok_iff.1 h
  unfold CompatibilityMap.ofDeclaration at hdeclared
  rcases bind_eq_ok_iff.1 hdeclared with ⟨_, -, h₁⟩
  rcases bind_eq_ok_iff.1 h₁ with ⟨_, -, h₂⟩
  rcases bind_eq_ok_iff.1 h₂ with ⟨_, -, h₃⟩
  rcases bind_eq_ok_iff.1 h₃ with ⟨_, -, h₄⟩
  cases h₄
  rfl

/-- The map that is loaded for a pair of engines is one for these engines. -/
theorem Catalog.sinkEngine_of_loadMap {settings : ArtifactSettings} {files : FileTree}
    {source sink : String} {m : CompatibilityMap}
    (h : loadMap settings files source sink = .ok m) : m.sinkEngine = sink := by
  have hloads := loadsMap_iff.2 h.symm
  generalize hm : (Except.ok m : Outcome CompatibilityMap) = o at hloads
  cases hloads with
  | file hpaths hbefore hfile =>
      rcases bind_eq_ok_iff.1 hm.symm with ⟨d, -, hdocument⟩
      exact CompatibilityMap.sinkEngine_of_ofDocument hdocument
  | bundled hpaths huse hnames hbefore hdocument =>
      exact CompatibilityMap.sinkEngine_of_ofDocument hm.symm
  | missing hpaths hbundled => cases hm

/-- The snapshot that a configuration names. -/
def Configuration.snapshotIn (config : Configuration) (files : FileTree) : Outcome Snapshot :=
  match config.snapshot with
  | some path => Snapshot.load files path
  | none => .error (Fault.ofCause .noSnapshot)

namespace CommandLine

variable {config : Configuration} {json modify apply : Bool} {c c' : Console}
variable {sourceEngine sinkEngine sourceTable sinkTable : String} {service : Option String}
variable {mappings : List ExplicitMapping} {after : FileTree → Prop}

/-! ## Steps of commands -/

/-- The files of a console. -/
def Console.files (c : Console) : FileTree := c.workspace.files

namespace Program

variable {α β : Type} {s : Program α} {k : α → Program β}

theorem Reads.endsIn (h : s.Reads) (hafter : after c.files) : EndsIn Console.files s c after :=
  endsIn_of_leaves (fun c => (h c).files_eq) hafter

theorem Reads.endsIn_bind (h : s.Reads)
    (hk : ∀ a c', s.runOn c = (.ok a, c') → EndsIn Console.files (k a) c' after) :
    EndsIn Console.files (s >>= k) c after :=
  SchemaCrosswalk.endsIn_bind (fun c => (h c).files_eq) hk

theorem Returns.reads {a : α} (h : s.Returns a) : s.Reads := by
  intro c
  rcases h c with ⟨c', hrun, hagrees⟩
  rw [hrun]
  exact hagrees

theorem endsIn_session {s : Session α} (h : EndsIn Workspace.files s c.workspace after) :
    EndsIn Console.files (session s) c after where
  of_ok := by
    intro a c' hrun
    rcases Prod.mk.inj ((runOn_session s c).symm.trans hrun) with ⟨hok, rfl⟩
    exact h.of_ok a _ (Prod.ext hok rfl)
  of_error := by
    intro fault c' hrun
    rcases Prod.mk.inj ((runOn_session s c).symm.trans hrun) with ⟨herror, rfl⟩
    exact h.of_error fault _ (Prod.ext herror rfl)

theorem reads_translation (source sink : String) :
    (session (Session.translation source sink)).Reads := by
  intro c
  rw [runOn_session]
  -- A look-up keeps what it has found in the catalog, and nothing else changes.
  rcases hfound : c.workspace.catalog.translation c.workspace.files source sink with
    fault | ⟨t, catalog⟩
  · have hrun : (Session.translation source sink).runOn c.workspace =
        (.error fault, c.workspace) := by
      simp only [Session.runOn, Session.translation, Session.fromCatalog, hfound]
    rw [hrun]
    exact .refl c
  · have hrun : (Session.translation source sink).runOn c.workspace =
        (.ok t, { c.workspace with catalog }) := by
      simp only [Session.runOn, Session.translation, Session.fromCatalog, hfound]
    rw [hrun]
    exact ⟨rfl, rfl⟩

end Program

/-! ## Resolutions -/

theorem reads_modification (store : AttachmentStore) (key : AttachmentKey) (pair : TablePair)
    (mappings : List ExplicitMapping) : (modification store key pair mappings).Reads := by
  unfold modification
  refine Program.reads_bind Program.reads_files fun files => ?_
  refine Program.reads_bind (Program.reads_ofOutcome _) fun found => ?_
  refine Program.reads_bind (Program.reads_ofOutcome _) fun result => ?_
  refine Program.reads_bind (Program.Returns.reads (a := ⟨⟩) ?_) fun _ => Program.reads_pure _
  refine Program.returns_forIn (fun w => ?_) _
  exact Program.returns_bind (Program.returns_warn _) (Program.returns_pure _)

theorem reads_resolution (config : Configuration) (sinkTable : String)
    (mappings : List ExplicitMapping) (modify : Bool) (pair : TablePair) :
    (resolution config sinkTable mappings modify pair).Reads := by
  unfold resolution
  cases modify with
  | true => exact reads_modification _ _ pair mappings
  | false => exact Program.reads_ofOutcome _

/-- Two tables are read and resolved, and then the mappings are kept or not. -/
theorem resolve_eq :
    resolve config json sourceEngine sinkEngine sourceTable sinkTable mappings modify apply
        service =
      tables config sourceEngine sinkEngine sourceTable sinkTable service >>= fun pair =>
        resolution config sinkTable mappings modify pair >>= fun result =>
          if apply then conclude config json sinkTable pair result
          else report json false config.mappingsDirectory pair.sourceTable sinkTable result.1
            result.2 := by
  cases apply with
  | true => exact resolve_eq_bind
  | false =>
      unfold resolve tables
      simp only [bind_assoc, pure_bind]
      cases modify <;> rfl

theorem runOn_requireSnapshot (config : Configuration) (c : Console) :
    (requireSnapshot config).runOn c = (config.snapshotIn c.files, c) := by
  unfold requireSnapshot Configuration.snapshotIn
  cases config.snapshot with
  | none => rfl
  | some path => rfl

/-- With a new catalog, the checker of two engines is one for the engines that are asked for. -/
theorem sinkEngine_of_checkerFor {settings : ArtifactSettings} {checker : Checker}
    (hcatalog : c.workspace.catalog = { settings })
    (h : (checkerFor config sourceEngine sinkEngine service).runOn c = (.ok checker, c')) :
    checker.sinkEngine = Engine.normalize sinkEngine := by
  unfold checkerFor at h
  rcases Program.runOn_bind_eq_ok_iff.1 h with ⟨plain, c₁, hplain, hrest⟩
  have hengine : plain.sinkEngine = Engine.normalize sinkEngine := by
    rcases Prod.mk.inj ((Program.runOn_session _ c).symm.trans hplain) with ⟨hok, -⟩
    rcases Session.mapFor_of_checker (Prod.ext hok rfl) with ⟨m, hm, rfl⟩
    have hload : Catalog.loadMap settings c.files (Engine.normalize sourceEngine)
        (Engine.normalize sinkEngine) = .ok m := by
      unfold Workspace.mapFor at hm
      rw [hcatalog] at hm
      exact (Catalog.answer_eq _ _ _ _).symm.trans hm
    exact Catalog.sinkEngine_of_loadMap hload
  cases service with
  | none =>
      cases hrest
      exact hengine
  | some service =>
      rcases Program.runOn_bind_eq_ok_iff.1 hrest with ⟨registry, c₂, -, hpure⟩
      cases hpure
      exact hengine

theorem keyOf_tables {settings : ArtifactSettings} {pair : TablePair}
    (hcatalog : c.workspace.catalog = { settings })
    (h : (tables config sourceEngine sinkEngine sourceTable sinkTable service).runOn c =
      (.ok pair, c')) :
    keyOf sinkTable pair = ⟨sourceTable, Engine.normalize sinkEngine, sinkTable⟩ := by
  unfold tables at h
  rcases Program.runOn_bind_eq_ok_iff.1 h with ⟨snapshot, c₁, hsnapshot, h₁⟩
  rcases Program.runOn_bind_eq_ok_iff.1 h₁ with ⟨source, c₂, hsource, h₂⟩
  rcases Program.runOn_bind_eq_ok_iff.1 h₂ with ⟨sink, c₃, hsink, h₃⟩
  rcases Program.runOn_bind_eq_ok_iff.1 h₃ with ⟨checker, c₄, hchecker, h₄⟩
  cases h₄
  -- What comes before the checker reads files and leaves the catalog alone.
  rcases Prod.mk.inj ((runOn_requireSnapshot config c).symm.trans hsnapshot) with ⟨-, rfl⟩
  rcases Prod.mk.inj hsource with ⟨-, rfl⟩
  rcases Prod.mk.inj hsink with ⟨-, rfl⟩
  simp [keyOf, sinkEngine_of_checkerFor hcatalog hchecker]

/-! ## Commands -/

theorem reads_print (line : String) : (Program.print line).Reads :=
  (Program.returns_print line).reads

theorem reads_warn (message : String) : (Program.session (Session.warn message)).Reads :=
  (Program.returns_warn message).reads

theorem reads_forIn {α : Type} {body : α → PUnit → Program (ForInStep PUnit)}
    (h : ∀ a, (body a ⟨⟩).Returns (.yield ⟨⟩)) (items : List α) :
    (forIn items PUnit.unit body : Program PUnit).Reads :=
  (Program.returns_forIn h items).reads

theorem reads_check (config : Configuration) (json : Bool)
    (sourceEngine sinkEngine sourceType sinkType : String) (service : Option String)
    (place : Option ColumnContext) :
    (check config json sourceEngine sinkEngine sourceType sinkType service place).Reads := by
  unfold check
  refine Program.reads_bind (reads_checkerFor config _ _ service) fun checker => ?_
  have hverdict : ∀ compatible : Bool, ∀ fault : Fault,
      (if !compatible then throw fault else pure () : Program Unit).Reads := by
    intro compatible fault
    cases compatible with
    | true => exact Program.reads_pure _
    | false => exact Program.reads_throw _
  cases json with
  | true => exact Program.reads_bind (reads_print _) fun _ => hverdict _ _
  | false => exact Program.reads_bind (reads_print _) fun _ => hverdict _ _

theorem reads_map (json : Bool) (sourceEngine sinkEngine : String) (types : List String) :
    (map json sourceEngine sinkEngine types).Reads := by
  unfold map
  refine Program.reads_bind (Program.reads_translation _ _) fun t => ?_
  refine Program.reads_bind (reads_forIn (fun notice => ?_) _) fun _ => ?_
  · exact Program.returns_bind (Program.returns_warn _) (Program.returns_pure _)
  · cases json with
    | true => exact reads_print _
    | false =>
        refine Program.reads_bind (reads_forIn (fun type => ?_) _) fun _ => Program.reads_pure _
        exact Program.returns_bind (Program.returns_print _) (Program.returns_pure _)

theorem reads_cloneTable (config : Configuration) (json : Bool)
    (sourceEngine sinkEngine table : String) :
    (cloneTable config json sourceEngine sinkEngine table).Reads := by
  unfold cloneTable
  refine Program.reads_bind (reads_requireSnapshot config) fun snapshot => ?_
  refine Program.reads_bind (Program.reads_ofOutcome _) fun columns => ?_
  refine Program.reads_bind (Program.reads_translation _ _) fun t => ?_
  refine Program.reads_bind (reads_forIn (fun notice => ?_) _) fun _ => ?_
  · exact Program.returns_bind (Program.returns_warn _) (Program.returns_pure _)
  · refine Program.reads_bind (Program.reads_ofOutcome _) fun cloned => ?_
    cases json with
    | true => exact reads_print _
    | false =>
        refine Program.reads_bind (reads_forIn (fun column => ?_) _) fun _ => Program.reads_pure _
        exact Program.returns_bind (Program.returns_print _) (Program.returns_pure _)

/-- Once the mappings are kept, all that is left is to tell of it. -/
theorem endsIn_conclude (config : Configuration) (json : Bool) (sinkTable : String)
    (pair : TablePair) (result : Resolution × List MappingWarning) (c : Console) :
    EndsIn Console.files (conclude config json sinkTable pair result) c fun t =>
      c.files.Replaces t config.mappingsDirectory
        (AttachmentStore.fileName (keyOf sinkTable pair)) := by
  have hkeep := (storeOf config).endsIn_persist (keyOf sinkTable pair) result.1.applied c.workspace
  have hsession := Program.endsIn_session hkeep
  refine hsession.bind (b := ⟨⟩) fun _ c₁ => ?_
  rcases returns_report json true config.mappingsDirectory pair.sourceTable sinkTable result.1
    result.2 c₁ with ⟨c₂, hreport, hagrees⟩
  exact ⟨c₂, hreport, hagrees.files_eq⟩

theorem endsIn_resolve {settings : ArtifactSettings}
    (hcatalog : c.workspace.catalog = { settings }) :
    EndsIn Console.files
      (resolve config json sourceEngine sinkEngine sourceTable sinkTable mappings modify apply
        service) c
      fun t =>
        if apply then
          c.files.Replaces t config.mappingsDirectory
            (AttachmentStore.fileName ⟨sourceTable, Engine.normalize sinkEngine, sinkTable⟩)
        else t = c.files := by
  rw [resolve_eq]
  refine (reads_tables config _ _ _ _ service).endsIn_bind fun pair c₁ htables => ?_
  refine (reads_resolution config sinkTable mappings modify pair).endsIn_bind
    fun result c₂ hresult => ?_
  have hfiles : c₂.files = c.files :=
    ((reads_resolution config sinkTable mappings modify pair).agrees hresult).files_eq.trans
      ((reads_tables config _ _ _ _ service).agrees htables).files_eq
  cases apply with
  | false =>
      have hreport := returns_report json false config.mappingsDirectory pair.sourceTable sinkTable
        result.1 result.2
      exact hreport.reads.endsIn (by simpa using hfiles)
  | true =>
      have hconclude := endsIn_conclude config json sinkTable pair result c₂
      simpa [keyOf_tables hcatalog htables, hfiles] using hconclude

theorem reads_optionalSnapshot (config : Configuration) : (optionalSnapshot config).Reads := by
  unfold optionalSnapshot
  cases config.snapshot with
  | some path =>
      refine Program.reads_bind Program.reads_files fun files => ?_
      exact Program.reads_bind (Program.reads_ofOutcome _) fun snapshot => Program.reads_pure _
  | none => exact Program.reads_pure _

theorem reads_requireGroup (config : Configuration) (service : String) :
    (requireGroup config service).Reads := by
  unfold requireGroup
  refine Program.reads_bind (Program.reads_ofOutcome _) fun found => ?_
  cases found with
  | some group => exact Program.reads_pure _
  | none => exact Program.reads_throw _

theorem resolveGroup_of_requireGroup {service : String} {group : SourceGroup}
    (h : (requireGroup config service).runOn c = (.ok group, c')) :
    config.resolveGroup service = .ok (some group) := by
  unfold requireGroup at h
  rcases Program.runOn_bind_eq_ok_iff.1 h with ⟨found, c₁, hfound, hrest⟩
  rcases Prod.mk.inj hfound with ⟨hgroup, -⟩
  cases found with
  | none => cases hrest
  | some found =>
      cases hrest
      exact hgroup

theorem group_of_load {m : OverrideManager} {group engine : String} {r : OverrideRegistry}
    {w w' : Workspace} (h : (m.load group engine).runOn w = (.ok r, w')) : r.group = group := by
  rcases OverrideManager.load_eq_ok_iff.1 h with ⟨-, found, -, rfl⟩
  cases found with
  | none => rfl
  | some d => rfl

theorem returns_printOverrides (json : Bool) (r : OverrideRegistry) :
    (printOverrides json r).Returns ⟨⟩ := by
  unfold printOverrides
  cases json with
  | true => exact Program.returns_print _
  | false =>
      cases r.entries.isEmpty with
      | true => exact Program.returns_print _
      | false =>
          refine Program.returns_bind (Program.returns_print _) ?_
          refine Program.returns_bind (Program.returns_forIn (fun e => ?_) _)
            (Program.returns_pure _)
          exact Program.returns_bind (Program.returns_print _) (Program.returns_pure _)

/-- Load the overrides of a group, change them and print them. -/
def changeOverrides (json : Bool) (group : SourceGroup) (m : OverrideManager)
    (change : OverrideRegistry → Session OverrideRegistry) : Program Unit := do
  let registry ← Program.session (m.load group.name group.engineName)
  let changed ← Program.session (change registry)
  printOverrides json changed

theorem endsIn_changeOverrides {m : OverrideManager}
    {change : OverrideRegistry → Session OverrideRegistry}
    {after : String → FileTree → FileTree → Prop}
    (hchange : ∀ r w, EndsIn Workspace.files (change r) w (after r.group w.files)) (json : Bool)
    (group : SourceGroup) (c : Console) :
    EndsIn Console.files (changeOverrides json group m change) c (after group.name c.files) := by
  have hload := Program.reads_session (m.keeps_load group.name group.engineName)
  refine hload.endsIn_bind fun registry c₁ hrun => ?_
  have hfiles : c₁.files = c.files := (hload.agrees hrun).files_eq
  have hgroup : registry.group = group.name := by
    rcases Prod.mk.inj ((Program.runOn_session _ c).symm.trans hrun) with ⟨hok, -⟩
    exact group_of_load (Prod.ext hok rfl)
  have hends := Program.endsIn_session (hchange registry c₁.workspace)
  rw [hgroup] at hends
  refine hfiles ▸ hends.bind (b := PUnit.unit) fun changed c₂ => ?_
  rcases returns_printOverrides json changed c₂ with ⟨c₃, hprint, hagrees⟩
  exact ⟨c₃, hprint, hagrees.files_eq⟩

/-- A change of overrides concerns the group of the service and is made last. -/
theorem endsIn_onOverrides {service : String} {unknownUsages : Program Unit}
    {manager : Option Snapshot → OverrideManager}
    {change : OverrideManager → OverrideRegistry → Session OverrideRegistry}
    (after : String → FileTree → FileTree → Prop) (hunknown : unknownUsages.Reads)
    (hchange : ∀ snapshot r w,
      EndsIn Workspace.files (change (manager snapshot) r) w (after r.group w.files)) :
    EndsIn Console.files (onOverrides config json service unknownUsages manager change) c
      fun t => ∃ group, config.resolveGroup service = .ok (some group) ∧
        after group.name c.files t := by
  unfold onOverrides
  refine (reads_optionalSnapshot config).endsIn_bind fun snapshot c₁ hsnapshot => ?_
  refine (reads_requireGroup config service).endsIn_bind fun group c₂ hgroup => ?_
  have hfiles : c₂.files = c.files :=
    ((reads_requireGroup config service).agrees hgroup).files_eq.trans
      ((reads_optionalSnapshot config).agrees hsnapshot).files_eq
  have hchanged : ∀ c' : Console, c'.files = c.files →
      EndsIn Console.files (changeOverrides json group (manager snapshot)
        (change (manager snapshot))) c'
        fun t => ∃ group, config.resolveGroup service = .ok (some group) ∧
          after group.name c.files t := by
    intro c' hsame
    refine (endsIn_changeOverrides (hchange snapshot) json group c').imp fun t ht => ?_
    exact ⟨group, resolveGroup_of_requireGroup hgroup, hsame ▸ ht⟩
  simp only
  split
  · refine hunknown.endsIn_bind fun _ c₃ hwarned => ?_
    exact hchanged c₃ ((hunknown.agrees hwarned).files_eq.trans hfiles)
  · exact hchanged c₂ hfiles

/-! ## What each command leaves -/

/-- A change of overrides replaces the document of a group, or nothing. -/
def mayReplaceOverrides (config : Configuration) (group : String) (t t' : FileTree) : Prop :=
  t' = t ∨ t.Replaces t' config.overridesDirectory (OverrideStore.documentName group)

/-- What a command leaves of the files if it succeeds: a resolution that is applied replaces the
document of the attachment, a change of overrides the document of the group of the service, or
nothing, and all other commands change nothing. -/
def Command.Leaves (config : Configuration) (t t' : FileTree) : Command → Prop
  | .resolve _ sinkEngine sourceTable sinkTable _ _ apply _ =>
      if apply then
        t.Replaces t' config.mappingsDirectory
          (AttachmentStore.fileName ⟨sourceTable, Engine.normalize sinkEngine, sinkTable⟩)
      else t' = t
  | .setOverride service _ _ _ | .removeOverride service _ _ =>
      ∃ group, config.resolveGroup service = .ok (some group) ∧
        mayReplaceOverrides config group.name t t'
  | .check .. | .map .. | .cloneTable .. | .listOverrides .. => t' = t

theorem Program.endsIn_run (config : Configuration) (json : Bool) (command : Command)
    {settings : ArtifactSettings} (hcatalog : c.workspace.catalog = { settings }) :
    EndsIn Console.files (run config json command) c
      fun t => command.Leaves config c.files t := by
  cases command with
  | check sourceEngine sinkEngine sourceType sinkType service place =>
      exact (reads_check config json _ _ _ _ service place).endsIn rfl
  | map sourceEngine sinkEngine types => exact (reads_map json _ _ types).endsIn rfl
  | cloneTable sourceEngine sinkEngine table =>
      exact (reads_cloneTable config json _ _ table).endsIn rfl
  | resolve sourceEngine sinkEngine sourceTable sinkTable mappings modify apply service =>
      exact endsIn_resolve hcatalog
  | setOverride service table column type =>
      simp only [run, Command.Leaves]
      refine endsIn_onOverrides (mayReplaceOverrides config) (reads_warn _) ?_
      intro snapshot r w
      exact OverrideManager.endsIn_answer
        { store := { directory := config.overridesDirectory }
          usages := (snapshot.map (·.usages)).getD [] } r (.set table column type) w
  | removeOverride service table column =>
      simp only [run, Command.Leaves]
      refine endsIn_onOverrides (mayReplaceOverrides config) (Program.reads_pure _) ?_
      intro snapshot r w
      exact OverrideManager.endsIn_answer
        { store := { directory := config.overridesDirectory }
          usages := (snapshot.map (·.usages)).getD []
          schema := snapshot } r (.remove table column) w
  | listOverrides service =>
      have hlist : ∀ (snapshot : Option Snapshot) (r : OverrideRegistry) (w : Workspace),
          EndsIn Workspace.files (pure r : Session OverrideRegistry) w fun t => t = w.files :=
        fun snapshot r w => endsIn_of_leaves (fun _ => rfl) rfl
      simp only [run, Command.Leaves]
      refine (endsIn_onOverrides (fun _ t t' => t' = t) (Program.reads_pure _) hlist).imp ?_
      rintro t ⟨group, -, hsame⟩
      exact hsame

/-! ## Invocations -/

variable {files : FileTree} {now : Timestamp}

/-- The configuration of an invocation on some files. -/
def Invocation.configurationIn (i : Invocation) (files : FileTree) : Outcome Configuration :=
  match i.config with
  | some path => Configuration.load files path
  | none =>
      if files.contains defaultConfig then Configuration.load files defaultConfig else .ok {}

theorem Invocation.runOn_configuration (i : Invocation) (c : Console) :
    (configuration i.config).runOn c = (i.configurationIn c.files, c) := by
  unfold configuration Invocation.configurationIn
  have hfiles : Program.files.runOn c = (.ok c.files, c) := rfl
  rw [Program.runOn_bind_of_ok hfiles]
  cases i.config with
  | some path => rfl
  | none =>
      simp only
      split
      · rfl
      · rfl

theorem Invocation.endsIn_program (i : Invocation) (files : FileTree) (now : Timestamp) :
    EndsIn Console.files i.program (.start files now)
      fun t => ∃ config, i.configurationIn files = .ok config ∧
        i.command.Leaves config files t := by
  unfold Invocation.program
  refine (reads_configuration i.config).endsIn_bind fun config c hconfig => ?_
  rcases Prod.mk.inj ((i.runOn_configuration _).symm.trans hconfig) with ⟨hfound, rfl⟩
  have hcatalog : Program.Reads (modify fun c =>
      { c with workspace := { c.workspace with catalog := { settings := config.artifacts } } }) :=
    fun _ => ⟨rfl, rfl⟩
  refine hcatalog.endsIn_bind fun _ c hnew => ?_
  cases hnew
  exact (Program.endsIn_run config i.outputJson i.command rfl).imp fun t ht => ⟨config, hfound, ht⟩

theorem Invocation.failure_execute (i : Invocation) (files : FileTree) (now : Timestamp) :
    (i.execute files now).failure =
      match (i.program.runOn (.start files now)).1 with
      | .ok () => none
      | .error fault => some fault :=
  rfl

theorem Invocation.exitCode_execute (i : Invocation) (files : FileTree) (now : Timestamp) :
    (i.execute files now).exitCode = ((i.execute files now).failure.map Fault.exitCode).getD 0 :=
  rfl

/-- An invocation that fails leaves the files as they were, unless it is the files that failed. One
that succeeds leaves them as its command does, with the configuration that it has found: at most one
artifact is replaced, by way of a draft that does not stay. -/
theorem Invocation.execute_leaves (i : Invocation) (files : FileTree) (now : Timestamp) :
    let e := i.execute files now
    (e.exitCode ≠ 0 → (∀ problem, e.failure ≠ some (.file problem)) → e.files = files) ∧
      (e.exitCode = 0 → ∃ config, i.configurationIn files = .ok config ∧
        i.command.Leaves config files e.files) := by
  intro e
  have hends := i.endsIn_program files now
  rcases hrun : i.program.runOn (.start files now) with ⟨fault | ⟨⟩, c⟩
  · have hfailure : e.failure = some fault := by
      rw [Invocation.failure_execute, hrun]
    have hfiles : e.files = c.files := by
      rw [Invocation.files_execute, hrun]
      rfl
    constructor
    · intro _ hnot
      rcases hends.of_error fault c hrun with hsame | ⟨problem, rfl⟩
      · exact hfiles.trans hsame
      · exact absurd hfailure (hnot problem)
    · intro hzero
      have hok := Invocation.exitCode_execute_eq_zero_iff.1 hzero
      rw [hrun] at hok
      cases hok
  · have hzero : e.exitCode = 0 := by
      apply Invocation.exitCode_execute_eq_zero_iff.2
      rw [hrun]
    have hfiles : e.files = c.files := by
      rw [Invocation.files_execute, hrun]
      rfl
    refine ⟨fun hne => absurd hzero hne, fun _ => ?_⟩
    rw [hfiles]
    exact hends.of_ok ⟨⟩ c hrun

/-- A configuration with one service and one group. -/
def billingFiles : FileTree :=
  FileTree.plant {} "cdc-typemap.yaml" (some ("overrides_dir: overrides\nsource_groups:\n" ++
    "- name: erp\n  engine: mssql\n  services: [billing]\n"))

/-- The amounts of orders are set to be integers. -/
def setAmount : Invocation where
  config := none
  outputJson := false
  verbosity := "info"
  command := .setOverride "billing" "dbo.Orders" "Amount" "int"

/-- The amounts of orders are no longer to be overridden. -/
def removeAmount : Invocation :=
  { setAmount with command := .removeOverride "billing" "dbo.Orders" "Amount" }

theorem execute_leaves_billing :
    ((setAmount.execute billingFiles ⟨20000, 0, 0⟩).exitCode = 0 ∧
        ∃ config, setAmount.configurationIn billingFiles = .ok config ∧
          setAmount.command.Leaves config billingFiles
            (setAmount.execute billingFiles ⟨20000, 0, 0⟩).files) ∧
      (removeAmount.execute billingFiles ⟨20000, 0, 0⟩).exitCode = 3 ∧
        (removeAmount.execute billingFiles ⟨20000, 0, 0⟩).files = billingFiles := by
  have hset : (setAmount.execute billingFiles ⟨20000, 0, 0⟩).exitCode = 0 := by decide +kernel
  have hremove : (removeAmount.execute billingFiles ⟨20000, 0, 0⟩).exitCode = 3 := by
    decide +kernel
  have hfailed : (removeAmount.execute billingFiles ⟨20000, 0, 0⟩).exitCode ≠ 0 := by simp [hremove]
  have hother : ∀ problem,
      (removeAmount.execute billingFiles ⟨20000, 0, 0⟩).failure ≠ some (.file problem) := by
    intro problem hproblem
    have hcode := removeAmount.exitCode_execute billingFiles ⟨20000, 0, 0⟩
    simp [hproblem, hremove, Fault.exitCode] at hcode
  exact ⟨⟨hset, (setAmount.execute_leaves billingFiles ⟨20000, 0, 0⟩).2 hset⟩, hremove,
    (removeAmount.execute_leaves billingFiles ⟨20000, 0, 0⟩).1 hfailed hother⟩

/-- A file that lies where the draft of an artifact is written is gone once the artifact is. -/
theorem execute_drops_stale_draft :
    let files := billingFiles.plant "overrides/erp.yaml.tmp" (some "left over\n")
    let e := setAmount.execute files ⟨20000, 0, 0⟩
    e.exitCode = 0 ∧
      FileTree.address "overrides" (OverrideStore.documentName "erp") = "overrides/erp.yaml" ∧
        ("overrides/erp.yaml.tmp", "left over\n") ∈ files.files ∧
          ("overrides/erp.yaml.tmp", "left over\n") ∉ e.files.files := by
  decide +kernel

end CommandLine

end SchemaCrosswalk
