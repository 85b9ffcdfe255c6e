import SchemaCrosswalk.Attachment
import SchemaCrosswalk.CommandLine.Arguments
import SchemaCrosswalk.Configuration
import SchemaCrosswalk.Json
import SchemaCrosswalk.Overrides.Manager
import SchemaCrosswalk.Resolution

/-!
# Command line — the program as a function of its arguments and files

An invocation reads the configuration, carries out its command and prints the result, as lines or
as JSON.

- `execute`: what arguments do to the files, and what is printed
- `Program`: the steps of a command, which print and may fail
-/

namespace SchemaCrosswalk.CommandLine

/-- The workspace and the texts printed so far, the latest last. -/
structure Console where
  workspace : Workspace
  output : List String := []

/-- A command: it works on a workspace, prints, and may fail. -/
abbrev Program := ExceptT Fault (StateM Console)

namespace Program

variable {α : Type}

/-- Print a line. -/
def print (line : String) : Program Unit :=
  modify fun c => { c with output := c.output ++ [line ++ "\n"] }

/-- An operation on the workspace. -/
def session (s : Session α) : Program α := fun c =>
  let (outcome, workspace) := s.runOn c.workspace
  (outcome, { c with workspace })

/-- A computation that may fail. -/
def ofOutcome (o : Outcome α) : Program α := session (.ofOutcome o)

/-- The files as they are now. -/
def files : Program FileTree := do return (← get).workspace.files

end Program

/-! ## Configuration and groups -/

/-- The configuration file that is used if none is named. -/
def defaultConfig : String := "cdc-typemap.yaml"

/-- The configuration of an invocation. -/
def configuration (path : Option String) : Program Configuration := do
  let files ← Program.files
  match path with
  | some path => Program.ofOutcome (Configuration.load files path)
  | none =>
      if files.contains defaultConfig then
        Program.ofOutcome (Configuration.load files defaultConfig)
      else return {}

/-- The snapshot of a configuration, which has to name one. -/
def requireSnapshot (config : Configuration) : Program Snapshot := do
  match config.snapshot with
  | some path => Program.ofOutcome (Snapshot.load (← Program.files) path)
  | none => throw (Fault.ofCause .noSnapshot)

/-- The group of a service, which has to belong to one. -/
def requireGroup (config : Configuration) (service : String) : Program SourceGroup := do
  match ← Program.ofOutcome (config.resolveGroup service) with
  | some group => return group
  | none => throw (Fault.ofCause (.serviceWithoutGroup service))

/-- The overrides for a service that reads from an engine; none if it belongs to no group. -/
def registryOf (config : Configuration) (service engine : String) :
    Program (Option OverrideRegistry) := do
  match ← Program.ofOutcome (config.resolveGroup service) with
  | none => return none
  | some group =>
      if group.engineName = engine then
        let manager : OverrideManager := { store := { directory := config.overridesDirectory } }
        return some (← Program.session (manager.load group.name engine))
      else throw (Fault.ofCause (.groupEngineMismatch group.name group.engineName engine))

/-- The checker of two engines with the overrides for a service. -/
def checkerFor (config : Configuration) (sourceEngine sinkEngine : String)
    (service : Option String) : Program Checker := do
  let checker ← Program.session (Session.checker sourceEngine sinkEngine)
  match service with
  | none => return checker
  | some service =>
      return { checker with overrides := ← registryOf config service checker.sourceEngine }

/-! ## Results as JSON -/

/-- A text or nothing. -/
def optionalText (s : Option String) : Json := (s.map Json.text).getD .null

/-- A column, with all that is known of it. -/
def columnJson (c : Column) : Json :=
  .object [("name", .text c.name), ("type", .text c.type), ("nullable", .bool c.nullable),
    ("primary_key", .bool c.primaryKey), ("has_default", .bool c.hasDefault)]

/-- Guidance, with its kind. -/
def guidanceJson : Guidance → Json
  | .incompatibleIdentity column sinkType sourceType candidates =>
      .object [("kind", .text "incompatible_identity"), ("sink_column", .text column),
        ("sink_type", .text sinkType), ("source_type", .text sourceType),
        ("candidates", .texts candidates)]
  | .noIdentityCandidate column sinkType available =>
      .object [("kind", .text "no_identity_candidate"), ("sink_column", .text column),
        ("sink_type", .text sinkType), ("available_sources", .texts available)]

/-- A sink column with its namesake. -/
def identityJson (i : IncompatibleIdentity) : Json :=
  .object [("sink_column", .text i.sinkColumn), ("source_type", .text i.sourceType),
    ("sink_type", .text i.sinkType)]

/-- A resolution: what is populated, what is not, and what can be done. -/
def resolutionJson (r : Resolution) : Json :=
  .object [
    ("applied_mappings", .object (r.applied.entries.map fun p => (p.1, .text p.2))),
    ("identity_covered_sink_cols", .texts r.identityCovered.toList),
    ("incompatible_identity_cols", .array (r.incompatible.map identityJson)),
    ("unmapped_required_sink_cols", .texts r.unmapped),
    ("valid", .bool r.valid),
    ("guidance", .array (r.guidance.map guidanceJson))]

/-- A warning. -/
def warningJson (w : MappingWarning) : Json :=
  .object [("sink_column", .text w.sinkColumn), ("message", .text w.message)]

/-- An override. -/
def overrideJson (e : OverrideEntry) : Json :=
  .object [("table", .text e.table), ("column", .text e.column), ("override_type", .text e.type)]

/-- A source type with its sink type. -/
def mappingJson (type : String) (m : Translation.TypeMapping) : Json :=
  .object [("source_type", .text type), ("target_type", .text m.target),
    ("is_lossy", .bool m.isLossy), ("warning", optionalText m.warning)]

/-! ## Commands -/

/-- Print the verdict on two types; a cast that is not allowed is a failure. -/
def check (config : Configuration) (json : Bool)
    (sourceEngine sinkEngine sourceType sinkType : String) (service : Option String)
    (place : Option ColumnContext) : Program Unit := do
  let checker ← checkerFor config sourceEngine sinkEngine service
  let verdict := checker.check sourceType sinkType place
  let effective := checker.effectiveType sourceType place
  if json then
    Program.print (Json.object [
      ("source_engine", .text checker.sourceEngine), ("sink_engine", .text checker.sinkEngine),
      ("source_type", .text sourceType), ("effective_source_type", .text effective),
      ("sink_type", .text sinkType), ("verdict", .text verdict.describe),
      ("compatible", .bool verdict.isCompatible)]).render
  else
    let via := if effective = sourceType then "" else s!" (overridden to {effective})"
    Program.print (s!"{checker.sourceEngine} {sourceType}{via} → " ++
      s!"{checker.sinkEngine} {sinkType}: {verdict.describe}")
  if !verdict.isCompatible then
    throw (.incompatible (.refusedCast checker.sourceEngine effective checker.sinkEngine sinkType
      (checker.sinkCandidates sourceType place)))

/-- Print the sink types for source types. -/
def map (json : Bool) (sourceEngine sinkEngine : String) (types : List String) :
    Program Unit := do
  let t ← Program.session (Session.translation sourceEngine sinkEngine)
  for notice in t.notices types do
    Program.session (Session.warn notice)
  if json then
    Program.print (Json.array (types.map fun type => mappingJson type (t.mapType type))).render
  else
    for type in types do
      let m := t.mapType type
      let note := if m.isLossy then "  (fallback)" else ""
      Program.print s!"{type} → {m.target}{note}"

/-- What is noted of a column beside its type. -/
def columnNote (c : Column) : String :=
  if c.primaryKey then " (primary key)" else if !c.nullable then " (not null)" else ""

/-- Print the columns of a cloned table. -/
def cloneTable (config : Configuration) (json : Bool) (sourceEngine sinkEngine table : String) :
    Program Unit := do
  let snapshot ← requireSnapshot config
  let columns ← Program.ofOutcome (snapshot.columns sourceEngine table)
  let t ← Program.session (Session.translation sourceEngine sinkEngine)
  for notice in t.notices ((columns.columns.filter Translation.isUsable).map (·.type)) do
    Program.session (Session.warn notice)
  let cloned ← Program.ofOutcome (t.cloneTable columns.columns)
  if json then Program.print (Json.array (cloned.columns.map columnJson)).render
  else
    for c in cloned.columns do
      Program.print s!"  {c.name} {c.type}{columnNote c}"

/-- The lines that tell of a resolution. -/
def resolutionLines (sourceTable sinkTable : String) (r : Resolution)
    (warnings : List MappingWarning) : List String :=
  [s!"{sourceTable} → {sinkTable}"] ++
    (r.applied.entries.map fun p => s!"  {p.2} → {p.1} (explicit)") ++
    (r.identityCovered.toList.map fun name => s!"  {name} (identity)") ++
    (r.incompatible.map fun i =>
      s!"  {i.sinkColumn} not mapped: {i.sourceType} cannot populate {i.sinkType}") ++
    (warnings.map fun w => s!"  warning: {w.message}") ++
    [s!"  Valid: {r.valid}"]

/-- The resolution that a modification asks for: persisted mappings with new ones over them. -/
def modification (store : AttachmentStore) (key : AttachmentKey) (pair : TablePair)
    (mappings : List ExplicitMapping) : Program (Resolution × List MappingWarning) := do
  let existing ← Program.ofOutcome (store.load? (← Program.files) key)
  let persisted := (existing.map (·.explicitMappings)).getD []
  let (r, warnings) ←
    Program.ofOutcome (Resolution.resolveForModify pair (mergeMappings persisted mappings))
  for w in warnings do
    Program.session (Session.warn s!"{pair.sourceTable}: {w.message}")
  return (r, warnings)

/-- Print the resolution of two tables and, if asked for, keep its explicit mappings. -/
def resolve (config : Configuration) (json : Bool)
    (sourceEngine sinkEngine sourceTable sinkTable : String) (mappings : List ExplicitMapping)
    (modify apply : Bool) (service : Option String) : Program Unit := do
  let snapshot ← requireSnapshot config
  let source ← Program.ofOutcome (snapshot.columns sourceEngine sourceTable)
  let sink ← Program.ofOutcome (snapshot.columns sinkEngine sinkTable)
  let checker ← checkerFor config sourceEngine sinkEngine service
  let store : AttachmentStore := { directory := config.mappingsDirectory }
  let key : AttachmentKey := { sourceTable, sinkEngine := checker.sinkEngine, sinkTable }
  let pair : TablePair := { checker, sourceTable, source, sink }
  let (r, warnings) ←
    if modify then modification store key pair mappings
    else Program.ofOutcome (Resolution.resolveForAttach pair mappings)
  if apply then Program.session (store.persist key r.applied)
  if json then
    Program.print (Json.object [
      ("resolution", resolutionJson r),
      ("warnings", .array (warnings.map warningJson))]).render
  else
    for line in resolutionLines sourceTable sinkTable r warnings do
      Program.print line
    if apply then Program.print s!"  Applied mappings persisted to {store.directory}"

/-- Print the overrides of a group. -/
def printOverrides (json : Bool) (r : OverrideRegistry) : Program Unit := do
  if json then Program.print (Json.array (r.entries.map overrideJson)).render
  else if r.entries.isEmpty then Program.print s!"No overrides in source group {r.group}"
  else
    Program.print s!"Overrides in source group {r.group}:"
    for e in r.entries do
      Program.print s!"  {e.table}.{e.column} = {e.type}"

/-- The snapshot of a configuration, if it names one. -/
def optionalSnapshot (config : Configuration) : Program (Option Snapshot) := do
  match config.snapshot with
  | some path => return some (← Program.ofOutcome (Snapshot.load (← Program.files) path))
  | none => return none

/-- The warning that consumers are not looked at. -/
def noConsumersWarning : String :=
  "No schema snapshot configured; sink consumers are not re-validated"

/-- Work on the overrides of the group of a service, and print them. -/
def onOverrides (config : Configuration) (json : Bool) (service : String)
    (unknownUsages : Program Unit) (manager : Option Snapshot → OverrideManager)
    (change : OverrideManager → OverrideRegistry → Session OverrideRegistry) : Program Unit := do
  let snapshot ← optionalSnapshot config
  let group ← requireGroup config service
  if snapshot.isNone then unknownUsages
  let m := manager snapshot
  let registry ← Program.session (m.load group.name group.engineName)
  let changed ← Program.session (change m registry)
  printOverrides json changed

/-- Carry out a command. -/
def run (config : Configuration) (json : Bool) : Command → Program Unit
  | .check sourceEngine sinkEngine sourceType sinkType service place =>
      check config json sourceEngine sinkEngine sourceType sinkType service place
  | .map sourceEngine sinkEngine types => map json sourceEngine sinkEngine types
  | .cloneTable sourceEngine sinkEngine table =>
      cloneTable config json sourceEngine sinkEngine table
  | .resolve sourceEngine sinkEngine sourceTable sinkTable mappings modify apply service =>
      resolve config json sourceEngine sinkEngine sourceTable sinkTable mappings modify apply
        service
  | .setOverride service table column type =>
      onOverrides config json service (Program.session (Session.warn noConsumersWarning))
        (fun snapshot =>
          { store := { directory := config.overridesDirectory }
            usages := (snapshot.map (·.usages)).getD [] })
        (fun m r => m.set r table column type)
  | .removeOverride service table column =>
      onOverrides config json service (pure ())
        (fun snapshot =>
          { store := { directory := config.overridesDirectory }
            usages := (snapshot.map (·.usages)).getD []
            schema := snapshot })
        (fun m r => m.remove r table column)
  | .listOverrides service =>
      onOverrides config json service (pure ())
        (fun _ => { store := { directory := config.overridesDirectory } })
        (fun _ r => pure r)

/-- Read the configuration and carry out the command with a new catalog. -/
def Invocation.program (i : Invocation) : Program Unit := do
  let config ← configuration i.config
  modify fun c =>
    { c with workspace := { c.workspace with catalog := { settings := config.artifacts } } }
  run config i.outputJson i.command

/-! ## Execution -/

/-- What an execution did: its exit code, what it printed, why it failed, the warnings shown, and
the files after it. -/
structure Execution where
  exitCode : Nat
  output : String
  failure : Option Fault
  warnings : List String
  files : FileTree

/-- Carry out an invocation on files at a time. -/
def Invocation.execute (i : Invocation) (files : FileTree) (now : Timestamp) : Execution :=
  let (outcome, console) := i.program { workspace := { files, now } }
  let failure := match outcome with
    | .ok () => none
    | .error fault => some fault
  { exitCode := (failure.map Fault.exitCode).getD 0
    output := String.join console.output
    failure
    warnings := if i.showsWarnings then console.workspace.log else []
    files := console.workspace.files }

/-- The name and version of the program. -/
def versionText : String := "cdc-typemap 0.1.0"

/-- How the program is called. -/
def usageText : String :=
  "Usage: cdc-typemap [--config FILE] [--output-json] [--log-format FORMAT] " ++
    "[--verbosity LEVEL] check|map|clone-table|resolve|override ..."

/-- The exit code of a call that was not understood. -/
def usageExitCode : Nat := 2

/-- What arguments that are no invocation are answered with: the exit code, and the text, which is
printed if the code is zero and reported otherwise. -/
def Refusal.answer : Refusal → Nat × String
  | .version => (0, versionText)
  | .help => (0, usageText)
  | .usage => (usageExitCode, usageText)

end SchemaCrosswalk.CommandLine
