import SchemaCrosswalk.Overrides.Registry
import SchemaCrosswalk.Overrides.Store
import SchemaCrosswalk.Snapshot

/-!
# Override managers — changes of overrides that break no consumer

An override is accepted if the column has none yet and if every sink column that it feeds could
still be populated. An accepted change is persisted at once and yields a new registry.

- `load`: the registry of a group
- `set`, `remove`: one override set or removed
- `incompatibleConsumers`: the sink columns that a type could not populate
-/

namespace SchemaCrosswalk

/-- Where overrides are kept, what source columns feed, and what types they are declared with. -/
structure OverrideManager where
  store : OverrideStore
  usages : List RecordedUsage := []
  schema : Option Snapshot := none

namespace OverrideManager

/-- The registry of a group that reads from an engine. -/
def load (m : OverrideManager) (group engine : String) : Session OverrideRegistry := do
  match ← Session.ofOutcome (m.store.load? (← get).files group) with
  | some d => return .ofDocument group engine d
  | none => return .empty group engine

/-- Whether a type could not populate the sink column of a usage. -/
def isBroken (engine type : String) (usage : SinkUsage) : Session Bool := do
  let checker ← Session.checker engine usage.targetEngine
  return !checker.isCompatible type usage.targetType none

/-- The sink columns fed by a source column that a type could not populate. -/
def incompatibleConsumers (m : OverrideManager) (engine table column type : String) :
    Session (List SinkUsage) :=
  (Snapshot.usagesOf m.usages table column).filterM (isBroken engine type)

/-- Refuse a type that could not populate some sink column. -/
def checkConsumers (m : OverrideManager) (engine table column type : String) : Session Unit := do
  match ← m.incompatibleConsumers engine table column type with
  | [] => return ()
  | consumer :: _ =>
      let checker ← Session.checker engine consumer.targetEngine
      let candidates := checker.sinkCandidates type none
      throw (.incompatible (.breaksConsumer table column type consumer candidates))

/-- Persist a changed document: the registry with it. -/
def commit (m : OverrideManager) (r : OverrideRegistry) (d : OverrideDocument) :
    Session OverrideRegistry := do
  let dated := { d with updatedAt := some (← get).now }
  m.store.persist r.group dated
  return .ofDocument r.group r.engine dated

/-- Set the override of a column. Setting it to the type it has changes nothing. -/
def set (m : OverrideManager) (r : OverrideRegistry) (table column type : String) :
    Session OverrideRegistry := do
  let type := Text.trim type
  if Text.isBlankText table || Text.isBlankText column || type.isEmpty then
    throw (Fault.ofCause .blankOverride)
  match r.get? table column with
  | some existing =>
      if Spelling.normalize existing = Spelling.normalize type then return r
      else throw (.overrideConflict table column existing type)
  | none =>
      m.checkConsumers r.engine table column type
      m.commit r (r.document.insert table column type)

/-- The declared type of a column, if it is known. -/
def declaredType? (m : OverrideManager) (engine table column : String) : Option String := do
  let columns ← (← m.schema).columns? engine table
  (columns.get? column).map (·.type)

/-- What is said of a sink column that the declared type cannot populate. -/
def removalWarning (table column declared : String) (u : SinkUsage) : String :=
  s!"Removing override {table}.{column} restores '{declared}', which cannot populate " ++
    s!"sink column {u.targetEngine}:{u.targetTable}.{u.targetColumn} ({u.targetType})"

/-- Remove the override of a column. Sink columns that the declared type cannot populate are warned
of. -/
def remove (m : OverrideManager) (r : OverrideRegistry) (table column : String) :
    Session OverrideRegistry := do
  match r.document.remove table column with
  | none => throw (.overrideNotFound table column)
  | some (_, rest) =>
      match m.declaredType? r.engine table column with
      | some declared =>
          for u in ← m.incompatibleConsumers r.engine table column declared do
            Session.warn (removalWarning table column declared u)
      | none => pure ()
      m.commit r rest

end OverrideManager

end SchemaCrosswalk
