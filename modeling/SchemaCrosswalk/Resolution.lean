import SchemaCrosswalk.Checker
import SchemaCrosswalk.Column
import SchemaCrosswalk.Fault

/-!
# Resolutions — which source columns populate the columns of a sink table

The explicit mappings come first. A sink column without one is populated by the source column of
the same name if the types allow it. Required sink columns that stay empty make a resolution
invalid, and for each of them there is guidance.

- `Resolution.resolve`: the resolution of a source table and a sink table
- `Resolution.resolveForAttach`: an invalid resolution is refused
- `Resolution.resolveForModify`: an invalid resolution only warns
- `mergeMappings`: persisted mappings with new ones put over them
-/

namespace SchemaCrosswalk

/-- A sink column with a source column of the same name whose type cannot populate it. -/
structure IncompatibleIdentity where
  sinkColumn : String
  sourceType : String
  sinkType : String
  deriving DecidableEq, Repr

/-- Which source columns populate the columns of a sink table. -/
structure Resolution where
  /-- Explicit mappings: sink column to source column, as the tables spell them. -/
  applied : Dictionary String
  /-- Sink columns that the source column of the same name populates. -/
  identityCovered : NameSet
  /-- Sink columns whose namesake cannot populate them, in the order of the sink table. -/
  incompatible : List IncompatibleIdentity
  /-- Required sink columns that nothing populates, in the order of the sink table. -/
  unmapped : List String
  valid : Bool
  guidance : List Guidance

/-- A finding that does not stop a modification. -/
structure MappingWarning where
  sinkColumn : String
  message : String
  deriving DecidableEq, Repr

/-- Persisted mappings with new ones; a new mapping replaces those into the same sink column. -/
def mergeMappings (existing new : List ExplicitMapping) : List ExplicitMapping :=
  existing.filter (fun old => !new.any fun m => Text.namesMatch m.sinkColumn old.sinkColumn) ++ new

/-- A source table and a sink table whose columns are to be matched. -/
structure TablePair where
  checker : Checker
  sourceTable : String
  source : ColumnSet
  sink : ColumnSet

namespace TablePair

/-- The place of a column of the source table. -/
def place (p : TablePair) (column : Column) : Option ColumnContext :=
  some ⟨p.sourceTable, column.name⟩

/-- Whether a source column may populate a sink column. -/
def canPopulate (p : TablePair) (source sink : Column) : Bool :=
  p.checker.isCompatible source.type sink.type (p.place source)

/-- The type in effect of a source column. -/
def effectiveType (p : TablePair) (source : Column) : String :=
  p.checker.effectiveType source.type (p.place source)

/-! ## Explicit mappings -/

/-- The columns that a mapping names, if both exist. -/
def columnsOf (p : TablePair) (m : ExplicitMapping) : Option (Column × Column) :=
  match p.source.get? m.sourceColumn, p.sink.get? m.sinkColumn with
  | some source, some sink => some (source, sink)
  | _, _ => none

/-- What is wrong with one mapping: unknown columns or types that do not fit. -/
def violationsOf (p : TablePair) (m : ExplicitMapping) : List Violation :=
  match p.source.get? m.sourceColumn, p.sink.get? m.sinkColumn with
  | some source, some sink =>
      if p.canPopulate source sink then []
      else [.typeMismatch source.name (p.effectiveType source) sink.name sink.type]
  | source, sink =>
      (if source.isNone then [.unknownSourceColumn m.sourceColumn p.source.names] else []) ++
        (if sink.isNone then [.unknownSinkColumn m.sinkColumn p.sink.names] else [])

/-- Names with one more unless it is among them. -/
def addOnce (names : List String) (name : String) : List String :=
  if names.contains name then names else names ++ [name]

/-- The source columns mapped to each sink column, each once. -/
def sourcesBySink (p : TablePair) (explicit : List ExplicitMapping) : Dictionary (List String) :=
  (explicit.filterMap p.columnsOf).foldl
    (fun d c => d.insert c.2.name (addOnce ((d.get? c.2.name).getD []) c.1.name))
    Dictionary.empty

/-- The sink columns with more than one source column. -/
def duplicates (bySink : Dictionary (List String)) : List Violation :=
  (bySink.entries.filter fun e => 1 < e.2.length).map fun e => .duplicateSinkColumn e.1 e.2

/-- The explicit mappings by sink column, or all that is wrong with them. -/
def explicitMappings (p : TablePair) (explicit : List ExplicitMapping) :
    Outcome (Dictionary String) :=
  let bySink := p.sourcesBySink explicit
  match explicit.flatMap p.violationsOf ++ duplicates bySink with
  | [] => .ok (bySink.map fun _ sources => sources.getLastD "")
  | found => .error (.violations found)

/-! ## Columns of the same name -/

/-- The source column of the same name as a sink column that has no explicit mapping. -/
def namesake? (p : TablePair) (applied : Dictionary String) (sink : Column) : Option Column :=
  if applied.contains sink.name then none else p.source.get? sink.name

/-- The sink columns that their namesakes populate. -/
def covered (p : TablePair) (applied : Dictionary String) : List String :=
  (p.sink.columns.filter fun sink =>
    (p.namesake? applied sink).any fun source => p.canPopulate source sink).map (·.name)

/-- The sink columns that their namesakes cannot populate. -/
def clashes (p : TablePair) (applied : Dictionary String) : List IncompatibleIdentity :=
  p.sink.columns.filterMap fun sink =>
    match p.namesake? applied sink with
    | some source =>
        if p.canPopulate source sink then none
        else some ⟨sink.name, p.effectiveType source, sink.type⟩
    | none => none

/-! ## Guidance -/

/-- How many source columns are suggested at most. -/
def suggestionLimit : Nat := 5

/-- The names of source columns that may populate a sink column. -/
def suggestions (p : TablePair) (sink : Column) : List String :=
  ((p.source.columns.filter fun source => p.canPopulate source sink).map (·.name)).take
    suggestionLimit

/-- Names filled up from others to the limit, none twice. -/
def fillUp (names : List String) (others : List String) : List String :=
  others.foldl
    (fun seen name =>
      if suggestionLimit ≤ seen.length || seen.contains name then seen else seen ++ [name])
    names

/-- What can be done for a required sink column that nothing populates. -/
def guidanceFor (p : TablePair) (incompatible : List IncompatibleIdentity) (sink : Column) :
    Guidance :=
  match incompatible.find? fun i => i.sinkColumn == sink.name with
  | some identity =>
      .incompatibleIdentity sink.name sink.type identity.sourceType (p.suggestions sink)
  | none => .noIdentityCandidate sink.name sink.type (fillUp (p.suggestions sink) p.source.names)

end TablePair

namespace Resolution

/-- The resolution of two tables, once the explicit mappings are accepted. -/
def ofApplied (p : TablePair) (applied : Dictionary String) : Resolution :=
  let identityCovered := NameSet.ofList (p.covered applied)
  let incompatible := p.clashes applied
  let unmapped := p.sink.required.filter fun c =>
    !applied.contains c.name && !identityCovered.contains c.name
  let clash := incompatible.any fun i => (p.sink.get? i.sinkColumn).any (·.isRequired)
  { applied, identityCovered, incompatible
    unmapped := unmapped.map (·.name)
    valid := unmapped.isEmpty && !clash
    guidance := unmapped.map (p.guidanceFor incompatible) }

/-- The resolution of two tables with explicit mappings, or all that is wrong with these. -/
def resolve (p : TablePair) (explicit : List ExplicitMapping) : Outcome Resolution := do
  return ofApplied p (← p.explicitMappings explicit)

/-- The findings that do not stop a modification. -/
def warnings (r : Resolution) : List MappingWarning :=
  r.guidance.map fun g => ⟨g.sinkColumn, g.message⟩

/-- The resolution for a first attachment, which has to be valid. -/
def resolveForAttach (p : TablePair) (explicit : List ExplicitMapping) :
    Outcome (Resolution × List MappingWarning) := do
  let r ← resolve p explicit
  if r.valid then return (r, [])
  else throw (.incompatible (.unpopulated p.sourceTable r.unmapped r.guidance))

/-- The resolution for a change of an attachment, with warnings if it is not valid. -/
def resolveForModify (p : TablePair) (explicit : List ExplicitMapping) :
    Outcome (Resolution × List MappingWarning) := do
  let r ← resolve p explicit
  return (r, r.warnings)

end Resolution

end SchemaCrosswalk
