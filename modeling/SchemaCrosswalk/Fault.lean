import SchemaCrosswalk.Column
import SchemaCrosswalk.FileTree
import SchemaCrosswalk.Resolution.Finding
import SchemaCrosswalk.Yaml.Unreadable
import SchemaCrosswalk.Yaml.Value

/-!
# Faults — why an operation failed

A fault keeps its cause; what is told of it is decided here alone.

- `Misconfiguration`: what is wrong with a document, a configuration or a request
- `Incompatibility`: which cast or mapping is not allowed
- `Fault`: all failures, with `message`, `report` and `exitCode`
-/

namespace SchemaCrosswalk

/-! ## Causes -/

/-- The two ends of a replication. -/
inductive Side
  | source
  | sink
  deriving DecidableEq, Repr

/-- The name of an end. -/
def Side.name : Side → String
  | .source => "source"
  | .sink => "sink"

/-- The kinds of documents. -/
inductive DocumentKind
  | compatibilityMap
  | typeTranslation
  | overrides
  | mapping
  | snapshot
  | configuration
  deriving DecidableEq, Repr

/-- What a kind of documents is called. -/
def DocumentKind.name : DocumentKind → String
  | .compatibilityMap => "compatibility map"
  | .typeTranslation => "type-translation artifact"
  | .overrides => "override artifact"
  | .mapping => "mapping artifact"
  | .snapshot => "schema snapshot"
  | .configuration => "configuration"

/-- What is wrong with a document, a configuration or a request. -/
inductive Misconfiguration
  | stated (text : String)
  | malformed (kind : DocumentKind) (reason : Yaml.Unreadable)
  -- columns
  | duplicateColumn (name : String)
  | malformedColumnMapping (text : String)
  -- compatibility maps
  | emptyTypeName (part : String)
  | aliasConflict (side : Side) (name first second : String)
  | aliasChain (side : Side) (name target next : String)
  | reservedWildcard
  | castConflict (source first second : String)
  -- type translations
  | engineMismatch (field declared expected : String)
  | emptyFallback (field : String)
  | unusableEntry (key value : Yaml.Value)
  -- overrides
  | unsupportedVersion (version expected : Nat)
  | emptyOverride (table column : String)
  | repeatedOverride (table column first second : String)
  | blankOverride
  -- stores
  | invalidGroupName (name : String)
  | invalidArtifactName (name : String)
  -- configurations
  | noArtifactSource
  | emptyDirectory (field : String)
  | groupWithoutName
  | duplicateGroup (name : String)
  | groupWithoutEngine (name : String)
  | blankService (group : String)
  | ambiguousService (service : String) (groups : List String)
  | groupEngineMismatch (group actual requested : String)
  | serviceWithoutGroup (service : String)
  | noSnapshot

/-- What is wrong, in words. -/
def Misconfiguration.message : Misconfiguration → String
  | .stated text => text
  | .malformed kind reason => s!"malformed {kind.name}: {reason.message}"
  | .duplicateColumn name => s!"duplicate column name '{name}' in column set"
  | .malformedColumnMapping text => s!"invalid column mapping '{text}': expected source=sink"
  | .emptyTypeName part => s!"{part} contains an empty type name"
  | .aliasConflict side name first second =>
      s!"aliases.{side.name}: '{name}' is aliased to both '{first}' and '{second}'"
  | .aliasChain side name target next =>
      s!"aliases.{side.name}: chained alias '{name}' → '{target}' → '{next}' " ++
        "(aliases must resolve in one hop)"
  | .reservedWildcard =>
      "mappings may not use the reserved '*' key (use compatibility instead)"
  | .castConflict source first second =>
      s!"mappings: '{source}' maps to both '{first}' and '{second}'"
  | .engineMismatch field declared expected =>
      s!"{field} is '{declared}' but the artifact was loaded for '{expected}'"
  | .emptyFallback field => s!"{field} may not be empty"
  | .unusableEntry key value =>
      "mappings entries must be non-empty strings (found " ++ key.describe ++ ": " ++
        value.describe ++ ")"
  | .unsupportedVersion version expected =>
      s!"unsupported override format version {version} (expected {expected})"
  | .emptyOverride table column => s!"empty table, column or type in override {table}.{column}"
  | .repeatedOverride table column first second =>
      s!"override for {table}.{column} is declared more than once ('{first}' and '{second}')"
  | .blankOverride => "override table, column and type must be non-empty"
  | .invalidGroupName name => s!"invalid source group name '{name}'"
  | .invalidArtifactName name => s!"invalid name '{name}' for a mapping artifact"
  | .noArtifactSource => "artifacts: builtins are disabled and no search path is configured"
  | .emptyDirectory field => s!"{field} must not be empty"
  | .groupWithoutName => "source_groups: name is required"
  | .duplicateGroup name => s!"source_groups: duplicate group '{name}'"
  | .groupWithoutEngine name => s!"source_groups.{name}: engine is required"
  | .blankService group => s!"source_groups.{group}: services must not contain empty names"
  | .ambiguousService service groups =>
      s!"service '{service}' belongs to more than one source group ({commaList groups})"
  | .groupEngineMismatch group actual requested =>
      s!"source group '{group}' reads from {actual}, not {requested}"
  | .serviceWithoutGroup service => s!"service '{service}' does not belong to any source group"
  | .noSnapshot => "snapshot is not configured"

/-- A cast or a mapping that is not allowed. -/
inductive Incompatibility
  | stated (text : String) (suggestions : List String)
  | unpopulated (table : String) (columns : List String) (guidance : List Guidance)
  | breaksConsumer (table column type : String) (consumer : SinkUsage) (candidates : List String)
  | refusedCast (sourceEngine sourceType sinkEngine sinkType : String) (candidates : List String)

namespace Incompatibility

/-- What is not allowed, in words. -/
def message : Incompatibility → String
  | .stated text _ => text
  | .unpopulated table columns _ =>
      s!"cannot attach {table}: required sink column(s) not populated: {commaList columns}"
  | .breaksConsumer table column type u _ =>
      s!"override {table}.{column} = '{type}' would break sink column " ++
        s!"{u.targetEngine}:{u.targetTable}.{u.targetColumn} ({u.targetType})"
  | .refusedCast sourceEngine sourceType sinkEngine sinkType _ =>
      s!"{sourceEngine} '{sourceType}' cannot populate {sinkEngine} '{sinkType}'"

/-- What can be done, in words. -/
def suggestions : Incompatibility → List String
  | .stated _ suggestions => suggestions
  | .unpopulated _ _ guidance => guidance.map Guidance.message
  | .breaksConsumer table column type u candidates =>
      (s!"remap or drop sink column {u.targetTable}.{u.targetColumn} " ++
          s!"before overriding {table}.{column}")
        :: if candidates.isEmpty then [] else [s!"'{type}' can populate: {commaList candidates}"]
  | .refusedCast _ _ _ _ candidates =>
      if candidates.isEmpty then [] else [s!"compatible sink types: {commaList candidates}"]

end Incompatibility

/-! ## Faults -/

/-- A failure of an operation. -/
inductive Fault
  | misconfigured (cause : Misconfiguration) (path : Option String)
  | artifactNotFound (sourceEngine sinkEngine : String) (expected searchPaths : List String)
  | incompatible (cause : Incompatibility)
  | violations (found : List Violation)
  | overrideConflict (table column existing requested : String)
  | overrideNotFound (table column : String)
  | unknownTable (engine table : String)
  | file (problem : FileProblem)
  | document (reason : Yaml.Unreadable)

namespace Fault

/-- A fault in a document, which is named. -/
def inDocument (origin : String) (cause : Misconfiguration) : Fault := .misconfigured cause origin

/-- A fault in a request or a configuration. -/
def ofCause (cause : Misconfiguration) : Fault := .misconfigured cause none

/-- What failed, in one line. -/
def message : Fault → String
  | .misconfigured cause path =>
      let place := match path with
        | some p => s!" ({p})"
        | none => ""
      s!"Configuration error: {cause.message}{place}"
  | .artifactNotFound source sink expected paths =>
      let searched := if paths.isEmpty then "<none>" else commaList paths
      s!"Configuration error: no artifact for {source} → {sink} " ++
        s!"(expected one of: {commaList expected}; searched: {searched})"
  | .incompatible cause => s!"Compatibility error: {cause.message}"
  | .violations found =>
      let texts := "; ".intercalate (found.map Violation.message)
      s!"Invalid explicit mappings: {texts}"
  | .overrideConflict table column existing requested =>
      s!"Override for {table}.{column} already set to '{existing}' (requested '{requested}'); " ++
        "remove it first"
  | .overrideNotFound table column => s!"No override exists for {table}.{column}"
  | .unknownTable engine table => s!"Unknown table {table} on engine {engine}"
  | .file problem => s!"IO error: {problem.message}"
  | .document reason => s!"YAML error: {reason.message}"

/-- The exit code of a program that failed so. -/
def exitCode : Fault → Nat
  | .misconfigured _ _ | .artifactNotFound _ _ _ _ | .document _ => 1
  | .incompatible _ | .violations _ => 2
  | .overrideConflict _ _ _ _ | .overrideNotFound _ _ => 3
  | .unknownTable _ _ => 4
  | .file _ => 7

/-- A heading and texts below it. -/
def listed (heading : String) (texts : List String) : String :=
  "\n" ++ heading ++ String.join (texts.map fun t => "\n  - " ++ t) ++ "\n"

/-- What failed, what can be done about it and what caused it. -/
def report (f : Fault) : String :=
  let details := match f with
    | .incompatible cause =>
        if cause.suggestions.isEmpty then "" else listed "Suggestions:" cause.suggestions
    | .violations found => listed "Violations:" (found.map Violation.message)
    | .file problem => s!"\nCaused by:\n  1: {problem.message}"
    | .document reason => s!"\nCaused by:\n  1: {reason.message}"
    | _ => ""
  s!"Error: {f.message}\n{details}"

end Fault

/-- The result of an operation that can fail. -/
abbrev Outcome (α : Type) := Except Fault α

end SchemaCrosswalk
