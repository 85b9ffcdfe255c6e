import SchemaCrosswalk.AliasTable
import SchemaCrosswalk.Yaml.Form

/-!
# Compatibility maps — which source types may populate which sink types

A map is declared for one ordered pair of engines. It lists a direct cast for a source type, safe
widenings of it, and sink types that accept any source type.

- `CompatibilityMap.Document`: the map as it is declared
- `CompatibilityMap.ofDocument`: the map itself, with all types in canonical form
- `isDirectCast`, `isWidening`, `isWildcard`: what the map says of two types
-/

namespace SchemaCrosswalk

/-- The map for one ordered pair of engines. -/
structure CompatibilityMap where
  sourceEngine : String
  sinkEngine : String
  origin : String
  sourceAliases : AliasTable
  sinkAliases : AliasTable
  casts : Dictionary CanonicalType
  wider : Dictionary NameSet
  wildcard : NameSet
  stripsParameters : Bool

namespace CompatibilityMap

/-! ## Documents -/

/-- A map as a document declares it. -/
structure Document where
  metadata : Yaml.Value := .null
  sourceAliases : Dictionary String := Dictionary.empty
  sinkAliases : Dictionary String := Dictionary.empty
  mappings : Dictionary String := Dictionary.empty
  compatibility : Dictionary (List String) := Dictionary.empty

open Yaml in
/-- The form of the aliases in a document: source and sink. -/
def aliasForm : Form (Dictionary String × Dictionary String) :=
  Form.record ["source", "sink"] [] fun f => do
    let source ← f.orElse "source" Dictionary.empty (Form.dictionary Form.string)
    let sink ← f.orElse "sink" Dictionary.empty (Form.dictionary Form.string)
    return (source, sink)

open Yaml in
/-- The form of a document. -/
def documentForm : Form Document :=
  Form.record ["metadata", "aliases", "mappings", "compatibility"] [] fun f => do
    let metadata ← f.orElse "metadata" .null (Form.value {} (depthLimit - 1))
    let (sourceAliases, sinkAliases) ←
      f.orElse "aliases" (Dictionary.empty, Dictionary.empty) aliasForm
    let mappings ← f.orElse "mappings" Dictionary.empty (Form.dictionary Form.string)
    let compatibility ←
      f.orElse "compatibility" Dictionary.empty (Form.dictionary (Form.list Form.string))
    return { metadata, sourceAliases, sinkAliases, mappings, compatibility }

/-- The document that a text holds. -/
def Document.ofText (text origin : String) : Outcome Document :=
  (documentForm.read text).mapError fun reason =>
    Fault.inDocument origin (.malformed .compatibilityMap reason)

/-! ## Maps -/

/-- The key of the sink types that accept any source type. -/
def wildcardKey : String := "*"

/-- A type in canonical form; `part` of the document names it. -/
def canonicalType (stripsParameters : Bool) (part raw : String) :
    Except Misconfiguration CanonicalType :=
  let spelling := Spelling.canonical raw stripsParameters
  if spelling.isEmpty then .error (.emptyTypeName part) else .ok spelling

/-- One more direct cast; a source type has only one. -/
def addCast (stripsParameters : Bool) (casts : Dictionary CanonicalType)
    (entry : String × String) : Except Misconfiguration (Dictionary CanonicalType) := do
  if Text.trim entry.1 = wildcardKey then .error .reservedWildcard
  else
    let source ← canonicalType stripsParameters "mappings" entry.1
    let sink ← canonicalType stripsParameters "mappings" entry.2
    match casts.get? source with
    | some existing =>
        if existing = sink then .ok (casts.insert source sink)
        else .error (.castConflict source existing sink)
    | none => .ok (casts.insert source sink)

/-- A set with more names. -/
def addNames (names : NameSet) (more : List String) : NameSet :=
  more.foldl (fun s n => s.insert n ()) names

/-- More widenings of one source type, or more types that accept any source type. -/
def addWidenings (stripsParameters : Bool) (wider : Dictionary NameSet × NameSet)
    (entry : String × List String) : Except Misconfiguration (Dictionary NameSet × NameSet) := do
  let targets ← entry.2.mapM (canonicalType stripsParameters "compatibility")
  if Text.trim entry.1 = wildcardKey then .ok (wider.1, addNames wider.2 targets)
  else
    let source ← canonicalType stripsParameters "compatibility" entry.1
    let known := (wider.1.get? source).getD Dictionary.empty
    .ok (wider.1.insert source (addNames known targets), wider.2)

/-- The map that a document declares for a pair of engines, or what is wrong with it. -/
def ofDeclaration (d : Document) (sourceEngine sinkEngine origin : String)
    (stripsParameters : Bool) : Except Misconfiguration CompatibilityMap := do
  let sourceAliases ← AliasTable.ofEntries d.sourceAliases stripsParameters .source
  let sinkAliases ← AliasTable.ofEntries d.sinkAliases stripsParameters .sink
  let casts ← d.mappings.entries.foldlM (addCast stripsParameters) Dictionary.empty
  let (wider, wildcard) ←
    d.compatibility.entries.foldlM (addWidenings stripsParameters)
      (Dictionary.empty, Dictionary.empty)
  .ok {
    sourceEngine, sinkEngine, origin, sourceAliases, sinkAliases, casts, wider, wildcard,
    stripsParameters }

/-- The map that a document declares for a pair of engines. -/
def ofDocument (d : Document) (sourceEngine sinkEngine origin : String)
    (stripsParameters : Bool) : Outcome CompatibilityMap :=
  (ofDeclaration d sourceEngine sinkEngine origin stripsParameters).mapError
    (Fault.inDocument origin)

/-- The map that a text declares for a pair of engines. -/
def ofText (text sourceEngine sinkEngine origin : String) (stripsParameters : Bool) :
    Outcome CompatibilityMap := do
  ofDocument (← Document.ofText text origin) sourceEngine sinkEngine origin stripsParameters

/-! ## Look-ups -/

/-- The canonical type of a spelling on one side. -/
def normalize (m : CompatibilityMap) (raw : String) : Side → CanonicalType
  | .source => m.sourceAliases.resolve raw
  | .sink => m.sinkAliases.resolve raw

/-- The sink type that a source type is cast to directly. -/
def directTarget? (m : CompatibilityMap) (source : CanonicalType) : Option CanonicalType :=
  m.casts.get? source

/-- Whether a source type is cast directly to a sink type. -/
def isDirectCast (m : CompatibilityMap) (source sink : CanonicalType) : Bool :=
  m.directTarget? source == some sink

/-- The listed widenings of a source type, in order. -/
def widenings (m : CompatibilityMap) (source : CanonicalType) : List CanonicalType :=
  ((m.wider.get? source).getD Dictionary.empty).keys

/-- Whether a sink type accepts any source type. -/
def isWildcard (m : CompatibilityMap) (sink : CanonicalType) : Bool := m.wildcard.contains sink

/-- Whether a sink type is a listed widening of a source type or accepts any. -/
def isWidening (m : CompatibilityMap) (source sink : CanonicalType) : Bool :=
  ((m.wider.get? source).any (·.contains sink)) || m.isWildcard sink

end CompatibilityMap

end SchemaCrosswalk
