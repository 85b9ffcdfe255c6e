import SchemaCrosswalk.Column
import SchemaCrosswalk.Engine
import SchemaCrosswalk.Fault
import SchemaCrosswalk.PairTable
import SchemaCrosswalk.Yaml.Form

/-!
# Snapshots — the tables of all engines and what their columns feed

A snapshot lists the columns of tables by engine, and the sink columns that source columns feed.
Engines are known by their canonical names.

- `Snapshot.ofText`: the snapshot that a text holds
- `columns`: the columns of a table
- `usagesOf`: the sink columns that a source column feeds
-/

namespace SchemaCrosswalk

/-- A sink column that is fed from a given source column. -/
structure RecordedUsage where
  sourceTable : String
  sourceColumn : String
  usage : SinkUsage
  deriving DecidableEq, Repr

/-- The sink column with the canonical name of its engine. -/
def SinkUsage.normalized (u : SinkUsage) : SinkUsage :=
  { u with targetEngine := Engine.normalize u.targetEngine }

/-- The tables of all engines and what their columns feed. -/
structure Snapshot where
  tables : PairTable ColumnSet := PairTable.empty
  usages : List RecordedUsage := []
  deriving Inhabited

namespace Snapshot

/-- A snapshot as a document declares it. -/
structure Document where
  tables : PairTable ColumnSet := PairTable.empty
  usages : List RecordedUsage := []

/-! ## Reading -/

open Yaml in
/-- The form of a column. -/
def columnForm : Form Column :=
  Form.record ["name", "type", "nullable", "primary_key", "has_default"] [("data_type", "type")]
    fun f => do
      let name ← f.required "name" Form.string
      let type ← f.required "type" Form.string
      let nullable ← f.orElse "nullable" true Form.bool
      let primaryKey ← f.orElse "primary_key" false Form.bool
      let hasDefault ← f.orElse "has_default" false Form.bool
      return { name, type, nullable, primaryKey, hasDefault }

open Yaml in
/-- The form of the columns of a table, which have distinct names. -/
def columnsForm : Form ColumnSet := fun d node => do
  match ColumnSet.ofList (← Form.list columnForm d node) with
  | .ok s => return s
  | .error name => throw (.content s!"duplicate column name {name}")

/-- The fields of a usage that name its sink column. -/
def targetFields : List String :=
  ["target_engine", "target_table", "target_column", "target_type"]

open Yaml in
/-- The value of a field that has to be written as a text, not as anything else. -/
def strictText (values : List (String × Value)) (name : String) : Step String :=
  match values.filter fun p => p.1 == name with
  | [(_, .text s)] => return s
  | [(_, other)] => throw (.value "a string" other.describe)
  | [] => throw (.missingField name)
  | _ => throw (.repeatedField name)

open Yaml in
/-- The form of a usage. Only the source names are taken as they are written; all other fields are
values, and those of the sink column have to be texts. -/
def usageForm : Form RecordedUsage := fun d node => do
  let sourceFields := ["source_table", "source_column"]
  let sources : Form (String × String) := Form.record sourceFields [] fun f => do
    return (← f.required "source_table" Form.string, ← f.required "source_column" Form.string)
  let (sourceTable, sourceColumn) ← sources d node
  let others := (← Form.entries d node).filter fun p => !sourceFields.contains p.1
  let rules : Form.ValueRules := { ownTags := false, repeatedKeys := true }
  let values ← others.mapM fun p => do
    return (p.1, ← Form.value rules (depthLimit - 3) d p.2)
  let usage : SinkUsage := {
    targetEngine := ← strictText values "target_engine"
    targetTable := ← strictText values "target_table"
    targetColumn := ← strictText values "target_column"
    targetType := ← strictText values "target_type" }
  return { sourceTable, sourceColumn, usage }

open Yaml in
/-- The form of a document. -/
def documentForm : Form Document :=
  Form.record ["tables", "sink_usages"] [] fun f => do
    let tables ← f.orElse "tables" Dictionary.empty
      (Form.dictionary (Form.dictionary columnsForm))
    let usages ← f.orElse "sink_usages" [] (Form.list usageForm)
    return { tables, usages }

/-! ## Changes -/

/-- Set the columns of a table. -/
def insertTable (s : Snapshot) (engine table : String) (columns : ColumnSet) : Snapshot :=
  { s with tables := s.tables.put (Engine.normalize engine) table columns }

/-- Record that a source column feeds a sink column. -/
def addUsage (s : Snapshot) (table column : String) (usage : SinkUsage) : Snapshot :=
  { s with usages := s.usages ++ [⟨table, column, usage.normalized⟩] }

/-- The snapshot that a document declares, with engines under their canonical names. -/
def ofDocument (d : Document) : Snapshot :=
  d.tables.toList.foldl (fun s t => s.insertTable t.1 t.2.1 t.2.2)
    { usages := d.usages.map fun u => { u with usage := u.usage.normalized } }

/-- The snapshot that a text holds. -/
def ofText (text origin : String) : Outcome Snapshot :=
  match documentForm.read text with
  | .ok d => .ok (ofDocument d)
  | .error reason => .error (Fault.inDocument origin (.malformed .snapshot reason))

/-- The snapshot in a file. -/
def load (files : FileTree) (path : String) : Outcome Snapshot := do
  ofText (← (files.read path).mapError .file) path

/-! ## Look-ups -/

/-- The number of tables. -/
def tableCount (s : Snapshot) : Nat := s.tables.size

/-- The value at a name, exactly or else the first one whose key differs by case only. -/
def findNamed {α : Type} (d : Dictionary α) (name : String) : Option α :=
  (d.get? name).or ((d.entries.find? fun p => Text.namesMatch p.1 name).map (·.2))

/-- The columns of a table, if it is known. -/
def columns? (s : Snapshot) (engine table : String) : Option ColumnSet :=
  (Dictionary.get? s.tables (Engine.normalize engine)).bind fun tables => findNamed tables table

/-- The columns of a table. -/
def columns (s : Snapshot) (engine table : String) : Outcome ColumnSet :=
  match s.columns? engine table with
  | some c => .ok c
  | none => .error (.unknownTable (Engine.normalize engine) table)

/-- The sink columns that a source column feeds. -/
def usagesOf (usages : List RecordedUsage) (table column : String) : List SinkUsage :=
  (usages.filter fun u =>
    Text.namesMatch u.sourceTable table && Text.namesMatch u.sourceColumn column).map (·.usage)

end Snapshot

end SchemaCrosswalk
