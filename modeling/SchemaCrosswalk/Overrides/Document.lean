import SchemaCrosswalk.Fault
import SchemaCrosswalk.PairTable
import SchemaCrosswalk.Text.Lowercase
import SchemaCrosswalk.Timestamp
import SchemaCrosswalk.Yaml.Form
import SchemaCrosswalk.Yaml.Printer

/-!
# Override documents — types that replace the declared ones

An override gives a source column another type than the declared one. The overrides of a group of
services are kept in one document, by table and column; names match up to case.

- `OverrideDocument.ofText`, `toText`: the document as a text
- `get?`, `insert`, `remove`: single overrides
- `entries`: all overrides in order
-/

namespace SchemaCrosswalk

/-- The overrides of one group, as its document holds them. -/
structure OverrideDocument where
  version : Nat := 1
  updatedAt : Option Timestamp := none
  overrides : PairTable String := PairTable.empty
  deriving Inhabited

/-- One override. -/
structure OverrideEntry where
  table : String
  column : String
  type : String
  deriving DecidableEq, Repr

namespace OverrideDocument

/-- The version of the documents that are understood. -/
def currentVersion : Nat := 1

/-- The document without overrides. -/
def empty : OverrideDocument := {}

/-! ## Entries -/

/-- All overrides in the order of tables and columns. -/
def entries (d : OverrideDocument) : List OverrideEntry :=
  d.overrides.toList.map fun e => ⟨e.1, e.2.1, e.2.2⟩

/-- The number of overrides. -/
def size (d : OverrideDocument) : Nat := d.overrides.size

/-- Whether there are no overrides. -/
def isEmpty (d : OverrideDocument) : Bool := d.size == 0

/-- The override of a column, if any. -/
def get? (d : OverrideDocument) (table column : String) : Option String :=
  (d.entries.find? fun e => Text.namesMatch e.table table && Text.namesMatch e.column column).map
    (·.type)

/-! ## Changes -/

/-- The first key that matches a name. -/
def matchingKey? {α : Type} (d : Dictionary α) (name : String) : Option String :=
  d.keys.find? fun key => Text.namesMatch key name

/-- Set an override. A table or column that is known keeps its spelling. -/
def insert (d : OverrideDocument) (table column type : String) : OverrideDocument :=
  let tableKey := (matchingKey? d.overrides table).getD table
  let columns := (Dictionary.get? d.overrides tableKey).getD Dictionary.empty
  let columnKey := (matchingKey? columns column).getD column
  { d with overrides := d.overrides.insert tableKey (columns.insert columnKey (Text.trim type)) }

/-- Remove an override: its type, and the document without it. A table without overrides is
dropped. -/
def remove (d : OverrideDocument) (table column : String) :
    Option (String × OverrideDocument) := do
  let tableKey ← matchingKey? d.overrides table
  let columns ← Dictionary.get? d.overrides tableKey
  let columnKey ← matchingKey? columns column
  let type ← columns.get? columnKey
  let rest := columns.erase columnKey
  let overrides :=
    if rest.isEmpty then d.overrides.erase tableKey else d.overrides.insert tableKey rest
  some (type, { d with overrides })

/-! ## Validity -/

/-- A table and a column up to case. -/
def foldedKey (table column : String) : String × String :=
  (Text.toLowercase table, Text.toLowercase column)

/-- The first flaw of overrides: an empty name or type, or a column that was seen before. -/
def firstFlaw (seen : List ((String × String) × String)) :
    List OverrideEntry → Option Misconfiguration
  | [] => none
  | e :: es =>
      if Text.isBlankText e.table || Text.isBlankText e.column || Text.isBlankText e.type then
        some (.emptyOverride e.table e.column)
      else
        match seen.lookup (foldedKey e.table e.column) with
        | some previous => some (.repeatedOverride e.table e.column previous e.type)
        | none => firstFlaw ((foldedKey e.table e.column, e.type) :: seen) es

/-- What is wrong with a document, if anything. -/
def flaw? (d : OverrideDocument) : Option Misconfiguration :=
  if d.version ≠ currentVersion then some (.unsupportedVersion d.version currentVersion)
  else firstFlaw [] d.entries

/-! ## Texts -/

open Yaml in
/-- The form of a timestamp. -/
def timestampForm : Form Timestamp := fun d node => do
  let text ← Form.string d node
  match Timestamp.ofText? text with
  | some t => return t
  | none => throw (.value "a timestamp" text)

open Yaml in
/-- The form of the version and the time of a document. -/
def metadataForm : Form (Nat × Option Timestamp) :=
  Form.record ["version", "updated_at"] [] fun f => do
    let version ← f.orElse "version" currentVersion (Form.natural (Nat.pow 2 32))
    let updatedAt ← f.optional "updated_at" timestampForm
    return (version, updatedAt)

open Yaml in
/-- The form of a document. -/
def form : Form OverrideDocument :=
  Form.record ["metadata", "overrides"] [] fun f => do
    let (version, updatedAt) ← f.orElse "metadata" (currentVersion, none) metadataForm
    let overrides ←
      f.orElse "overrides" Dictionary.empty (Form.dictionary (Form.dictionary Form.string))
    return { version, updatedAt, overrides }

/-- The document that a text holds, if it has no flaw. -/
def ofText (text origin : String) : Outcome OverrideDocument :=
  match form.read text with
  | .error reason => .error (Fault.inDocument origin (.malformed .overrides reason))
  | .ok d =>
      match d.flaw? with
      | some flaw => .error (Fault.inDocument origin flaw)
      | none => .ok d

open Yaml in
/-- A dictionary of texts to be printed. -/
def textTable (d : Dictionary String) : Tree :=
  .table (d.entries.map fun p => (p.1, .text p.2))

open Yaml in
/-- The time of the last change to be printed, if it is known. -/
def updatedField (updatedAt : Option Timestamp) : List (String × Tree) :=
  updatedAt.toList.map fun t => ("updated_at", .text t.render)

open Yaml in
/-- The document to be printed. -/
def toTree (d : OverrideDocument) : Tree :=
  .table [
    ("metadata", .table (("version", .number d.version) :: updatedField d.updatedAt)),
    ("overrides", .table (d.overrides.entries.map fun p => (p.1, textTable p.2)))]

/-- The text of a document. -/
def toText (d : OverrideDocument) : String := d.toTree.render

end OverrideDocument

end SchemaCrosswalk
