import SchemaCrosswalk.DocumentFormat
import SchemaCrosswalk.Overrides.Document
import SchemaCrosswalk.Workspace

/-!
# Attachments — the mappings by which a source table is attached to a sink table

The explicit mappings of an attachment are kept in one document for each source table, sink engine
and sink table.

- `AttachmentStore.load?`: the document of an attachment
- `AttachmentStore.persist`: new mappings of an attachment
-/

namespace SchemaCrosswalk

/-- A source table attached to a table of a sink engine. -/
structure AttachmentKey where
  sourceTable : String
  sinkEngine : String
  sinkTable : String
  deriving DecidableEq, Repr

/-- The mappings of an attachment, sink column to source column, as its document holds them. -/
structure AttachmentDocument where
  key : AttachmentKey
  updatedAt : Option Timestamp := none
  mappings : Dictionary String := Dictionary.empty

namespace AttachmentDocument

/-- The explicit mappings in the order of the sink columns. -/
def explicitMappings (d : AttachmentDocument) : List ExplicitMapping :=
  d.mappings.entries.map fun p => ⟨p.2, p.1⟩

open Yaml in
/-- The form of a document. -/
def form : Form AttachmentDocument :=
  Form.record ["source_table", "sink_engine", "sink_table", "updated_at", "mappings"] []
    fun f => do
      let sourceTable ← f.required "source_table" Form.string
      let sinkEngine ← f.required "sink_engine" Form.string
      let sinkTable ← f.required "sink_table" Form.string
      let updatedAt ← f.optional "updated_at" OverrideDocument.timestampForm
      let mappings ← f.orElse "mappings" Dictionary.empty (Form.dictionary Form.string)
      return { key := { sourceTable, sinkEngine, sinkTable }, updatedAt, mappings }

open Yaml in
/-- The document to be printed. -/
def toTree (d : AttachmentDocument) : Tree :=
  .table (
    [("source_table", .text d.key.sourceTable), ("sink_engine", .text d.key.sinkEngine),
      ("sink_table", .text d.key.sinkTable)] ++
    OverrideDocument.updatedField d.updatedAt ++
    [("mappings", OverrideDocument.textTable d.mappings)])

/-- How documents are printed and read. -/
def format : DocumentFormat AttachmentDocument where
  print d := d.toTree.render
  read text origin := (form.read text).mapError fun reason =>
    Fault.inDocument origin (.malformed .mapping reason)

end AttachmentDocument

/-- The directory that holds the documents of attachments. -/
structure AttachmentStore where
  directory : String
  format : DocumentFormat AttachmentDocument := AttachmentDocument.format

namespace AttachmentStore

/-- The name of the file of an attachment. -/
def fileName (k : AttachmentKey) : String :=
  s!"{k.sourceTable}__{k.sinkEngine}.{k.sinkTable}.yaml"

/-- The path of the document of an attachment, whose names have to be plain. -/
def path (s : AttachmentStore) (k : AttachmentKey) : Outcome String :=
  match [k.sourceTable, k.sinkEngine, k.sinkTable].find? fun name => !isPlainName name with
  | some name => .error (Fault.ofCause (.invalidArtifactName name))
  | none => .ok (Path.join s.directory (fileName k))

/-- The document of an attachment, if it has one. -/
def load? (s : AttachmentStore) (files : FileTree) (k : AttachmentKey) :
    Outcome (Option AttachmentDocument) := do
  s.format.load? files (← s.path k)

/-- Keep new mappings of an attachment. -/
def persist (s : AttachmentStore) (k : AttachmentKey) (mappings : Dictionary String) :
    Session Unit := do
  let path ← Session.ofOutcome (s.path k)
  let now := (← get).now
  Session.changeFiles fun files =>
    s.format.persist files s.directory path { key := k, updatedAt := now, mappings }

end AttachmentStore

end SchemaCrosswalk
