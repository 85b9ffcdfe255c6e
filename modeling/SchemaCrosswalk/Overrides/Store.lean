import SchemaCrosswalk.DocumentFormat
import SchemaCrosswalk.Overrides.Document
import SchemaCrosswalk.Workspace

/-!
# Override stores — the directory of override documents

Every group of services has one document, in a file with its name.

- `OverrideStore.load?`: the document of a group
- `OverrideStore.persist`: a new document of a group
-/

namespace SchemaCrosswalk

/-- How override documents are printed and read. -/
def OverrideDocument.format : DocumentFormat OverrideDocument where
  print := OverrideDocument.toText
  read := OverrideDocument.ofText

/-- The directory that holds the override documents. -/
structure OverrideStore where
  directory : String
  format : DocumentFormat OverrideDocument := OverrideDocument.format

namespace OverrideStore

/-- The path of the document of a group, whose name has to be plain. -/
def path (s : OverrideStore) (group : String) : Outcome String :=
  if isPlainName group then .ok (Path.join s.directory s!"{group}.yaml")
  else .error (Fault.ofCause (.invalidGroupName group))

/-- The document of a group, if it has one. -/
def load? (s : OverrideStore) (files : FileTree) (group : String) :
    Outcome (Option OverrideDocument) := do
  s.format.load? files (← s.path group)

/-- Replace the document of a group. -/
def persist (s : OverrideStore) (group : String) (d : OverrideDocument) : Session Unit := do
  let path ← Session.ofOutcome (s.path group)
  Session.changeFiles fun files => s.format.persist files s.directory path d

end OverrideStore

end SchemaCrosswalk
