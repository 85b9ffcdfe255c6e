import SchemaCrosswalk.Catalog
import SchemaCrosswalk.Timestamp

/-!
# Workspaces — what operations read and change

A workspace holds the files, the catalog, the time and the warnings that were given. An operation
on it can fail; what it did before that stays done.

- `Session`: operations on a workspace
- `Session.checker`, `Session.translation`: artifacts from the catalog
-/

namespace SchemaCrosswalk

/-- The files, the catalog, the time, and the warnings given so far, the latest last. -/
structure Workspace where
  files : FileTree := {}
  catalog : Catalog := {}
  now : Timestamp := default
  log : List String := []
  deriving Inhabited

/-- An operation on a workspace that can fail. -/
abbrev Session := ExceptT Fault (StateM Workspace)

namespace Session

variable {α : Type}

/-- The outcome of an operation and the workspace after it. -/
def runOn (s : Session α) (w : Workspace) : Outcome α × Workspace := s w

/-- Fail if an outcome is a failure. -/
def ofOutcome (o : Outcome α) : Session α := fun w => (o, w)

/-- Give a warning. -/
def warn (message : String) : Session Unit :=
  modify fun w => { w with log := w.log ++ [message] }

/-- Use an artifact of the catalog. -/
def fromCatalog (find : Catalog → FileTree → Outcome (α × Catalog)) : Session α := fun w =>
  match find w.catalog w.files with
  | .ok (a, catalog) => (.ok a, { w with catalog })
  | .error fault => (.error fault, w)

/-- The checker of a pair of engines. -/
def checker (sourceEngine sinkEngine : String) : Session Checker := do
  return { map := ← fromCatalog fun c files => c.map files sourceEngine sinkEngine }

/-- The type translation of a pair of engines. -/
def translation (sourceEngine sinkEngine : String) : Session Translation :=
  fromCatalog fun c files => c.translation files sourceEngine sinkEngine

/-- Change the files, whatever the outcome. -/
def changeFiles (change : FileTree → FileTree × Outcome α) : Session α := fun w =>
  let (files, outcome) := change w.files
  (outcome, { w with files })

end Session

end SchemaCrosswalk
