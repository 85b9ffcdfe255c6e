import SchemaCrosswalk.Fault
import SchemaCrosswalk.FileTree

/-!
# Document formats — documents kept in files

A format prints documents and reads them back. A document replaces the one in its file as a whole:
it is written to a file beside it first, which then takes its place.

- `DocumentFormat.load?`: the document in a file, if there is one
- `DocumentFormat.persist`: a document put into its file
-/

namespace SchemaCrosswalk

/-- How documents of one kind are written and read. Reading is told where the text comes from. -/
structure DocumentFormat (α : Type) where
  print : α → String
  read : (text origin : String) → Outcome α

namespace DocumentFormat

variable {α : Type}

/-- The document in a file, or nothing if there is no such file. -/
def load? (f : DocumentFormat α) (files : FileTree) (path : String) : Outcome (Option α) :=
  if files.contains path then do
    let text ← (files.read path).mapError Fault.file
    some <$> f.read text path
  else .ok none

/-- Where a document is written before it takes its place. -/
def draftPath (path : String) : String := path ++ ".tmp"

/-- Put a document into a file of a directory, which is made if it is missing. On failure the tree
holds what was done so far. -/
def persist (f : DocumentFormat α) (files : FileTree) (directory path : String) (d : α) :
    FileTree × Outcome Unit :=
  match files.createDirectories directory with
  | (made, .error problem) => (made, .error (.file problem))
  | (made, .ok ()) =>
      match made.write (draftPath path) (f.print d) with
      | .error problem => (made, .error (.file problem))
      | .ok drafted =>
          match drafted.rename (draftPath path) path with
          | .error problem => (drafted, .error (.file problem))
          | .ok done => (done, .ok ())

end DocumentFormat

/-- Whether a name can be that of a file in a directory: it is not empty, has no slashes and is not
a name of a directory itself. -/
def isPlainName (name : String) : Bool :=
  !(name.isEmpty || name.toList.contains '/' || name.toList.contains '\\' || name == "." ||
    name == "..")

end SchemaCrosswalk
