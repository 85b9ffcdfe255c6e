import SchemaCrosswalk.Dictionary
import SchemaCrosswalk.Text.Blank

/-!
# File trees — directories and the texts of files

A file tree holds what lies below the working directory. Paths are written with `/`; the tree
knows every file and directory under its path from the top, without `.` and `..`.

- `Path.join`, `Path.parent`: paths as texts
- `exists?`, `isFile`, `read`: what is there
- `createDirectories`, `write`, `rename`, `remove`: the changes
-/

namespace SchemaCrosswalk

/-! ## Paths -/

namespace Path

/-- Whether a path starts at the root. -/
def isAbsolute (path : String) : Bool := path.toList.head? == some '/'

/-- A path inside a directory. An absolute path stays as it is. -/
def join (base path : String) : String :=
  if isAbsolute path || base.isEmpty then path
  else if base.toList.getLast? == some '/' then base ++ path
  else base ++ "/" ++ path

/-- The reversed characters of a path without slashes and names `.` at its end, where something
stands before them. -/
def dropEnd : List Char → List Char
  | '/' :: cs => dropEnd cs
  | '.' :: '/' :: cs => dropEnd cs
  | cs => cs

/-- The characters before the last name of a path. -/
def parentChars (cs : List Char) : List Char :=
  let upper := dropEnd ((dropEnd cs.reverse).dropWhile (· != '/'))
  if upper.isEmpty && cs.head? == some '/' then ['/'] else upper.reverse

/-- The directory that a path lies in; empty for a bare name. -/
def parent (path : String) : String := String.ofList (parentChars path.toList)

/-- The names of a path in order. -/
def components (path : String) : List String :=
  ((Text.splitOn '/' path.toList).map String.ofList).filter (fun c => !c.isEmpty && c != ".")

/-- Whether a path can name a directory only, because of how it ends. -/
def namesDirectory (path : String) : Bool :=
  match ((Text.splitOn '/' path.toList).map String.ofList).getLast? with
  | some last => last.isEmpty || last == "." || last == ".."
  | none => true

end Path

/-! ## Trees -/

/-- What lies at a path. -/
inductive FileEntry
  | file (text : String)
  | directory
  deriving DecidableEq, Repr

/-- Why a file could not be reached. -/
inductive FileProblem
  | missing
  | exists
  | notDirectory
  | isDirectory
  | nameTooLong
  | nulInName
  | other (text : String)
  deriving DecidableEq, Repr

/-- The problem in words. -/
def FileProblem.message : FileProblem → String
  | .missing => "No such file or directory (os error 2)"
  | .exists => "File exists (os error 17)"
  | .notDirectory => "Not a directory (os error 20)"
  | .isDirectory => "Is a directory (os error 21)"
  | .nameTooLong => "File name too long (os error 36)"
  | .nulInName => "file name contained an unexpected NUL byte"
  | .other text => text

/-- What lies below the working directory and around it, under paths without `.` and with `..` at
the start only. -/
structure FileTree where
  entries : Dictionary FileEntry := Dictionary.empty
  deriving Inhabited

namespace FileTree

/-- The longest name, in bytes. -/
def nameLimit : Nat := 255

/-- The longest path, in bytes. -/
def pathLimit : Nat := 4095

/-- The name of the root among the names of a place. -/
def rootName : String := "/"

/-- The key of a place, given by its names from the innermost outwards. -/
def key (place : List String) : String := "/".intercalate place.reverse

/-- Whether a place is the working directory, a directory that it lies in, or the root. -/
def isTop (place : List String) : Bool := place.all (· == "..") || place == [rootName]

/-- What lies at a place. -/
def entryAt? (t : FileTree) (place : List String) : Option FileEntry :=
  if isTop place then some .directory else t.entries.get? (key place)

/-- The place that a name leads to from another place. -/
def child (place : List String) (name : String) : List String :=
  if name != ".." then name :: place
  else if place == [rootName] then place
  else if isTop place then ".." :: place
  else place.tail

/-- The place reached from another one by names, all but the last being directories. The place
itself need not exist. -/
def walk (t : FileTree) : List String → List String → Except FileProblem (List String)
  | place, [] => .ok place
  | place, name :: names =>
      match t.entryAt? place with
      | none => .error .missing
      | some (.file _) => .error .notDirectory
      | some .directory =>
          if nameLimit < name.utf8ByteSize then .error .nameTooLong
          else walk t (child place name) names

/-- Where a path starts. -/
def start (path : String) : List String := if Path.isAbsolute path then [rootName] else []

/-- What is wrong with a path itself. -/
def pathProblem? (path : String) : Option FileProblem :=
  if path.toList.contains '\x00' then some .nulInName
  else if pathLimit < path.utf8ByteSize then some .nameTooLong
  else none

/-- The place that a path names. -/
def locate (t : FileTree) (path : String) : Except FileProblem (List String) :=
  match pathProblem? path with
  | some problem => .error problem
  | none =>
      if path.isEmpty then .error .missing
      else t.walk (start path) (Path.components path)

/-- What a path names, or why it names nothing. -/
def entry (t : FileTree) (path : String) : Except FileProblem FileEntry := do
  match t.entryAt? (← t.locate path) with
  | none => .error .missing
  | some (.file text) =>
      if Path.namesDirectory path then .error .notDirectory else .ok (.file text)
  | some .directory => .ok .directory

/-- Whether a path names something. -/
def contains (t : FileTree) (path : String) : Bool :=
  match t.entry path with
  | .ok _ => true
  | .error _ => false

/-- Whether a path names a file. -/
def isFile (t : FileTree) (path : String) : Bool :=
  match t.entry path with
  | .ok (.file _) => true
  | _ => false

/-- The text of a file. -/
def read (t : FileTree) (path : String) : Except FileProblem String := do
  match ← t.entry path with
  | .file text => .ok text
  | .directory => .error .isDirectory

/-- The tree with one entry set. -/
def set (t : FileTree) (place : List String) (e : FileEntry) : FileTree :=
  ⟨t.entries.insert (key place) e⟩

/-- Replace the text of a file or create it; its directory has to exist. -/
def write (t : FileTree) (path text : String) : Except FileProblem FileTree := do
  let place ← t.locate path
  match t.entryAt? place, Path.namesDirectory path with
  | some .directory, _ | none, true => .error .isDirectory
  | some (.file _), true => .error .notDirectory
  | _, false => .ok (t.set place (.file text))

/-- Make every directory along the names that is missing. On failure those made so far stay. -/
def makeAlong (t : FileTree) : List String → List String → FileTree × Except FileProblem Unit
  | _, [] => (t, .ok ())
  | place, name :: names =>
      let next := child place name
      if nameLimit < name.utf8ByteSize then (t, .error .nameTooLong)
      else
        match t.entryAt? next with
        | some .directory => makeAlong t next names
        | some (.file _) => (t, .error (if names.isEmpty then .exists else .notDirectory))
        | none => makeAlong (t.set next .directory) next names

/-- Make a directory and those it lies in. On failure those made so far stay. -/
def createDirectories (t : FileTree) (path : String) : FileTree × Except FileProblem Unit :=
  match pathProblem? path with
  | some problem => (t, .error problem)
  | none => t.makeAlong (start path) (Path.components path)

/-- The tree with a file or, without a text, a directory at a path, and the directories that it lies
in. Nothing is changed where that cannot be. -/
def plant (t : FileTree) (path : String) (text : Option String) : FileTree :=
  match text with
  | none => (t.createDirectories path).1
  | some text =>
      let (made, _) := t.createDirectories (Path.parent path)
      (made.write path text).toOption.getD t

/-- Move a file to another path, over the file that is there. -/
def rename (t : FileTree) (source target : String) : Except FileProblem FileTree := do
  let text ← t.read source
  let place ← t.locate source
  let moved := { t with entries := t.entries.erase (key place) }
  moved.write target text

/-- Remove a file. -/
def remove (t : FileTree) (path : String) : Except FileProblem FileTree := do
  let _ ← t.read path
  .ok { t with entries := t.entries.erase (key (← t.locate path)) }

/-- The paths and texts of all files, in the order of their paths. -/
def files (t : FileTree) : List (String × String) :=
  t.entries.entries.filterMap fun (path, e) =>
    match e with
    | .file text => some (path, text)
    | .directory => none

end FileTree

end SchemaCrosswalk
