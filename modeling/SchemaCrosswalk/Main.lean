import Std.Time.DateTime.Timestamp
import SchemaCrosswalk.CommandLine

/-!
# Main — the program

The files that an invocation may need are read into a file tree, the invocation is carried out on
it, and what has changed is written back.

- `collect`: the file tree of an invocation
- `publish`: the changes to a file tree on disk
-/

namespace SchemaCrosswalk.Main

open CommandLine

/-! ## Files -/

/-- The tree with what lies at a path on disk, if anything does. -/
def plantPath (t : FileTree) (path : String) : IO FileTree := do
  let place := (← IO.currentDir) / path
  if ← place.isDir then return t.plant path none
  else if ← place.pathExists then
    try return t.plant path (some (← IO.FS.readFile place))
    catch _ => return t
  else return t

/-- The tree with a directory on disk and the files in it. -/
def plantDirectory (t : FileTree) (path : String) : IO FileTree := do
  let t ← plantPath t path
  let place := (← IO.currentDir) / path
  if ← place.isDir then
    (← place.readDir).foldlM (fun t e => plantPath t (Path.join path e.fileName)) t
  else return t

/-- The files that an invocation may read: the configuration and what it names. -/
def collect (i : Invocation) : IO FileTree := do
  let configFile := i.config.getD defaultConfig
  let t ← plantPath {} configFile
  let config := (Configuration.load t configFile).toOption.getD {}
  let t ← config.directories.foldlM plantDirectory t
  match config.snapshot with
  | some path => plantPath t path
  | none => return t

/-- Write to disk what differs between two trees. -/
def publish (before after : FileTree) : IO Unit := do
  for (path, e) in after.entries.entries do
    if before.entries.get? path != some e then
      match e with
      | .directory => IO.FS.createDirAll path
      | .file text => IO.FS.writeFile path text
  for (path, _) in before.files do
    if (after.entries.get? path).isNone then IO.FS.removeFile path

/-- The present time. -/
def currentTime : IO Timestamp := do
  let passed := (← Std.Time.Timestamp.now).val
  let seconds : Int := passed.second.val
  let day := seconds / 86400
  return { day, second := (seconds - day * 86400).toNat, nanos := passed.nano.val.toNat }

/-! ## Running -/

/-- Carry out an invocation and tell of it. -/
def execute (i : Invocation) : IO UInt32 := do
  let files ← collect i
  let e := i.execute files (← currentTime)
  publish files e.files
  IO.print e.output
  for warning in e.warnings do
    IO.eprintln ("WARN " ++ warning)
  if let some fault := e.failure then IO.eprintln fault.report
  return e.exitCode.toUInt32

end SchemaCrosswalk.Main

/-- Run the program on its arguments. -/
def main (arguments : List String) : IO UInt32 := do
  match SchemaCrosswalk.CommandLine.Invocation.ofArguments arguments with
  | .ok i => SchemaCrosswalk.Main.execute i
  | .error refusal =>
      let (code, text) := refusal.answer
      if code = 0 then IO.println text else IO.eprintln text
      return code.toUInt32
