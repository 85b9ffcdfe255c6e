import SchemaCrosswalk.Catalog
import SchemaCrosswalk.Yaml.Form

/-!
# Configurations — directories, artifacts and groups of services

- `Configuration.ofText`: the configuration that a text holds
- `Configuration.load`: the configuration in a file, with paths taken from its directory
- `resolveGroup`: the group that a service belongs to
-/

namespace SchemaCrosswalk

/-- Services that read from one source engine and share their overrides. -/
structure SourceGroup where
  name : String
  engine : String
  services : List String := []
  deriving DecidableEq, Repr

/-- The canonical name of the engine of a group. -/
def SourceGroup.engineName (g : SourceGroup) : String := Engine.normalize g.engine

/-- Where everything is found and kept. -/
structure Configuration where
  artifacts : ArtifactSettings := {}
  overridesDirectory : String := "overrides"
  mappingsDirectory : String := "mappings"
  snapshot : Option String := none
  sourceGroups : List SourceGroup := []
  deriving DecidableEq, Repr, Inhabited

namespace Configuration

/-! ## Reading -/

open Yaml in
/-- The form of the settings for artifacts. -/
def artifactsForm : Form ArtifactSettings :=
  Form.record ["compatibility_paths", "typemap_paths", "strip_type_parameters", "use_builtins"] []
    fun f => do
      let compatibilityPaths ← f.orElse "compatibility_paths" [] (Form.list Form.string)
      let typemapPaths ← f.orElse "typemap_paths" [] (Form.list Form.string)
      let stripTypeParameters ← f.orElse "strip_type_parameters" true Form.bool
      let useBuiltins ← f.orElse "use_builtins" true Form.bool
      return { compatibilityPaths, typemapPaths, stripTypeParameters, useBuiltins }

open Yaml in
/-- The form of a group. -/
def groupForm : Form SourceGroup :=
  Form.record ["name", "engine", "services"] [] fun f => do
    let name ← f.required "name" Form.string
    let engine ← f.required "engine" Form.string
    let services ← f.orElse "services" [] (Form.list Form.string)
    return { name, engine, services }

open Yaml in
/-- The form of a configuration. -/
def form : Form Configuration :=
  Form.record ["artifacts", "overrides_dir", "mappings_dir", "snapshot", "source_groups"] []
    fun f => do
      let artifacts ← f.orElse "artifacts" {} artifactsForm
      let overridesDirectory ← f.orElse "overrides_dir" "overrides" Form.string
      let mappingsDirectory ← f.orElse "mappings_dir" "mappings" Form.string
      let snapshot ← f.optional "snapshot" Form.string
      let sourceGroups ← f.orElse "source_groups" [] (Form.list groupForm)
      return { artifacts, overridesDirectory, mappingsDirectory, snapshot, sourceGroups }

/-! ## Validity -/

/-- What is wrong with the groups, those before them having the given names in lower case. -/
def groupFlaw? (seen : List String) : List SourceGroup → Option Misconfiguration
  | [] => none
  | g :: groups =>
      if Text.isBlankText g.name then some .groupWithoutName
      else if seen.contains (Text.toLowercase g.name) then some (.duplicateGroup g.name)
      else if Text.isBlankText g.engine then some (.groupWithoutEngine g.name)
      else if g.services.any Text.isBlankText then some (.blankService g.name)
      else groupFlaw? (Text.toLowercase g.name :: seen) groups

/-- What is wrong with a configuration, if anything. -/
def flaw? (c : Configuration) : Option Misconfiguration :=
  let a := c.artifacts
  if !a.useBuiltins && a.compatibilityPaths.isEmpty && a.typemapPaths.isEmpty then
    some .noArtifactSource
  else if c.overridesDirectory.isEmpty then some (.emptyDirectory "overrides_dir")
  else if c.mappingsDirectory.isEmpty then some (.emptyDirectory "mappings_dir")
  else groupFlaw? [] c.sourceGroups

/-- Fail if something is wrong with a configuration. -/
def validate (c : Configuration) : Outcome Unit :=
  match c.flaw? with
  | some flaw => .error (Fault.ofCause flaw)
  | none => .ok ()

/-- The configuration with its relative paths taken from a directory. -/
def relativeTo (c : Configuration) (base : String) : Configuration :=
  let within (path : String) := Path.join base path
  { c with
    artifacts := { c.artifacts with
      compatibilityPaths := c.artifacts.compatibilityPaths.map within
      typemapPaths := c.artifacts.typemapPaths.map within }
    overridesDirectory := within c.overridesDirectory
    mappingsDirectory := within c.mappingsDirectory
    snapshot := c.snapshot.map within }

/-- The configuration that a text holds, if it is valid. -/
def ofText (text : String) : Outcome Configuration := do
  let c ← (form.read text).mapError Fault.document
  c.validate
  return c

/-- The configuration in a file, if it is valid; its paths are taken from the directory of the
file. -/
def load (files : FileTree) (path : String) : Outcome Configuration := do
  let text ← (files.read path).mapError Fault.file
  let c ← (form.read text).mapError fun reason =>
    Fault.inDocument path (.malformed .configuration reason)
  let c := c.relativeTo (Path.parent path)
  c.validate
  return c

/-- The directories whose files are read or changed. -/
def directories (c : Configuration) : List String :=
  c.artifacts.compatibilityPaths ++ c.artifacts.typemapPaths ++
    [c.overridesDirectory, c.mappingsDirectory]

/-! ## Groups -/

/-- The group that a service belongs to, if any; it may belong to one only. -/
def resolveGroup (c : Configuration) (service : String) : Outcome (Option SourceGroup) :=
  match c.sourceGroups.filter fun g => g.services.any fun s => Text.namesMatch s service with
  | [] => .ok none
  | [g] => .ok (some g)
  | many => .error (Fault.ofCause (.ambiguousService service (many.map (·.name))))

/-- The group of a name. -/
def group? (c : Configuration) (name : String) : Option SourceGroup :=
  c.sourceGroups.find? fun g => Text.namesMatch g.name name

end Configuration

end SchemaCrosswalk
