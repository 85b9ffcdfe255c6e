import SchemaCrosswalk.Catalog.Bundled
import SchemaCrosswalk.Checker
import SchemaCrosswalk.FileTree
import SchemaCrosswalk.PairTable

/-!
# Catalogs — where maps and translations come from

A catalog finds the artifact of an ordered pair of engines: one that was registered, one that was
found before, one in the search directories, or a bundled one. A translation is also found by
inverting that of the reverse pair.

- `Catalog.map`: the compatibility map of a pair
- `Catalog.translation`: the type translation of a pair
- `register…`, `invalidate`, `cachedPairs`: what the catalog holds
-/

namespace SchemaCrosswalk

/-- Where artifacts are looked for, and how they are read. -/
structure ArtifactSettings where
  compatibilityPaths : List String := []
  typemapPaths : List String := []
  stripTypeParameters : Bool := true
  useBuiltins : Bool := true
  deriving DecidableEq, Repr, Inhabited

/-- The artifacts found and registered so far. -/
structure Catalog where
  settings : ArtifactSettings := {}
  maps : PairTable CompatibilityMap := PairTable.empty
  translations : PairTable Translation := PairTable.empty
  registeredMaps : PairTable CompatibilityMap := PairTable.empty
  registeredTranslations : PairTable Translation := PairTable.empty
  deriving Inhabited

namespace Catalog

/-! ## Files -/

/-- The names of the files that may hold the map of a pair. -/
def mapFiles (source sink : String) : List String :=
  [s!"{source}_to_{sink}.yaml", s!"{source}_to_{sink}.yml"]

/-- The names of the files that may hold the translation of a pair. -/
def translationFiles (source sink : String) : List String :=
  [s!"{source}_to_{sink}.typemap.yaml", s!"{source}_to_{sink}.typemap.yml"]

/-- The paths where a file of one of the names may lie, by directory. -/
def candidates (directories names : List String) : List String :=
  directories.flatMap fun directory => names.map fun name => Path.join directory name

/-- The first file of one of the names in the directories. -/
def findFile? (files : FileTree) (directories names : List String) : Option String :=
  (candidates directories names).find? files.isFile

/-! ## Loading -/

/-- The map of a pair from the search directories or the bundled ones. -/
def loadMap (settings : ArtifactSettings) (files : FileTree) (source sink : String) :
    Outcome CompatibilityMap := do
  let names := mapFiles source sink
  let strip := settings.stripTypeParameters
  match findFile? files settings.compatibilityPaths names with
  | some path =>
      let text ← (files.read path).mapError Fault.file
      CompatibilityMap.ofText text source sink path strip
  | none =>
      let bundled := if settings.useBuiltins then
        names.findSome? fun name => (Bundled.map? name).map fun d => (name, d)
      else none
      match bundled with
      | some (name, d) => CompatibilityMap.ofDocument d source sink (Bundled.origin name) strip
      | none => throw (.artifactNotFound source sink names settings.compatibilityPaths)

/-- The translation declared for a pair in the search directories or among the bundled ones, if
there is one. -/
def loadTranslation? (settings : ArtifactSettings) (files : FileTree) (source sink : String) :
    Outcome (Option Translation) := do
  let names := translationFiles source sink
  match findFile? files settings.typemapPaths names with
  | some path =>
      let text ← (files.read path).mapError Fault.file
      return some (← Translation.ofText text source sink path)
  | none =>
      let bundled := if settings.useBuiltins then
        names.findSome? fun name => (Bundled.translation? name).map fun d => (name, d)
      else none
      match bundled with
      | some (name, d) => return some (← Translation.ofDocument d source sink (Bundled.origin name))
      | none => return none

/-- The translation of a pair that is declared for it, or else the inverse of the one registered or
declared for the reverse pair. -/
def loadTranslation (c : Catalog) (files : FileTree) (source sink : String) :
    Outcome Translation := do
  match ← loadTranslation? c.settings files source sink with
  | some direct => return direct
  | none =>
      match c.registeredTranslations.get? sink source with
      | some reverse => return reverse.invert
      | none =>
          match ← loadTranslation? c.settings files sink source with
          | some reverse => return reverse.invert
          | none =>
              throw (.artifactNotFound source sink
                (translationFiles source sink ++ translationFiles sink source)
                c.settings.typemapPaths)

/-! ## Look-ups -/

/-- The compatibility map of an ordered pair of engines. A map that is loaded is kept. -/
def map (c : Catalog) (files : FileTree) (sourceEngine sinkEngine : String) :
    Outcome (CompatibilityMap × Catalog) := do
  let source := Engine.normalize sourceEngine
  let sink := Engine.normalize sinkEngine
  match (c.registeredMaps.get? source sink).or (c.maps.get? source sink) with
  | some m => return (m, c)
  | none =>
      let m ← loadMap c.settings files source sink
      return (m, { c with maps := c.maps.put source sink m })

/-- The type translation of an ordered pair of engines. A translation that is loaded is kept. -/
def translation (c : Catalog) (files : FileTree) (sourceEngine sinkEngine : String) :
    Outcome (Translation × Catalog) := do
  let source := Engine.normalize sourceEngine
  let sink := Engine.normalize sinkEngine
  match (c.registeredTranslations.get? source sink).or (c.translations.get? source sink) with
  | some t => return (t, c)
  | none =>
      let t ← c.loadTranslation files source sink
      return (t, { c with translations := c.translations.put source sink t })

/-! ## Changes -/

/-- Use a map for its pair of engines, whatever the search directories hold. -/
def registerMap (c : Catalog) (m : CompatibilityMap) : Catalog :=
  let source := Engine.normalize m.sourceEngine
  let sink := Engine.normalize m.sinkEngine
  { c with registeredMaps := c.registeredMaps.put source sink m }

/-- Use a translation for its pair of engines, whatever the search directories hold. -/
def registerTranslation (c : Catalog) (t : Translation) : Catalog :=
  let source := Engine.normalize t.sourceEngine
  let sink := Engine.normalize t.sinkEngine
  { c with registeredTranslations := c.registeredTranslations.put source sink t }

/-- Forget what was found in files; registered artifacts stay. -/
def invalidate (c : Catalog) : Catalog :=
  { c with maps := PairTable.empty, translations := PairTable.empty }

/-- The pairs of engines with a map or a translation that is kept, in order. -/
def cachedPairs (c : Catalog) : List (String × String) :=
  let all : PairTable Unit := (c.maps.pairs ++ c.translations.pairs).foldl
    (fun t p => t.put p.1 p.2 ()) PairTable.empty
  all.pairs

end Catalog

end SchemaCrosswalk
