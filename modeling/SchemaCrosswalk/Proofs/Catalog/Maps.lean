import SchemaCrosswalk.Proofs.Catalog.Runs

/-!
# Maps — which compatibility map a catalog answers with

The map of a pair of engines is the one registered last, or else the one that was found first since
the catalog was last told to forget, as the files were then, or else the one that the files hold
now.

- `LoadsMap`: the artifact that a map is loaded from
- `loadsMap_iff`: that is how maps are loaded
- `MapAnswer`: the map to answer with after a sequence of requests
- `answer_run`: that is what the catalog answers with, and look-ups that fail change nothing
-/

namespace SchemaCrosswalk

theorem FileTree.isFile_iff {files : FileTree} {path : String} :
    files.isFile path = true ↔ ∃ text, files.entry path = .ok (.file text) := by
  unfold isFile
  rcases files.entry path with problem | ⟨text⟩ | _
  · simp
  · simp
  · simp

theorem FileTree.read_of_entry {files : FileTree} {path text : String}
    (h : files.entry path = .ok (.file text)) : files.read path = .ok text := by
  unfold read
  rw [h]
  rfl

namespace Catalog

variable {settings : ArtifactSettings} {files : FileTree} {source sink : String}
variable {o : Outcome CompatibilityMap}

/-! ## Loading -/

/-- The paths where a file with the map of a pair of canonical engines may lie. -/
def mapPaths (settings : ArtifactSettings) (source sink : String) : List String :=
  candidates settings.compatibilityPaths (mapFiles source sink)

/-- What loading the map of a pair of canonical engines gives: the map in the first file of the pair
in the search directories, or else the first bundled map of the pair, if bundled maps are used. -/
inductive LoadsMap (settings : ArtifactSettings) (files : FileTree) (source sink : String) :
    Outcome CompatibilityMap → Prop
  | file {before after : List String} {path text : String}
      (hpaths : mapPaths settings source sink = before ++ path :: after)
      (hbefore : ∀ earlier ∈ before, files.isFile earlier = false)
      (hfile : files.entry path = .ok (.file text)) :
      LoadsMap settings files source sink
        (CompatibilityMap.ofText text source sink path settings.stripTypeParameters)
  | bundled {before after : List String} {name : String} {d : CompatibilityMap.Document}
      (hpaths : ∀ path ∈ mapPaths settings source sink, files.isFile path = false)
      (huse : settings.useBuiltins = true)
      (hnames : mapFiles source sink = before ++ name :: after)
      (hbefore : ∀ earlier ∈ before, Bundled.map? earlier = none)
      (hdocument : Bundled.map? name = some d) :
      LoadsMap settings files source sink
        (CompatibilityMap.ofDocument d source sink (Bundled.origin name)
          settings.stripTypeParameters)
  | missing
      (hpaths : ∀ path ∈ mapPaths settings source sink, files.isFile path = false)
      (hbundled : settings.useBuiltins = true →
        ∀ name ∈ mapFiles source sink, Bundled.map? name = none) :
      LoadsMap settings files source sink
        (.error (.artifactNotFound source sink (mapFiles source sink) settings.compatibilityPaths))

/-- The bundled map of a pair of canonical engines, with its name, if bundled maps are used. -/
def bundledMap? (settings : ArtifactSettings) (source sink : String) :
    Option (String × CompatibilityMap.Document) :=
  if settings.useBuiltins then
    (mapFiles source sink).findSome? fun name => (Bundled.map? name).map fun d => (name, d)
  else none

theorem loadMap_of_findFile?_eq_some {path text : String}
    (hfind : findFile? files settings.compatibilityPaths (mapFiles source sink) = some path)
    (hfile : files.entry path = .ok (.file text)) :
    loadMap settings files source sink =
      CompatibilityMap.ofText text source sink path settings.stripTypeParameters := by
  unfold loadMap
  simp only [hfind, FileTree.read_of_entry hfile]
  rfl

theorem loadMap_of_bundledMap?_eq_some {name : String} {d : CompatibilityMap.Document}
    (hfind : findFile? files settings.compatibilityPaths (mapFiles source sink) = none)
    (hbundled : bundledMap? settings source sink = some (name, d)) :
    loadMap settings files source sink =
      CompatibilityMap.ofDocument d source sink (Bundled.origin name)
        settings.stripTypeParameters := by
  unfold bundledMap? at hbundled
  unfold loadMap
  simp only [hfind, hbundled]

theorem loadMap_of_bundledMap?_eq_none
    (hfind : findFile? files settings.compatibilityPaths (mapFiles source sink) = none)
    (hbundled : bundledMap? settings source sink = none) :
    loadMap settings files source sink =
      .error (.artifactNotFound source sink (mapFiles source sink)
        settings.compatibilityPaths) := by
  unfold bundledMap? at hbundled
  unfold loadMap
  simp only [hfind, hbundled]
  rfl

theorem findFile?_mapFiles_eq_some_iff {path : String} :
    findFile? files settings.compatibilityPaths (mapFiles source sink) = some path ↔
      (∃ text, files.entry path = .ok (.file text)) ∧
        ∃ before after, mapPaths settings source sink = before ++ path :: after ∧
          ∀ earlier ∈ before, files.isFile earlier = false := by
  unfold findFile? mapPaths
  rw [List.find?_eq_some_iff_append, FileTree.isFile_iff]
  simp only [Bool.not_eq_true']

theorem findFile?_mapFiles_eq_none_iff :
    findFile? files settings.compatibilityPaths (mapFiles source sink) = none ↔
      ∀ path ∈ mapPaths settings source sink, files.isFile path = false := by
  unfold findFile? mapPaths
  rw [List.find?_eq_none]
  simp only [Bool.not_eq_true]

theorem bundledMap?_eq_some_iff {name : String} {d : CompatibilityMap.Document} :
    bundledMap? settings source sink = some (name, d) ↔
      settings.useBuiltins = true ∧ Bundled.map? name = some d ∧
        ∃ before after, mapFiles source sink = before ++ name :: after ∧
          ∀ earlier ∈ before, Bundled.map? earlier = none := by
  unfold bundledMap?
  rw [Option.ite_none_right_eq_some, List.findSome?_eq_some_iff]
  simp only [Option.map_eq_some_iff, Option.map_eq_none_iff, Prod.mk.injEq]
  constructor
  · rintro ⟨huse, before, name', after, hnames, ⟨d', hd, rfl, rfl⟩, hbefore⟩
    exact ⟨huse, hd, before, after, hnames, hbefore⟩
  · rintro ⟨huse, hd, before, after, hnames, hbefore⟩
    exact ⟨huse, before, name, after, hnames, ⟨d, hd, rfl, rfl⟩, hbefore⟩

theorem bundledMap?_eq_none_iff :
    bundledMap? settings source sink = none ↔
      (settings.useBuiltins = true → ∀ name ∈ mapFiles source sink, Bundled.map? name = none) := by
  unfold bundledMap?
  rw [ite_eq_right_iff, List.findSome?_eq_none_iff]
  simp only [Option.map_eq_none_iff]

/-- Maps are loaded in this way and in no other. -/
theorem loadsMap_iff :
    LoadsMap settings files source sink o ↔ o = loadMap settings files source sink := by
  constructor
  · intro h
    cases h with
    | file hpaths hbefore hfile =>
        have hfind := findFile?_mapFiles_eq_some_iff.2 ⟨⟨_, hfile⟩, _, _, hpaths, hbefore⟩
        exact (loadMap_of_findFile?_eq_some hfind hfile).symm
    | bundled hpaths huse hnames hbefore hdocument =>
        have hfind := findFile?_mapFiles_eq_none_iff.2 hpaths
        have hbundled := bundledMap?_eq_some_iff.2 ⟨huse, hdocument, _, _, hnames, hbefore⟩
        exact (loadMap_of_bundledMap?_eq_some hfind hbundled).symm
    | missing hpaths hbundled =>
        have hfind := findFile?_mapFiles_eq_none_iff.2 hpaths
        exact (loadMap_of_bundledMap?_eq_none hfind (bundledMap?_eq_none_iff.2 hbundled)).symm
  · rintro rfl
    cases hfind : findFile? files settings.compatibilityPaths (mapFiles source sink) with
    | some path =>
        obtain ⟨⟨text, hfile⟩, before, after, hpaths, hbefore⟩ :=
          findFile?_mapFiles_eq_some_iff.1 hfind
        rw [loadMap_of_findFile?_eq_some hfind hfile]
        exact .file hpaths hbefore hfile
    | none =>
        have hpaths := findFile?_mapFiles_eq_none_iff.1 hfind
        cases hbundled : bundledMap? settings source sink with
        | some found =>
            obtain ⟨name, d⟩ := found
            obtain ⟨huse, hdocument, before, after, hnames, hbefore⟩ :=
              bundledMap?_eq_some_iff.1 hbundled
            rw [loadMap_of_bundledMap?_eq_some hfind hbundled]
            exact .bundled hpaths huse hnames hbefore hdocument
        | none =>
            rw [loadMap_of_bundledMap?_eq_none hfind hbundled]
            exact .missing hpaths (bundledMap?_eq_none_iff.1 hbundled)

/-- Loading the map of a pair looks at no other path than those of the pair itself. -/
theorem LoadsMap.congr {files' : FileTree}
    (hentry : ∀ path ∈ mapPaths settings source sink, files'.entry path = files.entry path)
    (h : LoadsMap settings files source sink o) : LoadsMap settings files' source sink o := by
  have hisFile : ∀ path ∈ mapPaths settings source sink,
      files'.isFile path = files.isFile path := by
    intro path hmem
    unfold FileTree.isFile
    rw [hentry path hmem]
  -- Whatever decided between the three cases is the same in the other tree.
  cases h with
  | @file before after path text hpaths hbefore hfile =>
      have hsubset : ∀ earlier ∈ before, earlier ∈ mapPaths settings source sink := by
        intro earlier hmem
        rw [hpaths]
        exact List.mem_append_left _ hmem
      have hpath : path ∈ mapPaths settings source sink := by
        rw [hpaths]
        exact List.mem_append_right _ List.mem_cons_self
      refine .file hpaths (fun earlier hmem => ?_) ((hentry path hpath).trans hfile)
      rw [hisFile earlier (hsubset earlier hmem), hbefore earlier hmem]
  | bundled hpaths huse hnames hbefore hdocument =>
      refine .bundled (fun path hmem => ?_) huse hnames hbefore hdocument
      rw [hisFile path hmem, hpaths path hmem]
  | missing hpaths hbundled =>
      refine .missing (fun path hmem => ?_) hbundled
      rw [hisFile path hmem, hpaths path hmem]

/-! ## Sequences of requests -/

/-- The map to answer with after a sequence of requests: the one registered last for the pair of
canonical engines, or else the one found first since the catalog was last told to forget, loaded
from the files as they were then, or else what is loaded from the files as they are. -/
inductive MapAnswer (settings : ArtifactSettings) (events : List Event) (files : FileTree)
    (source sink : String) : Outcome CompatibilityMap → Prop
  | registered {m : CompatibilityMap} (hlast : registeredMap? events source sink = some m) :
      MapAnswer settings events files source sink (.ok m)
  | kept {before : List Event} {e : Event} {m : CompatibilityMap}
      (hnone : registeredMap? events source sink = none)
      (hfirst : FirstFound (mapFound? source sink) settings events before e m)
      (hload : LoadsMap settings e.files source sink (.ok m)) :
      MapAnswer settings events files source sink (.ok m)
  | loaded {o : Outcome CompatibilityMap}
      (hnone : registeredMap? events source sink = none)
      (hnever : ∀ before e m, ¬FoundSince (mapFound? source sink) settings events before e m)
      (hload : LoadsMap settings files source sink o) :
      MapAnswer settings events files source sink o

/-- The map of a pair that was found first was loaded from the files as they were then. -/
theorem loadsMap_of_firstFound {events before : List Event} {e : Event} {m : CompatibilityMap}
    (hnone : registeredMap? events source sink = none)
    (hfirst : FirstFound (mapFound? source sink) settings events before e m) :
    LoadsMap settings e.files source sink (.ok m) := by
  have hregistered := (get?_registeredMaps_run settings events source sink).trans hnone
  obtain ⟨hregistered, hkept⟩ :=
    (maps_keeping source sink).unknown_of_firstFound hregistered hfirst
  have hfound := hfirst.found
  unfold mapFound? at hfound
  split at hfound
  · rename_i sourceEngine sinkEngine heq
    obtain ⟨⟨hsource, hsink⟩, hanswer⟩ := Option.ite_none_right_eq_some.1 hfound
    have hknown : (run settings before).known? (Engine.normalize sourceEngine)
        (Engine.normalize sinkEngine) = none := by
      rw [← hsource, ← hsink]
      exact Option.or_eq_none_iff.2 ⟨hregistered, hkept⟩
    have hok := eq_ok_of_toOption hanswer
    -- Nothing was known of the pair, so the map was loaded.
    rw [answer_eq, hknown] at hok
    dsimp only at hok
    rw [settings_run, ← hsource, ← hsink] at hok
    exact loadsMap_iff.2 hok.symm
  · cases hfound

theorem mapAnswer_answer (settings : ArtifactSettings) (events : List Event) (files : FileTree)
    (sourceEngine sinkEngine : String) :
    MapAnswer settings events files (Engine.normalize sourceEngine) (Engine.normalize sinkEngine)
      ((run settings events).answer files sourceEngine sinkEngine) := by
  rw [answer_eq]
  unfold known?
  have hkeeping := maps_keeping (Engine.normalize sourceEngine) (Engine.normalize sinkEngine)
  rw [get?_registeredMaps_run]
  cases hlast : registeredMap? events (Engine.normalize sourceEngine)
      (Engine.normalize sinkEngine) with
  | some m => exact .registered hlast
  | none =>
      have hregistered := (get?_registeredMaps_run settings events _ _).trans hlast
      rw [Option.none_or]
      cases hkept : (run settings events).maps.get? (Engine.normalize sourceEngine)
          (Engine.normalize sinkEngine) with
      | some m =>
          obtain ⟨before, e, hfirst⟩ := (hkeeping.kept_run_iff hregistered).1 hkept
          exact .kept hlast hfirst (loadsMap_of_firstFound hlast hfirst)
      | none =>
          have hnever := (hkeeping.kept_run_eq_none_iff hregistered).1 hkept
          dsimp only
          rw [settings_run]
          exact .loaded hlast hnever (loadsMap_iff.2 rfl)

/-- After any sequence of requests, with the files changing in between, a pair of engines in any
spelling is answered with the map registered last for it, or else with the one that was loaded when
it was first found since the catalog was last told to forget, or else with the one that is loaded
now. Loading looks at the artifacts of this pair only, not at those of the reverse one, and after a
look-up that failed everything goes on as if it had not been made. -/
theorem answer_run (settings : ArtifactSettings) (events : List Event) (files : FileTree)
    (sourceEngine sinkEngine : String) :
    MapAnswer settings events files (Engine.normalize sourceEngine) (Engine.normalize sinkEngine)
        ((run settings events).answer files sourceEngine sinkEngine) ∧
      (∀ source sink files' o,
        (∀ path ∈ mapPaths settings source sink, files'.entry path = files.entry path) →
          (LoadsMap settings files' source sink o ↔ LoadsMap settings files source sink o)) ∧
      ∀ e later, e.Fails (run settings events) →
        run settings (events ++ e :: later) = run settings (events ++ later) := by
  refine ⟨mapAnswer_answer settings events files sourceEngine sinkEngine, ?_, ?_⟩
  · intro source sink files' o hentry
    exact ⟨LoadsMap.congr fun path hmem => (hentry path hmem).symm, LoadsMap.congr hentry⟩
  · intro e later hfails
    exact run_append_of_fails hfails later

end Catalog

end SchemaCrosswalk
