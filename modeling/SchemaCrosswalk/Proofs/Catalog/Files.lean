import Mathlib.Data.List.Find
import SchemaCrosswalk.Proofs.Catalog.Maps
import SchemaCrosswalk.Proofs.Files.Place

/-!
# Files — where the artifacts of a pair of engines lie

The files of a pair are named by its two engines with `_to_` between them, and lie in the search
directories. What is loaded for a pair depends on nothing else in a tree. For engines without
slashes in their names the files are in the search directories themselves, and two pairs have a file
in common only if their names read alike once they are written one behind the other.

- `EnginePair.Regroups`: pairs whose names read alike because `_to_` stands in one of them
- `EnginePair.stem_eq_iff`: which pairs have files of one name
- `ArtifactKind.paths`: all paths that are looked at for a pair
- `loadMap_of_sameFiles`, `loadTranslation_of_sameFiles`: nothing else is looked at
- `ArtifactKind.stem_eq_of_locate`: pairs that have a file in common
- `artifacts_apart`: the files of a pair are its own
-/

namespace SchemaCrosswalk

/-! ## Pairs of engines -/

/-- Two engines by their canonical names, in the order of a replication. -/
structure EnginePair where
  source : String
  sink : String
  deriving DecidableEq

namespace EnginePair

/-- The pair that two engines in any spelling make. -/
def ofNames (sourceEngine sinkEngine : String) : EnginePair :=
  ⟨Engine.normalize sourceEngine, Engine.normalize sinkEngine⟩

/-- The pair in the other direction. -/
def swap (p : EnginePair) : EnginePair := ⟨p.sink, p.source⟩

/-- Neither name has a slash. -/
structure IsPlain (p : EnginePair) : Prop where
  source : '/' ∉ p.source.toList
  sink : '/' ∉ p.sink.toList

/-- What the names of all files of a pair begin with. -/
def stem (p : EnginePair) : String := p.source ++ "_to_" ++ p.sink

/-- Two pairs whose names read alike, the source engine of the first one going on where that of the
second one has ended: there is one more `_to_` behind it, or it ends with the first letters of the
one that stands between the engines. -/
inductive Regroups : EnginePair → EnginePair → Prop
  | apart (first middle last : String) :
      Regroups ⟨first ++ "_to_" ++ middle, last⟩ ⟨first, middle ++ "_to_" ++ last⟩
  | overlapping (first last : String) : Regroups ⟨first ++ "_to", last⟩ ⟨first, "to_" ++ last⟩

variable {p q : EnginePair}

theorem Regroups.stem_eq (h : p.Regroups q) : p.stem = q.stem := by
  cases h with
  | apart first middle last => simp [stem, String.append_assoc]
  | overlapping first last =>
      apply String.toList_inj.1
      simp [stem]

/-- How far a text can go on between two places of the mark. -/
theorem between_marks {more rest rest' : List Char}
    (h : more ++ ("_to_".toList ++ rest) = "_to_".toList ++ rest') :
    more = [] ∧ rest = rest' ∨ more = "_to".toList ∧ rest' = "to_".toList ++ rest ∨
      ∃ middle, more = "_to_".toList ++ middle ∧ rest' = middle ++ ("_to_".toList ++ rest) := by
  -- The mark has four letters, and only its first one is also its last.
  match more with
  | [] => simpa using h
  | [_] => simp at h
  | [_, _] => simp at h
  | [_, _, _] =>
      right
      left
      simpa [and_assoc, eq_comm] using h
  | _ :: _ :: _ :: _ :: middle =>
      right
      right
      refine ⟨middle, ?_⟩
      simpa [and_assoc, eq_comm] using h

theorem eq_or_regroups {more : List Char} (hsource : p.source.toList = q.source.toList ++ more)
    (h : more ++ ("_to_".toList ++ p.sink.toList) = "_to_".toList ++ q.sink.toList) :
    p = q ∨ p.Regroups q := by
  rcases p with ⟨source, sink⟩
  rcases q with ⟨source', sink'⟩
  rcases between_marks h with ⟨rfl, hsink⟩ | ⟨rfl, hsink⟩ | ⟨middle, rfl, hsink⟩
  · left
    obtain rfl : source = source' := String.toList_inj.1 (hsource.trans (List.append_nil _))
    obtain rfl : sink = sink' := String.toList_inj.1 hsink
    rfl
  · right
    obtain rfl : source = source' ++ "_to" := String.toList_inj.1 (by simpa using hsource)
    obtain rfl : sink' = "to_" ++ sink := String.toList_inj.1 (by simpa using hsink)
    exact .overlapping source' sink
  · right
    obtain rfl : source = source' ++ "_to_" ++ String.ofList middle :=
      String.toList_inj.1 (by simpa using hsource)
    obtain rfl : sink' = String.ofList middle ++ "_to_" ++ sink :=
      String.toList_inj.1 (by simpa using hsink)
    exact .apart source' (String.ofList middle) sink

/-- Two pairs have files of one name only if they are the same or their names read alike. -/
theorem stem_eq_iff : p.stem = q.stem ↔ p = q ∨ p.Regroups q ∨ q.Regroups p := by
  constructor
  · intro h
    have hchars : p.source.toList ++ ("_to_".toList ++ p.sink.toList) =
        q.source.toList ++ ("_to_".toList ++ q.sink.toList) := by
      simpa [stem] using congrArg String.toList h
    -- One of the two source engines begins the other.
    rcases List.append_eq_append_iff.1 hchars with ⟨more, hmore, hrest⟩ | ⟨more, hmore, hrest⟩
    · rcases eq_or_regroups hmore hrest.symm with heq | hregroups
      · exact Or.inl heq.symm
      · exact Or.inr (Or.inr hregroups)
    · rcases eq_or_regroups hmore hrest.symm with heq | hregroups
      · exact Or.inl heq
      · exact Or.inr (Or.inl hregroups)
  · rintro (rfl | h | h)
    · rfl
    · exact h.stem_eq
    · exact h.stem_eq.symm

/-- Where the names of two different pairs read alike, that of one source engine has `_to_` in it or
ends with its first letters. -/
theorem Regroups.mark_infix (h : p.Regroups q) : "_to_".toList <:+: p.source.toList ++ ['_'] := by
  cases h with
  | apart first middle last =>
      refine ⟨first.toList, middle.toList ++ ['_'], ?_⟩
      simp
  | overlapping first last =>
      refine ⟨first.toList, [], ?_⟩
      simp

end EnginePair

/-! ## Files of a pair -/

/-- The two kinds of artifacts. -/
inductive ArtifactKind
  | map
  | translation
  deriving DecidableEq

namespace ArtifactKind

/-- The names of the files that may hold the artifact of a pair. -/
def names : ArtifactKind → EnginePair → List String
  | .map, p => Catalog.mapFiles p.source p.sink
  | .translation, p => Catalog.translationFiles p.source p.sink

/-- The directories that artifacts of a kind are searched in. -/
def directories (settings : ArtifactSettings) : ArtifactKind → List String
  | .map => settings.compatibilityPaths
  | .translation => settings.typemapPaths

/-- All paths where the artifact of a pair may lie, in the order in which they are tried. -/
def paths (settings : ArtifactSettings) (kind : ArtifactKind) (p : EnginePair) : List String :=
  Catalog.candidates (kind.directories settings) (kind.names p)

/-- What the names of the files of one kind begin with: the rest is their ending alone. -/
def stem : ArtifactKind → EnginePair → String
  | .map, p => p.stem
  | .translation, p => p.stem ++ ".typemap"

variable {kind a b : ArtifactKind} {p q : EnginePair} {settings : ArtifactSettings}
variable {name path : String}

theorem names_eq (kind : ArtifactKind) (p : EnginePair) :
    kind.names p = [kind.stem p ++ ".yaml", kind.stem p ++ ".yml"] := by
  cases kind with
  | map => rfl
  | translation =>
      simp only [names, stem, EnginePair.stem, Catalog.translationFiles, String.append_assoc]
      rfl

theorem stem_inj : kind.stem p = kind.stem q ↔ p.stem = q.stem := by
  cases kind with
  | map => rfl
  | translation => exact String.append_left_inj _

/-- Files of one name have the same ending. -/
theorem stem_eq_of_mem (hp : name ∈ a.names p) (hq : name ∈ b.names q) : a.stem p = b.stem q := by
  have hendings : ∀ s t : String, s ++ ".yaml" ≠ t ++ ".yml" := by
    intro s t heq
    have hlast := congrArg (fun s : String => (s.toList.reverse.drop 2).head?) heq
    simp at hlast
  rw [names_eq] at hp hq
  rcases List.mem_pair.1 hp with rfl | rfl
  · rcases List.mem_pair.1 hq with heq | heq
    · exact (String.append_left_inj _).1 heq
    · exact absurd heq (hendings _ _)
  · rcases List.mem_pair.1 hq with heq | heq
    · exact absurd heq.symm (hendings _ _)
    · exact (String.append_left_inj _).1 heq

theorem mem_paths_iff : path ∈ kind.paths settings p ↔
    ∃ directory ∈ kind.directories settings, ∃ name ∈ kind.names p,
      path = Path.join directory name := by
  unfold paths Catalog.candidates
  simp only [List.mem_flatMap, List.mem_map, eq_comm]

theorem no_slash_stem_iff : '/' ∉ (kind.stem p).toList ↔ p.IsPlain := by
  have hstem : '/' ∉ p.stem.toList ↔ p.IsPlain := by
    simp only [EnginePair.stem, String.toList_append, List.mem_append, not_or]
    constructor
    · rintro ⟨⟨hsource, -⟩, hsink⟩
      exact ⟨hsource, hsink⟩
    · intro h
      exact ⟨⟨h.source, by decide⟩, h.sink⟩
  cases kind with
  | map => exact hstem
  | translation =>
      show '/' ∉ (p.stem ++ ".typemap").toList ↔ _
      rw [String.toList_append, List.mem_append, not_or, hstem]
      exact and_iff_left (by decide)

/-- A file can have such a name exactly if neither engine has a slash in its name. -/
theorem isFileName_iff (h : name ∈ kind.names p) : IsFileName name ↔ p.IsPlain := by
  have hstem : '/' ∉ (kind.stem p).toList ↔ p.IsPlain := no_slash_stem_iff
  rw [← hstem]
  have hname : ∃ ending : String, name = kind.stem p ++ ending ∧ '/' ∉ ending.toList ∧
      2 < ending.length := by
    rw [names_eq] at h
    rcases List.mem_pair.1 h with rfl | rfl
    · exact ⟨".yaml", rfl, by decide, by decide⟩
    · exact ⟨".yml", rfl, by decide, by decide⟩
  obtain ⟨ending, rfl, hending, hlength⟩ := hname
  constructor
  · intro hfile hmem
    apply hfile.no_slash
    rw [String.toList_append]
    exact List.mem_append_left _ hmem
  · intro hstem
    exact isFileName_append hstem hending hlength

/-- Pairs that have a file at one place have files of one name. -/
theorem stem_eq_of_locate {files : FileTree} {path' : String} {place : List String}
    (hp : p.IsPlain) (hq : q.IsPlain) (hpath : path ∈ a.paths settings p)
    (hpath' : path' ∈ b.paths settings q) (hplace : files.locate path = .ok place)
    (hplace' : files.locate path' = .ok place) : a.stem p = b.stem q := by
  obtain ⟨directory, -, name, hname, rfl⟩ := mem_paths_iff.1 hpath
  obtain ⟨directory', -, name', hname', rfl⟩ := mem_paths_iff.1 hpath'
  -- A file lies in its directory under its own name.
  obtain ⟨-, folder, -, hat⟩ :=
    (FileTree.locate_join_eq_ok_iff ((isFileName_iff hname).2 hp)).1 hplace
  obtain ⟨-, folder', -, hat'⟩ :=
    (FileTree.locate_join_eq_ok_iff ((isFileName_iff hname').2 hq)).1 hplace'
  obtain ⟨rfl, -⟩ := List.cons_eq_cons.1 (hat.symm.trans hat')
  exact stem_eq_of_mem hname hname'

end ArtifactKind

/-! ## Loading -/

/-- Two trees have the same file at a path, or both have none there. -/
def FileTree.SameFile (files files' : FileTree) (path : String) : Prop :=
  ∀ text, files'.entry path = .ok (.file text) ↔ files.entry path = .ok (.file text)

theorem FileTree.SameFile.isFile_eq {files files' : FileTree} {path : String}
    (h : files.SameFile files' path) : files'.isFile path = files.isFile path := by
  rw [Bool.eq_iff_iff, FileTree.isFile_iff, FileTree.isFile_iff]
  exact exists_congr h

namespace Catalog

variable {settings : ArtifactSettings} {files files' : FileTree} {p q : EnginePair}
variable {directories names : List String} {path : String}

section

variable (h : ∀ path ∈ candidates directories names, files.SameFile files' path)
include h

theorem findFile?_of_sameFiles :
    findFile? files' directories names = findFile? files directories names := by
  unfold findFile?
  exact List.find?_congr fun path hmem => (h path hmem).isFile_eq

theorem read_of_sameFiles (hfind : findFile? files directories names = some path) :
    files'.read path = files.read path := by
  have hfile := List.find?_some hfind
  obtain ⟨text, htext⟩ := FileTree.isFile_iff.1 hfile
  have htext' := (h path (List.mem_of_find?_eq_some hfind) text).2 htext
  rw [FileTree.read_of_entry htext, FileTree.read_of_entry htext']

end

/-- Loading a map looks at the files with maps of the pair alone. -/
theorem loadMap_of_sameFiles
    (h : ∀ path ∈ ArtifactKind.map.paths settings p, files.SameFile files' path) :
    loadMap settings files' p.source p.sink = loadMap settings files p.source p.sink := by
  have hfile : findFile? files' settings.compatibilityPaths (mapFiles p.source p.sink) =
      findFile? files settings.compatibilityPaths (mapFiles p.source p.sink) :=
    findFile?_of_sameFiles h
  unfold loadMap
  simp only [hfile]
  cases hfind : findFile? files settings.compatibilityPaths (mapFiles p.source p.sink) with
  | none => rfl
  | some path => simp only [read_of_sameFiles h hfind]

theorem loadTranslation?_of_sameFiles
    (h : ∀ path ∈ ArtifactKind.translation.paths settings p, files.SameFile files' path) :
    loadTranslation? settings files' p.source p.sink =
      loadTranslation? settings files p.source p.sink := by
  have hfile : findFile? files' settings.typemapPaths (translationFiles p.source p.sink) =
      findFile? files settings.typemapPaths (translationFiles p.source p.sink) :=
    findFile?_of_sameFiles h
  unfold loadTranslation?
  simp only [hfile]
  cases hfind : findFile? files settings.typemapPaths (translationFiles p.source p.sink) with
  | none => rfl
  | some path => simp only [read_of_sameFiles h hfind]

/-- Loading a translation looks at the files with translations of the pair and of the reverse
one. -/
theorem loadTranslation_of_sameFiles {c : Catalog}
    (h : ∀ path ∈ ArtifactKind.translation.paths c.settings p, files.SameFile files' path)
    (hswap : ∀ path ∈ ArtifactKind.translation.paths c.settings p.swap,
      files.SameFile files' path) :
    c.loadTranslation files' p.source p.sink = c.loadTranslation files p.source p.sink := by
  have hreverse : loadTranslation? c.settings files' p.sink p.source =
      loadTranslation? c.settings files p.sink p.source :=
    loadTranslation?_of_sameFiles (p := p.swap) hswap
  unfold loadTranslation
  rw [loadTranslation?_of_sameFiles h, hreverse]

theorem answer_of_sameFiles {c : Catalog} {sourceEngine sinkEngine : String}
    (h : ∀ path ∈ ArtifactKind.map.paths c.settings (.ofNames sourceEngine sinkEngine),
      files.SameFile files' path) :
    c.answer files' sourceEngine sinkEngine = c.answer files sourceEngine sinkEngine := by
  have hload := loadMap_of_sameFiles h
  unfold EnginePair.ofNames at hload
  rw [answer_eq, answer_eq, hload]

theorem translated_of_sameFiles {c : Catalog} {sourceEngine sinkEngine : String}
    (h : ∀ p ∈ [EnginePair.ofNames sourceEngine sinkEngine,
      (EnginePair.ofNames sourceEngine sinkEngine).swap],
      ∀ path ∈ ArtifactKind.translation.paths c.settings p, files.SameFile files' path) :
    c.translated files' sourceEngine sinkEngine = c.translated files sourceEngine sinkEngine := by
  have hload := loadTranslation_of_sameFiles (h _ List.mem_cons_self)
    (h _ (List.mem_cons_of_mem _ List.mem_cons_self))
  unfold EnginePair.ofNames at hload
  rw [translated_eq, translated_eq, hload]

/-! ## Files of their own -/

/-- What the files of two pairs of engines have to do with each other, if no name has a slash. -/
structure KeepsApart (settings : ArtifactSettings) (p q : EnginePair) : Prop where
  /-- The files of a pair lie in the search directories themselves. -/
  inside : ∀ kind, ∀ path ∈ ArtifactKind.paths settings kind p,
    ∃ directory ∈ kind.directories settings, ∃ name,
      IsFileName name ∧ path = Path.join directory name
  /-- A map is answered without a look at other files than those with maps of the pair. -/
  answer_eq : ∀ (c : Catalog) (sourceEngine sinkEngine : String) (files files' : FileTree),
    c.settings = settings → EnginePair.ofNames sourceEngine sinkEngine = p →
      (∀ path ∈ ArtifactKind.map.paths settings p, files.SameFile files' path) →
        c.answer files' sourceEngine sinkEngine = c.answer files sourceEngine sinkEngine
  /-- A translation is answered without a look at other files than those with translations of the
  pair and of the reverse one. -/
  translated_eq : ∀ (c : Catalog) (sourceEngine sinkEngine : String) (files files' : FileTree),
    c.settings = settings → EnginePair.ofNames sourceEngine sinkEngine = p →
      (∀ r ∈ [p, p.swap], ∀ path ∈ ArtifactKind.translation.paths settings r,
        files.SameFile files' path) →
        c.translated files' sourceEngine sinkEngine = c.translated files sourceEngine sinkEngine
  /-- Only files of one name lie at one place. -/
  stem_eq : ∀ a b : ArtifactKind, ∀ path ∈ a.paths settings p, ∀ path' ∈ b.paths settings q,
    ∀ (files : FileTree) (place : List String), files.locate path = .ok place →
      files.locate path' = .ok place → a.stem p = b.stem q
  /-- Pairs with files of one name have all files of the kind in common. -/
  paths_eq : ∀ kind : ArtifactKind, kind.stem p = kind.stem q →
    kind.paths settings p = kind.paths settings q
  /-- Pairs have files of one name exactly if they are the same or their names read alike. -/
  stem_eq_iff : ∀ kind : ArtifactKind, kind.stem p = kind.stem q ↔
    p = q ∨ p.Regroups q ∨ q.Regroups p
  /-- That is never so where no source engine has the text between the two engines in its name. -/
  eq_of_stem_eq : ¬ "_to_".toList <:+: p.source.toList ++ ['_'] →
    ¬ "_to_".toList <:+: q.source.toList ++ ['_'] →
      ∀ kind : ArtifactKind, kind.stem p = kind.stem q → p = q

/-- Engines without slashes in their names have artifacts in the search directories alone, and two
pairs of them have an artifact in common only if their names read alike. -/
theorem keepsApart (settings : ArtifactSettings) {p q : EnginePair} (hp : p.IsPlain)
    (hq : q.IsPlain) : KeepsApart settings p q where
  inside kind path hpath := by
    obtain ⟨directory, hdirectory, name, hname, rfl⟩ := ArtifactKind.mem_paths_iff.1 hpath
    exact ⟨directory, hdirectory, name, (ArtifactKind.isFileName_iff hname).2 hp, rfl⟩
  answer_eq c sourceEngine sinkEngine files files' hsettings hpair h := by
    subst hsettings hpair
    exact answer_of_sameFiles h
  translated_eq c sourceEngine sinkEngine files files' hsettings hpair h := by
    subst hsettings hpair
    exact translated_of_sameFiles h
  stem_eq a b path hpath path' hpath' files place hplace hplace' :=
    ArtifactKind.stem_eq_of_locate hp hq hpath hpath' hplace hplace'
  paths_eq kind hstem := by
    unfold ArtifactKind.paths
    rw [ArtifactKind.names_eq, ArtifactKind.names_eq, hstem]
  stem_eq_iff kind := ArtifactKind.stem_inj.trans EnginePair.stem_eq_iff
  eq_of_stem_eq hmark hmark' kind hstem := by
    rcases EnginePair.stem_eq_iff.1 (ArtifactKind.stem_inj.1 hstem) with heq | h | h
    · exact heq
    · exact absurd h.mark_infix hmark
    · exact absurd h.mark_infix hmark'

/-- Maps are searched in one directory. -/
def compatSettings : ArtifactSettings where
  compatibilityPaths := ["compat"]
  useBuiltins := false

/-- Maps from two engines to a third one lie in different files. -/
theorem keepsApart_postgres :
    (EnginePair.ofNames "SqlServer" "pg").IsPlain ∧ (EnginePair.ofNames "MariaDB" "pg").IsPlain ∧
      ArtifactKind.map.paths compatSettings (.ofNames "SqlServer" "pg") =
        ["compat/mssql_to_postgres.yaml", "compat/mssql_to_postgres.yml"] ∧
      ArtifactKind.map.paths compatSettings (.ofNames "MariaDB" "pg") =
        ["compat/mysql_to_postgres.yaml", "compat/mysql_to_postgres.yml"] ∧
      ∀ (files : FileTree) (place : List String),
        files.locate "compat/mssql_to_postgres.yaml" = .ok place →
          files.locate "compat/mysql_to_postgres.yaml" ≠ .ok place := by
  have hplain : (EnginePair.ofNames "SqlServer" "pg").IsPlain ∧
      (EnginePair.ofNames "MariaDB" "pg").IsPlain :=
    ⟨⟨by decide +kernel, by decide +kernel⟩, ⟨by decide +kernel, by decide +kernel⟩⟩
  have hpaths : ArtifactKind.map.paths compatSettings (.ofNames "SqlServer" "pg") =
        ["compat/mssql_to_postgres.yaml", "compat/mssql_to_postgres.yml"] ∧
      ArtifactKind.map.paths compatSettings (.ofNames "MariaDB" "pg") =
        ["compat/mysql_to_postgres.yaml", "compat/mysql_to_postgres.yml"] := by
    decide +kernel
  refine ⟨hplain.1, hplain.2, hpaths.1, hpaths.2, fun files place hplace hplace' => ?_⟩
  have hstem := (keepsApart compatSettings hplain.1 hplain.2).stem_eq .map .map
    "compat/mssql_to_postgres.yaml" (by rw [hpaths.1]; exact List.mem_cons_self)
    "compat/mysql_to_postgres.yaml" (by rw [hpaths.2]; exact List.mem_cons_self)
    files place hplace hplace'
  exact absurd hstem (by decide +kernel)

/-- Two maps, one of which does not lie in the search directory. -/
def sharedTree : FileTree :=
  FileTree.plant (FileTree.plant {} "compat/a_to_b_to_c.yaml" (some "mappings:\n  int: bigint\n"))
    "elsewhere/x_to_postgres.yaml" (some "mappings:\n  int: text\n")

/-- A name with slashes leads out of the search directory, and two pairs whose names read alike are
answered with one map. -/
theorem artifacts_of_others_found :
    sharedTree.locate "compat/../elsewhere/x_to_postgres.yaml" =
        .ok ["x_to_postgres.yaml", "elsewhere"] ∧
      ((({ settings := compatSettings } : Catalog).answer sharedTree
        "../elsewhere/x" "postgres").toOption.map CompatibilityMap.origin =
          some "compat/../elsewhere/x_to_postgres.yaml") ∧
      EnginePair.ofNames "a_to_b" "c" ≠ EnginePair.ofNames "a" "b_to_c" ∧
      ((({ settings := compatSettings } : Catalog).answer sharedTree
        "a_to_b" "c").toOption.map CompatibilityMap.origin = some "compat/a_to_b_to_c.yaml") ∧
      ((({ settings := compatSettings } : Catalog).answer sharedTree
        "a" "b_to_c").toOption.map CompatibilityMap.origin = some "compat/a_to_b_to_c.yaml") := by
  decide +kernel

end Catalog

end SchemaCrosswalk
