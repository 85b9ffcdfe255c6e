import Mathlib.Data.List.Nodup
import SchemaCrosswalk.Configuration
import SchemaCrosswalk.Proofs.Outcomes

/-!
# Configurations — validity, and the directory that a configuration lies in

A configuration in a file is read as the same text would be, but its relative paths are taken from
the directory of the file before it is looked at what is wrong with it. An empty path is then the
path of that directory and no longer empty, so that it is found to be wrong in a bare file name
only. All else that is wrong with a configuration is wrong in every directory.

* `Configuration.IsSound`, `Configuration.IsValid`: what a configuration has to be
* `Configuration.flaw?_eq_none_iff`: nothing is wrong with the valid ones
* `Configuration.IsRelocated`: a configuration with its relative paths taken from a directory
* `Configuration.ofText_eq_ok_iff`, `Configuration.load_eq_ok_iff`: which configurations are accepted
* `Configuration.load_agrees_iff`: when a file is accepted exactly if its text is
-/

namespace SchemaCrosswalk

/-! ## Paths from a directory -/

namespace Path

/-- A path as it is taken from a directory: only a relative one changes. -/
inductive IsTakenFrom (base : String) : String → String → Prop
  | absolute {path : String} : isAbsolute path = true → IsTakenFrom base path path
  | relative {path : String} : isAbsolute path = false → IsTakenFrom base path (join base path)

variable {base path path' : String}

theorem join_of_isAbsolute (h : isAbsolute path = true) : join base path = path := by
  simp [join, h]

theorem isTakenFrom_iff : IsTakenFrom base path path' ↔ path' = join base path := by
  constructor
  · intro h
    cases h with
    | absolute habsolute => exact (join_of_isAbsolute habsolute).symm
    | relative _ => rfl
  · rintro rfl
    cases habsolute : isAbsolute path with
    | false => exact .relative habsolute
    | true =>
        rw [join_of_isAbsolute habsolute]
        exact .absolute habsolute

/-- In the working directory every path is the path itself, and in another one none is empty. -/
theorem join_eq_empty_iff : join base path = "" ↔ path = "" ∧ base = "" := by
  by_cases hbase : base = ""
  · simp [join, hbase]
  · by_cases habsolute : isAbsolute path = true
    · have hpath : path ≠ "" := by
        rintro rfl
        exact absurd habsolute (by decide)
      rw [join_of_isAbsolute habsolute]
      simp [hpath]
    · -- The path starts with the directory, which is not empty.
      have hjoined : ∃ rest, join base path = base ++ rest := by
        unfold join
        rw [if_neg (by simpa [hbase] using habsolute)]
        split
        · exact ⟨path, rfl⟩
        · exact ⟨"/" ++ path, String.append_assoc⟩
      obtain ⟨rest, hrest⟩ := hjoined
      refine iff_of_false ?_ fun h => hbase h.2
      rw [hrest]
      exact fun hempty => hbase (String.append_eq_empty_iff.1 hempty).1

end Path

/-! ## Valid configurations -/

/-- A group with a name, an engine and services that all have names. -/
structure SourceGroup.IsSound (g : SourceGroup) : Prop where
  name : Text.isBlankText g.name = false
  engine : Text.isBlankText g.engine = false
  services : ∀ s ∈ g.services, Text.isBlankText s = false

namespace Configuration

/-- Artifacts can come from somewhere: from a directory or from those that are bundled. -/
def HasSource (c : Configuration) : Prop :=
  c.artifacts.useBuiltins = true ∨ c.artifacts.compatibilityPaths ≠ [] ∨
    c.artifacts.typemapPaths ≠ []

/-- A configuration that is valid but for its directories: artifacts can come from somewhere, and
the groups are sound and have names that differ in more than letter case. -/
structure IsSound (c : Configuration) : Prop where
  source : c.HasSource
  groups : ∀ g ∈ c.sourceGroups, g.IsSound
  names : (c.sourceGroups.map fun g => Text.toLowercase g.name).Nodup

/-- A valid configuration: a sound one that names the two directories that are written to. -/
structure IsValid (c : Configuration) : Prop extends IsSound c where
  overridesDirectory : c.overridesDirectory ≠ ""
  mappingsDirectory : c.mappingsDirectory ≠ ""

variable {c c' : Configuration} {base text path : String} {files : FileTree}

theorem groupFlaw?_eq_none_iff {groups : List SourceGroup} {seen : List String} :
    groupFlaw? seen groups = none ↔
      (∀ g ∈ groups, g.IsSound) ∧ (groups.map fun g => Text.toLowercase g.name).Nodup ∧
        ∀ g ∈ groups, Text.toLowercase g.name ∉ seen := by
  induction groups generalizing seen with
  | nil => simp [groupFlaw?]
  | cons g groups ih =>
      have hsound : g.IsSound ↔ Text.isBlankText g.name = false ∧
          Text.isBlankText g.engine = false ∧ ∀ s ∈ g.services, Text.isBlankText s = false :=
        ⟨fun h => ⟨h.name, h.engine, h.services⟩, fun h => ⟨h.1, h.2.1, h.2.2⟩⟩
      -- The names seen before those that are left are all of them but the last.
      have hseen : (∀ g' ∈ groups, Text.toLowercase g'.name ∉ Text.toLowercase g.name :: seen) ↔
          Text.toLowercase g.name ∉ groups.map (fun g => Text.toLowercase g.name) ∧
            ∀ g' ∈ groups, Text.toLowercase g'.name ∉ seen := by
        simp only [List.mem_cons, not_or, List.mem_map, not_exists, not_and]
        exact ⟨fun h => ⟨fun g' hg' => (h g' hg').1, fun g' hg' => (h g' hg').2⟩,
          fun h g' hg' => ⟨h.1 g' hg', h.2 g' hg'⟩⟩
      simp only [groupFlaw?, ite_eq_iff, reduceCtorEq, and_false, false_or, Bool.not_eq_true, ih,
        hseen, hsound, List.forall_mem_cons, List.map_cons, List.nodup_cons, List.any_eq_false,
        List.contains_eq_mem, decide_eq_false_iff_not]
      tauto

theorem not_hasSource_iff : ¬ c.HasSource ↔ (!c.artifacts.useBuiltins &&
    c.artifacts.compatibilityPaths.isEmpty && c.artifacts.typemapPaths.isEmpty) = true := by
  simp [HasSource, and_assoc]

theorem flaw?_eq_none_iff : c.flaw? = none ↔ c.IsValid := by
  have hflaw : c.flaw? = none ↔ c.HasSource ∧ c.overridesDirectory ≠ "" ∧
      c.mappingsDirectory ≠ "" ∧ groupFlaw? [] c.sourceGroups = none := by
    simp only [flaw?, ← not_hasSource_iff, ite_eq_iff, reduceCtorEq, and_false, false_or,
      not_not, Bool.not_eq_true, String.isEmpty_eq_false_iff]
  rw [hflaw, groupFlaw?_eq_none_iff]
  constructor
  · rintro ⟨hsource, hoverrides, hmappings, hgroups, hnames, -⟩
    exact ⟨⟨hsource, hgroups, hnames⟩, hoverrides, hmappings⟩
  · intro h
    exact ⟨h.source, h.overridesDirectory, h.mappingsDirectory, h.groups, h.names,
      fun _ _ => List.not_mem_nil⟩

/-- What else than an empty directory is wrong with a configuration. -/
theorem flaw?_eq_some_iff {flaw : Misconfiguration} (hne : ∀ field, flaw ≠ .emptyDirectory field) :
    c.flaw? = some flaw ↔ ¬ c.HasSource ∧ flaw = .noArtifactSource ∨
      c.HasSource ∧ c.overridesDirectory ≠ "" ∧ c.mappingsDirectory ≠ "" ∧
        groupFlaw? [] c.sourceGroups = some flaw := by
  have hempty : ∀ field, some (Misconfiguration.emptyDirectory field) = some flaw ↔ False := by
    intro field
    rw [Option.some.injEq, iff_false]
    exact fun heq => hne field heq.symm
  simp only [flaw?, ← not_hasSource_iff, ite_eq_iff, hempty, and_false, false_or, not_not,
    Bool.not_eq_true, String.isEmpty_eq_false_iff, Option.some.injEq, eq_comm (a := flaw)]

theorem validate_eq_ok_iff : c.validate = .ok () ↔ c.IsValid := by
  rw [← flaw?_eq_none_iff]
  unfold validate
  cases c.flaw? with
  | none => simp
  | some flaw => simp

theorem isValid_iff : c.IsValid ↔ c.IsSound ∧ c.overridesDirectory ≠ "" ∧ c.mappingsDirectory ≠ "" :=
  ⟨fun h => ⟨h.toIsSound, h.overridesDirectory, h.mappingsDirectory⟩, fun h => ⟨h.1, h.2.1, h.2.2⟩⟩

/-! ## Configurations in a directory -/

/-- A configuration with its relative paths taken from a directory, and all else as it is. -/
structure IsRelocated (base : String) (c c' : Configuration) : Prop where
  compatibilityPaths : List.Forall₂ (Path.IsTakenFrom base) c.artifacts.compatibilityPaths
    c'.artifacts.compatibilityPaths
  typemapPaths : List.Forall₂ (Path.IsTakenFrom base) c.artifacts.typemapPaths
    c'.artifacts.typemapPaths
  overridesDirectory : Path.IsTakenFrom base c.overridesDirectory c'.overridesDirectory
  mappingsDirectory : Path.IsTakenFrom base c.mappingsDirectory c'.mappingsDirectory
  snapshot : Option.Rel (Path.IsTakenFrom base) c.snapshot c'.snapshot
  stripTypeParameters : c'.artifacts.stripTypeParameters = c.artifacts.stripTypeParameters
  useBuiltins : c'.artifacts.useBuiltins = c.artifacts.useBuiltins
  sourceGroups : c'.sourceGroups = c.sourceGroups

theorem isRelocated_relativeTo (c : Configuration) (base : String) :
    IsRelocated base c (c.relativeTo base) := by
  have hpath : ∀ path, Path.IsTakenFrom base path (Path.join base path) := fun _ =>
    Path.isTakenFrom_iff.2 rfl
  have hpaths : ∀ paths : List String,
      List.Forall₂ (Path.IsTakenFrom base) paths (paths.map (Path.join base)) := by
    intro paths
    rw [List.forall₂_map_right_iff, List.forall₂_same]
    exact fun path _ => hpath path
  refine ⟨hpaths _, hpaths _, hpath _, hpath _, ?_, rfl, rfl, rfl⟩
  show Option.Rel _ c.snapshot (c.snapshot.map (Path.join base))
  cases c.snapshot with
  | none => exact .none
  | some path => exact .some (hpath path)

/-- No path is added or left out. -/
theorem hasSource_relativeTo_iff : (c.relativeTo base).HasSource ↔ c.HasSource := by
  show _ ∨ c.artifacts.compatibilityPaths.map (Path.join base) ≠ [] ∨
    c.artifacts.typemapPaths.map (Path.join base) ≠ [] ↔ _
  rw [ne_eq, ne_eq, List.map_eq_nil_iff, List.map_eq_nil_iff]
  rfl

theorem isSound_relativeTo_iff : (c.relativeTo base).IsSound ↔ c.IsSound :=
  ⟨fun h => ⟨hasSource_relativeTo_iff.1 h.source, h.groups, h.names⟩,
    fun h => ⟨hasSource_relativeTo_iff.2 h.source, h.groups, h.names⟩⟩

/-- From another directory than the working one no path is empty. -/
theorem isValid_relativeTo_iff :
    (c.relativeTo base).IsValid ↔ c.IsSound ∧ (base = "" → c.IsValid) := by
  have hdirectory : ∀ path, Path.join base path ≠ "" ↔ (base = "" → path ≠ "") := by
    intro path
    rw [ne_eq, Path.join_eq_empty_iff]
    tauto
  rw [isValid_iff, isValid_iff, isSound_relativeTo_iff]
  show _ ∧ Path.join base c.overridesDirectory ≠ "" ∧ Path.join base c.mappingsDirectory ≠ "" ↔ _
  rw [hdirectory, hdirectory]
  tauto

/-! ## Reading -/

theorem ofText_eq_ok_iff :
    ofText text = .ok c ↔ form.read text = .ok c ∧ c.IsValid := by
  unfold ofText
  simp only [bind_eq_ok_iff, mapError_eq_ok_iff]
  constructor
  · rintro ⟨c', hread, ⟨⟩, hvalid, hreturn⟩
    cases hreturn
    exact ⟨hread, validate_eq_ok_iff.1 hvalid⟩
  · rintro ⟨hread, hvalid⟩
    exact ⟨c, hread, (), validate_eq_ok_iff.2 hvalid, rfl⟩

/-- A file is accepted if its text is a configuration that is sound, and in the working directory
also valid. -/
theorem load_eq_ok_iff (hfile : files.read path = .ok text) :
    load files path = .ok c' ↔ ∃ c, form.read text = .ok c ∧ c.IsSound ∧
      (Path.parent path = "" → c.IsValid) ∧ c' = c.relativeTo (Path.parent path) := by
  unfold load
  simp only [bind_eq_ok_iff, mapError_eq_ok_iff, hfile, Except.ok.injEq, exists_eq_left']
  constructor
  · rintro ⟨c, hread, ⟨⟩, hvalid, hreturn⟩
    cases hreturn
    obtain ⟨hsound, hdirectory⟩ := isValid_relativeTo_iff.1 (validate_eq_ok_iff.1 hvalid)
    exact ⟨c, hread, hsound, hdirectory, rfl⟩
  · rintro ⟨c, hread, hsound, hdirectory, rfl⟩
    have hvalid := isValid_relativeTo_iff.2 ⟨hsound, hdirectory⟩
    exact ⟨c, hread, (), validate_eq_ok_iff.2 hvalid, rfl⟩

/-- What is wrong with a configuration is wrong in every directory, but for empty paths. -/
theorem flaw?_relativeTo {flaw : Misconfiguration} (h : c.flaw? = some flaw)
    (hne : ∀ field, flaw ≠ .emptyDirectory field) : (c.relativeTo base).flaw? = some flaw := by
  have hfilled : ∀ path, path ≠ "" → Path.join base path ≠ "" := fun path hpath hempty =>
    hpath (Path.join_eq_empty_iff.1 hempty).1
  rw [flaw?_eq_some_iff hne] at h
  rw [flaw?_eq_some_iff hne, hasSource_relativeTo_iff]
  rcases h with hsource | ⟨hsource, hoverrides, hmappings, hgroups⟩
  · exact Or.inl hsource
  · exact Or.inr ⟨hsource, hfilled _ hoverrides, hfilled _ hmappings, hgroups⟩

theorem validate_of_flaw {flaw : Misconfiguration} (h : c.flaw? = some flaw) :
    c.validate = .error (Fault.ofCause flaw) := by
  simp [validate, h]

theorem ofText_of_flaw {flaw : Misconfiguration} (hread : form.read text = .ok c)
    (hflaw : c.flaw? = some flaw) : ofText text = .error (Fault.ofCause flaw) := by
  unfold ofText
  rw [hread]
  show (c.validate >>= fun _ => .ok c) = _
  rw [validate_of_flaw hflaw]
  rfl

theorem exists_flaw_of_ofText {flaw : Misconfiguration}
    (h : ofText text = .error (Fault.ofCause flaw)) :
    ∃ c, form.read text = .ok c ∧ c.flaw? = some flaw := by
  cases hread : form.read text with
  | error reason =>
      simp only [ofText, hread] at h
      cases h
  | ok c =>
      refine ⟨c, rfl, ?_⟩
      cases hflaw : c.flaw? with
      | none =>
          have hok := ofText_eq_ok_iff.2 ⟨hread, flaw?_eq_none_iff.1 hflaw⟩
          rw [h] at hok
          cases hok
      | some found =>
          have herror := h.symm.trans (ofText_of_flaw hread hflaw)
          cases herror
          rfl

theorem load_of_flaw {flaw : Misconfiguration} (hfile : files.read path = .ok text)
    (hread : form.read text = .ok c)
    (hflaw : (c.relativeTo (Path.parent path)).flaw? = some flaw) :
    load files path = .error (Fault.ofCause flaw) := by
  unfold load
  rw [hfile]
  show ((form.read text).mapError _ >>= fun c => _) = _
  rw [hread]
  show ((c.relativeTo (Path.parent path)).validate >>= fun _ => .ok _) = _
  rw [validate_of_flaw hflaw]
  rfl

/-! ## Texts and files -/

/-- What is accepted as a text is accepted in every file, and the two configurations differ in
nothing but the relative paths, which are taken from the directory of the file. What is refused as a
text for another reason than an empty directory is refused for that reason in every file. So a file
is accepted exactly if its text is, unless it lies outside of the working directory and its text is
a sound configuration with an empty directory: that is accepted, the directory being the one of the
file. -/
theorem load_agrees_iff (hfile : files.read path = .ok text) :
    (∀ c, ofText text = .ok c →
        ∃ c', load files path = .ok c' ∧ IsRelocated (Path.parent path) c c') ∧
      (∀ flaw, ofText text = .error (Fault.ofCause flaw) →
        (∀ field, flaw ≠ .emptyDirectory field) →
          load files path = .error (Fault.ofCause flaw)) ∧
      (((∃ c', load files path = .ok c') ↔ ∃ c, ofText text = .ok c) ↔
        ¬ (Path.parent path ≠ "" ∧ ∃ c, form.read text = .ok c ∧ c.IsSound ∧
          (c.overridesDirectory = "" ∨ c.mappingsDirectory = ""))) := by
  have haccepted : ∀ c, ofText text = .ok c → ∃ c', load files path = .ok c' ∧
      IsRelocated (Path.parent path) c c' := by
    intro c htext
    obtain ⟨hread, hvalid⟩ := ofText_eq_ok_iff.1 htext
    exact ⟨_, (load_eq_ok_iff hfile).2 ⟨c, hread, hvalid.toIsSound, fun _ => hvalid, rfl⟩,
      isRelocated_relativeTo c _⟩
  refine ⟨haccepted, ?_, ?_, ?_⟩
  · intro flaw htext hne
    obtain ⟨c, hread, hflaw⟩ := exists_flaw_of_ofText htext
    exact load_of_flaw hfile hread (flaw?_relativeTo hflaw hne)
  · rintro hagree ⟨hparent, c, hread, hsound, hempty⟩
    have hload := (load_eq_ok_iff hfile).2 ⟨c, hread, hsound, fun h => absurd h hparent, rfl⟩
    obtain ⟨c', htext⟩ := hagree.1 ⟨_, hload⟩
    obtain ⟨hread', hvalid⟩ := ofText_eq_ok_iff.1 htext
    cases hread.symm.trans hread'
    exact hempty.elim hvalid.overridesDirectory hvalid.mappingsDirectory
  · intro hnever
    constructor
    · rintro ⟨c', hload⟩
      obtain ⟨c, hread, hsound, hdirectory, -⟩ := (load_eq_ok_iff hfile).1 hload
      refine ⟨c, ofText_eq_ok_iff.2 ⟨hread, ?_⟩⟩
      by_contra hinvalid
      -- A sound configuration that is not valid has an empty directory.
      have hempty : c.overridesDirectory = "" ∨ c.mappingsDirectory = "" := by
        by_contra hfilled
        rw [not_or] at hfilled
        exact hinvalid (isValid_iff.2 ⟨hsound, hfilled⟩)
      exact hnever ⟨fun hparent => hinvalid (hdirectory hparent), c, hread, hsound, hempty⟩
    · rintro ⟨c, htext⟩
      obtain ⟨c', hload, -⟩ := haccepted c htext
      exact ⟨c', hload⟩

/-- A tree with a configuration in a directory of its own. -/
def settingsTree (text : String) : FileTree :=
  FileTree.plant {} "conf/typemap.yaml" (some text)

/-- A configuration with a relative path and an absolute one. -/
def changesText : String := "overrides_dir: changes\nsnapshot: /srv/schema.yaml\n"

theorem load_agrees_iff_changes :
    (settingsTree changesText).read "conf/typemap.yaml" = .ok changesText ∧
      ∃ c c', ofText changesText = .ok c ∧
        load (settingsTree changesText) "conf/typemap.yaml" = .ok c' ∧
          IsRelocated "conf" c c' ∧ c.overridesDirectory = "changes" ∧
            c'.overridesDirectory = "conf/changes" := by
  have hfile : (settingsTree changesText).read "conf/typemap.yaml" = .ok changesText := by
    decide +kernel
  have hread : (form.read changesText).toOption =
      some { overridesDirectory := "changes", snapshot := some "/srv/schema.yaml" } := by
    decide +kernel
  have htext := ofText_eq_ok_iff.2 ⟨eq_ok_of_toOption hread, flaw?_eq_none_iff.1 rfl⟩
  obtain ⟨c', hload, hrelocated⟩ := (load_agrees_iff hfile).1 _ htext
  have hparent : Path.parent "conf/typemap.yaml" = "conf" := by
    decide +kernel
  rw [hparent] at hrelocated
  have hoverrides := Path.isTakenFrom_iff.1 hrelocated.overridesDirectory
  exact ⟨hfile, _, c', htext, hload, hrelocated, rfl, hoverrides.trans (by decide)⟩

/-- A configuration whose overrides are kept nowhere. -/
def nowhereText : String := "overrides_dir: \"\"\n"

/-- Not naming a directory is refused in a text, but not in a file: overrides are then kept in the
directory of the file. -/
theorem empty_directory_is_filled :
    ofText nowhereText = .error (Fault.ofCause (.emptyDirectory "overrides_dir")) ∧
      (settingsTree nowhereText).read "conf/typemap.yaml" = .ok nowhereText ∧
      load (settingsTree nowhereText) "conf/typemap.yaml" =
        .ok { overridesDirectory := "conf/", mappingsDirectory := "conf/mappings" } := by
  have hfile : (settingsTree nowhereText).read "conf/typemap.yaml" = .ok nowhereText := by
    decide +kernel
  have hread : (form.read nowhereText).toOption = some { overridesDirectory := "" } := by
    decide +kernel
  have hok := eq_ok_of_toOption hread
  have hsound := (flaw?_eq_none_iff.1 (show flaw? {} = none from rfl)).toIsSound
  have hparent : Path.parent "conf/typemap.yaml" = "conf" := by
    decide +kernel
  refine ⟨ofText_of_flaw hok rfl, hfile, (load_eq_ok_iff hfile).2 ⟨_, hok, ?_, ?_, ?_⟩⟩
  · exact ⟨hsound.source, hsound.groups, hsound.names⟩
  · rw [hparent]
    exact fun h => absurd h (by decide)
  · rw [hparent]
    decide +kernel

end Configuration

end SchemaCrosswalk
