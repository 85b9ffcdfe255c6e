import SchemaCrosswalk.Proofs.Catalog.Maps
import SchemaCrosswalk.Proofs.Catalog.Translations
import SchemaCrosswalk.Proofs.Translation.Cloning

/-!
# Cloning — whether tables cloned with the bundled artifacts can be populated

For two pairs of engines both a map and a translation are bundled. A table that is cloned with the
translation can be populated by its source according to the map, unless a type declares more
precision than the clone has. There is one listed type that the map does not allow.

* `Catalog.answers_of_bundledPair?`: a new catalog answers with what is bundled
* `Catalog.exists_bundledPair?_allows`: the maps allow what the translations list
* `Catalog.bundled_clone_fits`: so cloned types and tables fit
-/

namespace SchemaCrosswalk

namespace Bundled

/-- The pairs of engines with a bundled map and a bundled translation. -/
def clonablePairs : List (String × String) := [("mssql", "postgres"), ("mysql", "postgres")]

/-- Types of an engine whose listed casts are refused. -/
def refusedTypes (engine : String) : List String :=
  if engine = "mysql" then ["tinyint(1)"] else []

/-- Types of an engine whose listed sink types declare sizes. -/
def sizedTypes (engine : String) : List String :=
  if engine = "mssql" then ["money", "smallmoney"] else []

end Bundled

namespace Catalog

/-! ## What is bundled for a pair of engines -/

/-- The bundled translation of a pair of canonical engines, with its name, if bundled translations
are used. -/
def bundledTranslation? (settings : ArtifactSettings) (source sink : String) :
    Option (String × Translation.Document) :=
  if settings.useBuiltins then
    (translationFiles source sink).findSome? fun name =>
      (Bundled.translation? name).map fun d => (name, d)
  else none

theorem loadTranslation?_of_bundledTranslation? {settings : ArtifactSettings} {files : FileTree}
    {source sink name : String} {d : Translation.Document} {t : Translation}
    (hfind : findFile? files settings.typemapPaths (translationFiles source sink) = none)
    (hbundled : bundledTranslation? settings source sink = some (name, d))
    (ht : Translation.ofDocument d source sink (Bundled.origin name) = .ok t) :
    loadTranslation? settings files source sink = .ok (some t) := by
  unfold bundledTranslation? at hbundled
  simp [loadTranslation?, hfind, hbundled, ht, Bind.bind, Except.bind, Pure.pure, Except.pure]

/-- The bundled map and the bundled translation of a pair of canonical engines. -/
def bundledPair? (source sink : String) : Option (CompatibilityMap × Translation) := do
  let d ← bundledMap? {} source sink
  let m ← (CompatibilityMap.ofDocument d.2 source sink (Bundled.origin d.1) true).toOption
  let types ← bundledTranslation? {} source sink
  let t ← (Translation.ofDocument types.2 source sink (Bundled.origin types.1)).toOption
  return (m, t)

/-- A new catalog without search directories answers with the bundled artifacts. -/
theorem answers_of_bundledPair? {sourceEngine sinkEngine : String} {m : CompatibilityMap}
    {t : Translation} (files : FileTree)
    (h : bundledPair? (Engine.normalize sourceEngine) (Engine.normalize sinkEngine) = some (m, t)) :
    ({} : Catalog).answer files sourceEngine sinkEngine = .ok m ∧
      ({} : Catalog).translated files sourceEngine sinkEngine = .ok t := by
  simp only [bundledPair?, Option.bind_eq_bind, Option.bind_eq_some_iff] at h
  rcases h with ⟨⟨name, d⟩, hd, m', hm, ⟨file, types⟩, htypes, t', ht, hpair⟩
  cases hpair
  have hload : loadMap {} files (Engine.normalize sourceEngine) (Engine.normalize sinkEngine) =
      .ok m :=
    (loadMap_of_bundledMap?_eq_some rfl hd).trans (eq_ok_of_toOption hm)
  have htranslation : loadTranslation? {} files (Engine.normalize sourceEngine)
      (Engine.normalize sinkEngine) = .ok (some t) :=
    loadTranslation?_of_bundledTranslation? rfl htypes (eq_ok_of_toOption ht)
  constructor
  · have hunknown : ({} : Catalog).known? (Engine.normalize sourceEngine)
        (Engine.normalize sinkEngine) = none := rfl
    simp only [answer_eq, hunknown]
    exact hload
  · have hunknown : ({} : Catalog).knownTranslation? (Engine.normalize sourceEngine)
        (Engine.normalize sinkEngine) = none := rfl
    simp only [translated_eq, hunknown]
    exact loadTranslation_of_direct rfl htranslation

theorem all_clonablePairs_allow :
    ∀ pair ∈ Bundled.clonablePairs, (bundledPair? pair.1 pair.2).any fun found =>
      decide (found.1.Allows found.2 (Bundled.refusedTypes pair.1) (Bundled.sizedTypes pair.1)) := by
  decide +kernel

/-- The bundled maps allow what the bundled translations list. -/
theorem exists_bundledPair?_allows {source sink : String}
    (h : (source, sink) ∈ Bundled.clonablePairs) :
    ∃ m t, bundledPair? source sink = some (m, t) ∧
      m.Allows t (Bundled.refusedTypes source) (Bundled.sizedTypes source) := by
  have hall := all_clonablePairs_allow (source, sink) h
  rcases hfound : bundledPair? source sink with _ | ⟨m, t⟩
  · simp [hfound] at hall
  · have hallows : m.Allows t (Bundled.refusedTypes source) (Bundled.sizedTypes source) := by
      simpa [hfound] using hall
    exact ⟨m, t, rfl, hallows⟩

/-- With the artifacts that need no file, a type may populate the type that it is cloned to exactly
if its sizes do not exceed those of that type, which only the money types can declare. So a table
whose types fit can populate its clone, column by column. Nothing is said of the one type whose
listed cast is refused. -/
theorem bundled_clone_fits (files : FileTree) (sourceEngine sinkEngine : String)
    (hpair : (Engine.normalize sourceEngine, Engine.normalize sinkEngine) ∈
      Bundled.clonablePairs) :
    ∃ m t, ({} : Catalog).answer files sourceEngine sinkEngine = .ok m ∧
      ({} : Catalog).translated files sourceEngine sinkEngine = .ok t ∧
        CompatibilityMap.CloneFits m t (Bundled.refusedTypes (Engine.normalize sourceEngine))
          (Bundled.sizedTypes (Engine.normalize sourceEngine)) := by
  rcases exists_bundledPair?_allows hpair with ⟨m, t, hfound, hallows⟩
  rcases answers_of_bundledPair? files hfound with ⟨hm, ht⟩
  exact ⟨m, t, hm, ht, CompatibilityMap.cloneFits_of_allows hallows⟩

/-- A table with a flag, a price and a type that no translation lists. -/
def articles : ColumnSet where
  columns := [
    { name := "Id", type := "BIGINT( 20 )", primaryKey := true, nullable := false },
    { name := "Flag", type := "tinyint(4)", nullable := false },
    { name := "Price", type := "decimal(10,2)" }, { name := "Shape", type := "geometry" }]
  distinct := by decide

theorem bundled_clone_fits_articles :
    (Engine.normalize "MariaDB", Engine.normalize "PostgreSQL") ∈ Bundled.clonablePairs ∧
      ∃ m t, ({} : Catalog).answer {} "MariaDB" "PostgreSQL" = .ok m ∧
        ({} : Catalog).translated {} "MariaDB" "PostgreSQL" = .ok t ∧
          ∃ clone, t.cloneTable articles.columns = .ok clone ∧
            clone.names = ["Id", "Flag", "Price", "Shape"] ∧
              ∃ r, Resolution.resolve ⟨{ map := m }, "shop.articles", articles, clone⟩ [] = .ok r ∧
                r.valid = true ∧ ∀ name ∈ clone.names, name ∈ r.identityCovered.toList := by
  have hpair : (Engine.normalize "MariaDB", Engine.normalize "PostgreSQL") ∈
      Bundled.clonablePairs := by
    decide +kernel
  rcases bundled_clone_fits {} "MariaDB" "PostgreSQL" hpair with ⟨m, t, hm, ht, hfits⟩
  have heval : (({} : Catalog).translated {} "MariaDB" "PostgreSQL").toOption.any fun t =>
      articles.columns.all fun c => Translation.isUsable c &&
        !Spelling.narrows c.type (t.mapType c.type).target := by
    decide +kernel
  have htypes : ∀ c ∈ articles.columns, Translation.isUsable c = true ∧
      Spelling.narrows c.type (t.mapType c.type).target = false := by
    simpa [ht, Except.toOption] using heval
  have hrefused : ∀ c ∈ articles.columns,
      ∀ spelling ∈ Bundled.refusedTypes (Engine.normalize "MariaDB"),
        Spelling.normalize c.type ≠ Spelling.normalize spelling := by
    decide +kernel
  rcases hfits.attachable "shop.articles" articles
    (fun c hc _ => ⟨hrefused c hc, (htypes c hc).2⟩) with ⟨clone, hclone, hnames, hresolved⟩
  have husable : articles.columns.filter Translation.isUsable = articles.columns :=
    List.filter_eq_self.2 fun c hc => (htypes c hc).1
  rw [husable] at hnames
  exact ⟨hpair, m, t, hm, ht, clone, hclone, hnames, hresolved⟩

/-- Money with a precision is cloned to a type with a smaller one, and a flag to a type that the map
does not allow. -/
theorem clone_refused_for_money_and_flag :
    (∃ m t, ({} : Catalog).answer {} "mssql" "postgres" = .ok m ∧
        ({} : Catalog).translated {} "mssql" "postgres" = .ok t ∧
          (t.mapType "money(20)").target = "numeric(19,4)" ∧
            ({ map := m } : Checker).isCompatible "money(20)" "numeric(19,4)" none = false) ∧
      ∃ m t, ({} : Catalog).answer {} "mysql" "postgres" = .ok m ∧
        ({} : Catalog).translated {} "mysql" "postgres" = .ok t ∧
          (t.mapType "tinyint(1)").target = "boolean" ∧
            ({ map := m } : Checker).isCompatible "tinyint(1)" "boolean" none = false := by
  constructor
  · have hpair : ("mssql", "postgres") ∈ Bundled.clonablePairs := by decide
    rcases exists_bundledPair?_allows hpair with ⟨m, t, hfound, hallows⟩
    rcases @answers_of_bundledPair? "mssql" "postgres" m t {} hfound with ⟨hm, ht⟩
    have heval : (({} : Catalog).translated {} "mssql" "postgres").toOption.map
        (fun t => (t.mapType "money(20)").target) = some "numeric(19,4)" := by
      decide +kernel
    have htarget : (t.mapType "money(20)").target = "numeric(19,4)" := by
      simpa [ht, Except.toOption] using heval
    have hiff := @Checker.isCompatible_mapType_iff m t _ _ "money(20)" hallows (by decide) none
    have hnarrows : Spelling.narrows "money(20)" "numeric(19,4)" = true := by decide +kernel
    rw [htarget, hnarrows] at hiff
    exact ⟨m, t, hm, ht, htarget, by simpa using hiff⟩
  · have hpair : ("mysql", "postgres") ∈ Bundled.clonablePairs := by decide
    rcases exists_bundledPair?_allows hpair with ⟨m, t, hfound, hallows⟩
    rcases @answers_of_bundledPair? "mysql" "postgres" m t {} hfound with ⟨hm, ht⟩
    have heval : (({} : Catalog).translated {} "mysql" "postgres").toOption.map
        (fun t => ((t.mapType "tinyint(1)").target, decide (("tinyint(1)", "boolean") ∈ t.entries)))
          = some ("boolean", true) := by
      decide +kernel
    have hlisted : (t.mapType "tinyint(1)").target = "boolean" ∧
        ("tinyint(1)", "boolean") ∈ t.entries := by
      simpa [ht, Except.toOption] using heval
    have hincompatible := (hallows.listed _ hlisted.2).1 (by decide)
    exact ⟨m, t, hm, ht, hlisted.1, Checker.isCompatible_of_incompatible hincompatible⟩

end Catalog

end SchemaCrosswalk
