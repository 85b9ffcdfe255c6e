import Mathlib.Tactic.ByContra
import SchemaCrosswalk.Proofs.Catalog.Runs

/-!
# Translations — which type translation a catalog answers with

A translation that was found by inverting that of the reverse pair is kept, and a translation that
is registered for the reverse pair afterwards does not replace it. Apart from that, what was looked
up before makes no difference: the catalog answers like a new one in which the same translations
are registered.

- `Catalog.fresh`: a new catalog with the translations registered in a sequence of requests
- `translated_fresh`: what a new catalog answers with
- `Hides`: a registered translation stays hidden behind an inversion that is kept
- `translated_run`: what a catalog answers with, and that it answers like a new one unless a
  translation stays hidden
-/

namespace SchemaCrosswalk

/-- What is asked for in a translation: its engines, entries, fallback and whether it is an
inversion. -/
def Translation.content (t : Translation) :
    String × String × List (String × String) × String × Bool :=
  (t.sourceEngine, t.sinkEngine, t.entries, t.fallback, t.inverted)

namespace Catalog

/-! ## New catalogs -/

/-- Whether a translation is registered. -/
def Event.registersTranslation (e : Event) : Bool :=
  match e.request with
  | .registerTranslation _ => true
  | _ => false

/-- A new catalog with the translations that are registered in a sequence of requests. -/
def fresh (settings : ArtifactSettings) (events : List Event) : Catalog :=
  run settings (events.filter Event.registersTranslation)

/-- Requests that are made while the files stay as they are. -/
def requestsOn (files : FileTree) (requests : List Request) : List Event :=
  requests.map (Event.mk files)

variable {settings : ArtifactSettings} {files : FileTree} {events before : List Event} {e : Event}
variable {source sink : String} {t : Translation}

theorem translationGiven?_of_registersTranslation_eq_false
    (h : e.registersTranslation = false) : translationGiven? source sink e = none := by
  obtain ⟨files, request⟩ := e
  cases request with
  | registerTranslation t => cases h
  | map sourceEngine sinkEngine => rfl
  | translation sourceEngine sinkEngine => rfl
  | registerMap m => rfl
  | invalidate => rfl

theorem translationFound?_of_registersTranslation (c : Catalog)
    (h : e.registersTranslation = true) : translationFound? source sink c e = none := by
  obtain ⟨files, request⟩ := e
  cases request with
  | registerTranslation t => rfl
  | map sourceEngine sinkEngine => cases h
  | translation sourceEngine sinkEngine => cases h
  | registerMap m => cases h
  | invalidate => cases h

/-- The same translations are registered in a new catalog. -/
theorem registeredTranslation?_filter (events : List Event) (source sink : String) :
    registeredTranslation? (events.filter Event.registersTranslation) source sink =
      registeredTranslation? events source sink := by
  unfold registeredTranslation?
  have hgiven : ∀ e : Event,
      (if e.registersTranslation then translationGiven? source sink e else none) =
        translationGiven? source sink e := by
    intro e
    cases h : e.registersTranslation with
    | true => rfl
    | false => exact (translationGiven?_of_registersTranslation_eq_false h).symm
  rw [List.filterMap_filter, funext hgiven]

/-- A new catalog keeps no translations. -/
theorem get?_translations_fresh (hnone : registeredTranslation? events source sink = none) :
    (fresh settings events).translations.get? source sink = none := by
  have hregistered := (get?_registeredTranslations_run settings
    (events.filter Event.registersTranslation) source sink).trans
      ((registeredTranslation?_filter events source sink).trans hnone)
  refine ((translations_keeping source sink).kept_run_eq_none_iff hregistered).2 ?_
  intro before e t hsince
  have hfound := hsince.found
  rw [translationFound?_of_registersTranslation _ (List.mem_filter.1 hsince.mem).2] at hfound
  cases hfound

/-! ## Loading -/

/-- Of the catalog, loading reads the settings and the translation registered for the reverse
pair. -/
theorem loadTranslation_congr {c c' : Catalog} (hsettings : c'.settings = c.settings)
    (hreverse : c'.registeredTranslations.get? sink source =
      c.registeredTranslations.get? sink source) :
    c'.loadTranslation files source sink = c.loadTranslation files source sink := by
  unfold loadTranslation
  rw [hsettings, hreverse]

section

variable {c : Catalog} (hsettings : c.settings = settings)
include hsettings

theorem loadTranslation_of_direct
    (h : loadTranslation? settings files source sink = .ok (some t)) :
    c.loadTranslation files source sink = .ok t := by
  unfold loadTranslation
  rw [hsettings, h]
  rfl

theorem loadTranslation_of_error {fault : Fault}
    (h : loadTranslation? settings files source sink = .error fault) :
    c.loadTranslation files source sink = .error fault := by
  unfold loadTranslation
  rw [hsettings, h]
  rfl

theorem loadTranslation_of_registered
    (h : loadTranslation? settings files source sink = .ok none)
    (hreverse : c.registeredTranslations.get? sink source = some t) :
    c.loadTranslation files source sink = .ok t.invert := by
  unfold loadTranslation
  rw [hsettings, h, hreverse]
  rfl

end

/-- What a new catalog answers with. -/
theorem translated_fresh (settings : ArtifactSettings) (events : List Event) (files : FileTree)
    (sourceEngine sinkEngine : String) :
    (fresh settings events).translated files sourceEngine sinkEngine =
      (registeredTranslation? events (Engine.normalize sourceEngine)
        (Engine.normalize sinkEngine)).elim
          ((run settings events).loadTranslation files (Engine.normalize sourceEngine)
            (Engine.normalize sinkEngine)) .ok := by
  have hregistered : ∀ source sink, (fresh settings events).registeredTranslations.get? source sink =
      registeredTranslation? events source sink := fun source sink =>
    (get?_registeredTranslations_run settings _ source sink).trans
      (registeredTranslation?_filter events source sink)
  rw [translated_eq]
  unfold knownTranslation?
  rw [hregistered]
  cases hlast : registeredTranslation? events (Engine.normalize sourceEngine)
      (Engine.normalize sinkEngine) with
  | some t => rfl
  | none =>
      rw [get?_translations_fresh hlast]
      apply loadTranslation_congr
      · exact (settings_run settings _).trans (settings_run settings events).symm
      · rw [hregistered, get?_registeredTranslations_run]

/-! ## Sequences of requests -/

/-- What is known of a pair after a sequence of requests comes first, and else what a new catalog
answers with. -/
theorem translated_run_eq (settings : ArtifactSettings) (events : List Event) (files : FileTree)
    (sourceEngine sinkEngine : String) :
    (run settings events).translated files sourceEngine sinkEngine =
      ((run settings events).knownTranslation? (Engine.normalize sourceEngine)
        (Engine.normalize sinkEngine)).elim
          ((fresh settings events).translated files sourceEngine sinkEngine) .ok := by
  rw [translated_eq, translated_fresh]
  unfold knownTranslation?
  rw [get?_registeredTranslations_run]
  cases registeredTranslation? events (Engine.normalize sourceEngine)
      (Engine.normalize sinkEngine) with
  | some t => rfl
  | none => rfl

/-- Where nothing is registered for a pair, its translation was loaded when it was first found. -/
theorem loadTranslation_of_firstFound
    (hnone : registeredTranslation? events source sink = none)
    (hfirst : FirstFound (translationFound? source sink) settings events before e t) :
    (run settings before).loadTranslation e.files source sink = .ok t := by
  have hregistered := (get?_registeredTranslations_run settings events source sink).trans hnone
  obtain ⟨hregistered, hkept⟩ :=
    (translations_keeping source sink).unknown_of_firstFound hregistered hfirst
  have hfound := hfirst.found
  unfold translationFound? at hfound
  split at hfound
  · obtain ⟨⟨hsource, hsink⟩, hanswer⟩ := Option.ite_none_right_eq_some.1 hfound
    have hok := eq_ok_of_toOption hanswer
    rw [translated_eq, ← hsource, ← hsink] at hok
    -- Nothing was known of the pair, so the translation was loaded.
    unfold knownTranslation? at hok
    rw [hregistered, hkept] at hok
    exact hok
  · cases hfound

/-- A translation that is registered for the reverse pair stays hidden: an inversion was found
before, it is kept, and it is another one. -/
inductive Hides (settings : ArtifactSettings) (files : FileTree) (events : List Event)
    (source sink : String) : Prop
  | inversion {before : List Event} {e : Event} {t reverse : Translation}
      (hnone : registeredTranslation? events source sink = none)
      (hdirect : loadTranslation? settings files source sink = .ok none)
      (hfirst : FirstFound (translationFound? source sink) settings events before e t)
      (hreverse : registeredTranslation? events sink source = some reverse)
      (hdiffers : reverse.invert.content ≠ t.content)

/-- A translation that was found first is what is loaded now, unless it is the inversion of one
that has been replaced. -/
theorem content_loadTranslation_iff (hfiles : e.files = files)
    (hnone : registeredTranslation? events source sink = none)
    (hfirst : FirstFound (translationFound? source sink) settings events before e t) :
    ((run settings events).loadTranslation files source sink).map Translation.content =
        .ok t.content ↔
      ¬Hides settings files events source sink := by
  have hbefore := loadTranslation_of_firstFound hnone hfirst
  rw [hfiles] at hbefore
  have hsettings := settings_run settings events
  have hsettings' := settings_run settings before
  cases hdirect : loadTranslation? settings files source sink with
  | error fault =>
      rw [loadTranslation_of_error hsettings' hdirect] at hbefore
      cases hbefore
  | ok direct =>
      cases direct with
      | some d =>
          -- A translation declared for the pair itself does not depend on what is registered.
          rw [loadTranslation_of_direct hsettings' hdirect] at hbefore
          obtain rfl : d = t := Except.ok.inj hbefore
          rw [loadTranslation_of_direct hsettings hdirect]
          refine iff_of_true rfl ?_
          rintro ⟨-, hnodirect, -⟩
          rw [hdirect] at hnodirect
          cases hnodirect
      | none =>
          have hregistered := get?_registeredTranslations_run settings events sink source
          cases hreverse : registeredTranslation? events sink source with
          | none =>
              -- Nothing was registered for the reverse pair when the translation was found, either.
              have hreverse' : (run settings before).registeredTranslations.get? sink source =
                  none := by
                obtain ⟨after, rfl, -⟩ := hfirst.stands
                exact (translations_keeping sink source).registered_eq_none_of_append _
                  (hregistered.trans hreverse)
              rw [loadTranslation_congr (hsettings.trans hsettings'.symm)
                ((hregistered.trans hreverse).trans hreverse'.symm), hbefore]
              refine iff_of_true rfl ?_
              rintro ⟨-, -, -, hsome, -⟩
              rw [hreverse] at hsome
              cases hsome
          | some reverse =>
              rw [loadTranslation_of_registered hsettings hdirect (hregistered.trans hreverse)]
              constructor
              · rintro hsame ⟨-, -, hfirst', hreverse', hdiffers⟩
                -- What is kept is one translation, so there is only one that was found first.
                have hkeeping := translations_keeping source sink
                have hpair := (get?_registeredTranslations_run settings events source sink).trans
                  hnone
                have hkept := (hkeeping.kept_run_iff hpair).2 ⟨_, _, hfirst⟩
                have hkept' := (hkeeping.kept_run_iff hpair).2 ⟨_, _, hfirst'⟩
                obtain rfl := Option.some_inj.1 (hkept.symm.trans hkept')
                obtain rfl := Option.some_inj.1 (hreverse.symm.trans hreverse')
                exact hdiffers (Except.ok.inj hsame)
              · intro hhides
                by_contra hdiffers
                refine hhides (.inversion hnone hdirect hfirst hreverse fun hsame => hdiffers ?_)
                exact congrArg Except.ok hsame

section

variable {sourceEngine sinkEngine : String}

theorem translated_run_of_registered
    (hlast : registeredTranslation? events (Engine.normalize sourceEngine)
      (Engine.normalize sinkEngine) = some t) :
    (run settings events).translated files sourceEngine sinkEngine = .ok t := by
  rw [translated_run_eq]
  unfold knownTranslation?
  rw [get?_registeredTranslations_run, hlast]
  rfl

variable (hnone : registeredTranslation? events (Engine.normalize sourceEngine)
  (Engine.normalize sinkEngine) = none)
include hnone

theorem translated_run_of_firstFound
    (hfirst : FirstFound (translationFound? (Engine.normalize sourceEngine)
      (Engine.normalize sinkEngine)) settings events before e t) :
    (run settings events).translated files sourceEngine sinkEngine = .ok t := by
  have hregistered := (get?_registeredTranslations_run settings events _ _).trans hnone
  have hkept := ((translations_keeping _ _).kept_run_iff hregistered).2 ⟨before, e, hfirst⟩
  rw [translated_run_eq]
  unfold knownTranslation?
  rw [hregistered, hkept]
  rfl

theorem translated_run_of_never
    (hnever : ∀ before e t, ¬FoundSince (translationFound? (Engine.normalize sourceEngine)
      (Engine.normalize sinkEngine)) settings events before e t) :
    (run settings events).translated files sourceEngine sinkEngine =
      (fresh settings events).translated files sourceEngine sinkEngine := by
  have hregistered := (get?_registeredTranslations_run settings events _ _).trans hnone
  have hkept := ((translations_keeping _ _).kept_run_eq_none_iff hregistered).2 hnever
  rw [translated_run_eq]
  unfold knownTranslation?
  rw [hregistered, hkept]
  rfl

/-- What was found first is what a new catalog would have answered with then. -/
theorem translated_fresh_of_firstFound
    (hfirst : FirstFound (translationFound? (Engine.normalize sourceEngine)
      (Engine.normalize sinkEngine)) settings events before e t) :
    (fresh settings before).translated e.files sourceEngine sinkEngine = .ok t := by
  have hregistered := (get?_registeredTranslations_run settings events _ _).trans hnone
  have hbefore := ((translations_keeping _ _).unknown_of_firstFound hregistered hfirst).1
  rw [translated_fresh, ← get?_registeredTranslations_run settings before, hbefore]
  exact loadTranslation_of_firstFound hnone hfirst

end

/-- A catalog answers like a new one exactly if no registered translation stays hidden. -/
theorem content_translated_run_iff (settings : ArtifactSettings)
    (hfiles : ∀ e ∈ events, e.files = files) (sourceEngine sinkEngine : String) :
    ((run settings events).translated files sourceEngine sinkEngine).map Translation.content =
        ((fresh settings events).translated files sourceEngine sinkEngine).map
          Translation.content ↔
      ¬Hides settings files events (Engine.normalize sourceEngine)
        (Engine.normalize sinkEngine) := by
  cases hlast : registeredTranslation? events (Engine.normalize sourceEngine)
      (Engine.normalize sinkEngine) with
  | some t =>
      rw [translated_run_of_registered hlast, translated_fresh, hlast]
      refine iff_of_true rfl ?_
      rintro ⟨hnone, -⟩
      rw [hlast] at hnone
      cases hnone
  | none =>
      have hregistered := (get?_registeredTranslations_run settings events _ _).trans hlast
      have hkeeping := translations_keeping (Engine.normalize sourceEngine)
        (Engine.normalize sinkEngine)
      cases hkept : (run settings events).translations.get? (Engine.normalize sourceEngine)
          (Engine.normalize sinkEngine) with
      | some t =>
          obtain ⟨before, e, hfirst⟩ := (hkeeping.kept_run_iff hregistered).1 hkept
          rw [translated_run_of_firstFound hlast hfirst, translated_fresh, hlast,
            ← content_loadTranslation_iff (hfiles e hfirst.mem) hlast hfirst]
          exact eq_comm
      | none =>
          have hnever := (hkeeping.kept_run_eq_none_iff hregistered).1 hkept
          rw [translated_run_of_never hlast hnever]
          refine iff_of_true rfl ?_
          rintro ⟨-, -, hfirst, -⟩
          exact hnever _ _ _ hfirst.toFoundSince

/-- With the files staying as they are, a catalog answers with the translation registered last for
the pair, or else with the one that a new catalog answered with when it was first found since the
catalog was last told to forget, or else with what a new catalog answers with now. So it answers
like a new catalog exactly if no registered translation stays hidden behind an inversion that is
kept; and that is when a pair without a translation of its own is answered with the inversion of the
one registered last for the reverse pair. -/
theorem translated_run (settings : ArtifactSettings) (files : FileTree) (requests : List Request)
    (sourceEngine sinkEngine : String) :
    let events := requestsOn files requests
    let source := Engine.normalize sourceEngine
    let sink := Engine.normalize sinkEngine
    let answer := (run settings events).translated files sourceEngine sinkEngine
    (∀ t, registeredTranslation? events source sink = some t → answer = .ok t) ∧
      (registeredTranslation? events source sink = none →
        (∀ before e t,
          FirstFound (translationFound? source sink) settings events before e t →
            answer = .ok t ∧
              (fresh settings before).translated files sourceEngine sinkEngine = .ok t) ∧
        ((∀ before e t, ¬FoundSince (translationFound? source sink) settings events before e t) →
          answer = (fresh settings events).translated files sourceEngine sinkEngine)) ∧
      (answer.map Translation.content =
          ((fresh settings events).translated files sourceEngine sinkEngine).map
            Translation.content ↔
        ¬Hides settings files events source sink) ∧
      ∀ reverse, registeredTranslation? events source sink = none →
        loadTranslation? settings files source sink = .ok none →
          registeredTranslation? events sink source = some reverse →
            (answer.map Translation.content = .ok reverse.invert.content ↔
              ¬Hides settings files events source sink) := by
  intro events source sink answer
  have hfiles : ∀ e ∈ events, e.files = files := by
    intro e hmem
    obtain ⟨request, -, rfl⟩ := List.mem_map.1 hmem
    rfl
  have hsame := content_translated_run_iff settings hfiles sourceEngine sinkEngine
  refine ⟨fun t hlast => translated_run_of_registered hlast, fun hnone => ⟨?_, ?_⟩, hsame, ?_⟩
  · intro before e t hfirst
    have hfresh := translated_fresh_of_firstFound hnone hfirst
    rw [hfiles e hfirst.mem] at hfresh
    exact ⟨translated_run_of_firstFound hnone hfirst, hfresh⟩
  · intro hnever
    exact translated_run_of_never hnone hnever
  · intro reverse hnone hdirect hreverse
    have hfresh : (fresh settings events).translated files sourceEngine sinkEngine =
        .ok reverse.invert := by
      rw [translated_fresh, hnone]
      exact loadTranslation_of_registered (settings_run settings events) hdirect
        ((get?_registeredTranslations_run settings events sink source).trans hreverse)
    rw [hfresh] at hsame
    exact hsame

/-! ## A registration that stays hidden -/

/-- A translation of money types onto PostgreSQL. -/
def moneyTypes : Translation :=
  Translation.ofEntries "mssql" "postgres" "memory" [("money", "decimal")] "text" "sql_variant"
    false

/-- The reverse pair is looked up before the translation is registered. -/
def moneyRequests : List Request :=
  [.translation "postgres" "mssql", .registerTranslation moneyTypes]

/-- The inversion of the bundled translation is still answered with, where a new catalog answers
with the inversion of the registered one. -/
theorem inversion_outlives_registration :
    ((run {} (requestsOn {} moneyRequests)).translated {} "postgres" "mssql").toOption.map
        Translation.fallback = some "nvarchar(max)" ∧
      ((fresh {} (requestsOn {} moneyRequests)).translated {} "postgres" "mssql").toOption.map
        Translation.content =
          some ("postgres", "mssql", [("decimal", "money")], "sql_variant", true) ∧
      ((run {} (requestsOn {} moneyRequests)).translated {} "postgres" "mssql").toOption.map
          Translation.content ≠
        ((fresh {} (requestsOn {} moneyRequests)).translated {} "postgres" "mssql").toOption.map
          Translation.content := by
  refine ⟨?_, ?_, ?_⟩
  · decide +kernel
  · decide +kernel
  · decide +kernel

end Catalog

end SchemaCrosswalk
