import Mathlib.Data.List.Induction
import SchemaCrosswalk.Proofs.Lookups

/-!
# Runs — what a catalog holds after a sequence of requests

A catalog is asked for maps and translations, is given some of its own, and is told to forget what
it has found. The files may be different at every request.

- `Catalog.step`, `Catalog.run`: one request, and a sequence of them
- `lookUp`: what the look-ups of maps and of translations have in common
- `FoundSince`, `FirstFound`: where an artifact was found since the catalog was told to forget
- `Keeping`: a table of registered artifacts and one of those that were found, step by step
- `Keeping.registered_run`: what is registered for a pair is what was registered last
- `Keeping.kept_run_iff`: what is kept for a pair is what was found first
- `maps_keeping`, `translations_keeping`: maps and translations are kept in this way
-/

namespace SchemaCrosswalk

namespace Catalog

/-! ## Requests -/

/-- What can be asked of a catalog. -/
inductive Request
  | map (sourceEngine sinkEngine : String)
  | translation (sourceEngine sinkEngine : String)
  | registerMap (m : CompatibilityMap)
  | registerTranslation (t : Translation)
  | invalidate

/-- A request together with the files as they are when it is made. -/
structure Event where
  files : FileTree
  request : Request

/-- The catalog after a look-up. One that fails leaves the catalog that was asked. -/
def afterLookup {α : Type} (c : Catalog) (found : Outcome (α × Catalog)) : Catalog :=
  match found with
  | .ok (_, c') => c'
  | .error _ => c

/-- The catalog after a request. -/
def step (c : Catalog) (e : Event) : Catalog :=
  match e.request with
  | .map sourceEngine sinkEngine => c.afterLookup (c.map e.files sourceEngine sinkEngine)
  | .translation sourceEngine sinkEngine =>
      c.afterLookup (c.translation e.files sourceEngine sinkEngine)
  | .registerMap m => c.registerMap m
  | .registerTranslation t => c.registerTranslation t
  | .invalidate => c.invalidate

/-- The catalog after a sequence of requests. -/
def run (settings : ArtifactSettings) (events : List Event) : Catalog :=
  events.foldl step { settings }

theorem run_append_singleton (settings : ArtifactSettings) (events : List Event) (e : Event) :
    run settings (events ++ [e]) = (run settings events).step e :=
  List.foldl_append

/-! ## Look-ups -/

section

variable {α : Type} {c : Catalog} {known : Option α} {load : Outcome α} {keep : α → Catalog}

/-- A look-up answers with what is known, or else with what it loads and then keeps. -/
def lookUp (c : Catalog) (known : Option α) (load : Outcome α) (keep : α → Catalog) :
    Outcome (α × Catalog) :=
  match known with
  | some a => .ok (a, c)
  | none => load.map fun a => (a, keep a)

theorem map_fst_lookUp (c : Catalog) (known : Option α) (load : Outcome α) (keep : α → Catalog) :
    (c.lookUp known load keep).map Prod.fst = known.elim load .ok := by
  cases known with
  | some a => rfl
  | none =>
      cases load with
      | error fault => rfl
      | ok a => rfl

/-- What is kept for a pair after a look-up is what was kept before or, if it is the pair that was
looked up, what was answered. -/
theorem kept_afterLookup_lookUp (kept : Catalog → Option α) (same : Prop) [Decidable same]
    (hknown : same → known = kept c)
    (hkeep : ∀ a, kept (keep a) = if same then some a else kept c) :
    kept (c.afterLookup (c.lookUp known load keep)) =
      (kept c).or
        (if same then ((c.lookUp known load keep).map Prod.fst).toOption else none) := by
  rw [map_fst_lookUp]
  by_cases h : same
  · -- The pair that was looked up is known only if it is kept already.
    rw [if_pos h, hknown h]
    cases hkept : kept c with
    | some a => exact hkept
    | none =>
        cases load with
        | error fault => exact hkept
        | ok a => exact (hkeep a).trans (if_pos h)
  · rw [if_neg h, Option.or_none]
    cases known with
    | some a => rfl
    | none =>
        cases load with
        | error fault => rfl
        | ok a => exact (hkeep a).trans (if_neg h)

/-- After a look-up the catalog is the one that was asked, or one that keeps a result. -/
theorem afterLookup_lookUp_cases (c : Catalog) (known : Option α) (load : Outcome α)
    (keep : α → Catalog) :
    c.afterLookup (c.lookUp known load keep) = c ∨
      ∃ a, c.afterLookup (c.lookUp known load keep) = keep a := by
  cases known with
  | some a => exact Or.inl rfl
  | none =>
      cases load with
      | error fault => exact Or.inl rfl
      | ok a => exact Or.inr ⟨a, rfl⟩

end

theorem map_eq_lookUp (c : Catalog) (files : FileTree) (sourceEngine sinkEngine : String) :
    c.map files sourceEngine sinkEngine =
      c.lookUp (c.known? (Engine.normalize sourceEngine) (Engine.normalize sinkEngine))
        (loadMap c.settings files (Engine.normalize sourceEngine) (Engine.normalize sinkEngine))
        (fun m =>
          { c with
            maps := c.maps.put (Engine.normalize sourceEngine) (Engine.normalize sinkEngine) m }) := by
  unfold map lookUp
  cases hknown : c.known? (Engine.normalize sourceEngine) (Engine.normalize sinkEngine) with
  | some m =>
      have hor : (c.registeredMaps.get? _ _).or (c.maps.get? _ _) = some m := hknown
      simp only [hor]
      rfl
  | none =>
      have hor : (c.registeredMaps.get? _ _).or (c.maps.get? _ _) = none := hknown
      simp only [hor]
      cases loadMap c.settings files (Engine.normalize sourceEngine)
          (Engine.normalize sinkEngine) with
      | error fault => rfl
      | ok m => rfl

/-- The translation that the catalog answers with, without what it then remembers. -/
def translated (c : Catalog) (files : FileTree) (sourceEngine sinkEngine : String) :
    Outcome Translation :=
  (c.translation files sourceEngine sinkEngine).map Prod.fst

/-- The translation of a pair of canonical engines that was registered or is remembered. -/
def knownTranslation? (c : Catalog) (source sink : String) : Option Translation :=
  (c.registeredTranslations.get? source sink).or (c.translations.get? source sink)

theorem translation_eq_lookUp (c : Catalog) (files : FileTree) (sourceEngine sinkEngine : String) :
    c.translation files sourceEngine sinkEngine =
      c.lookUp (c.knownTranslation? (Engine.normalize sourceEngine) (Engine.normalize sinkEngine))
        (c.loadTranslation files (Engine.normalize sourceEngine) (Engine.normalize sinkEngine))
        (fun t =>
          { c with
            translations := c.translations.put (Engine.normalize sourceEngine)
              (Engine.normalize sinkEngine) t }) := by
  unfold translation lookUp
  cases hknown : c.knownTranslation? (Engine.normalize sourceEngine)
      (Engine.normalize sinkEngine) with
  | some t =>
      have hor : (c.registeredTranslations.get? _ _).or (c.translations.get? _ _) = some t := hknown
      simp only [hor]
      rfl
  | none =>
      have hor : (c.registeredTranslations.get? _ _).or (c.translations.get? _ _) = none := hknown
      simp only [hor]
      cases c.loadTranslation files (Engine.normalize sourceEngine)
          (Engine.normalize sinkEngine) with
      | error fault => rfl
      | ok t => rfl

theorem translated_eq (c : Catalog) (files : FileTree) (sourceEngine sinkEngine : String) :
    c.translated files sourceEngine sinkEngine =
      (c.knownTranslation? (Engine.normalize sourceEngine) (Engine.normalize sinkEngine)).elim
        (c.loadTranslation files (Engine.normalize sourceEngine) (Engine.normalize sinkEngine))
        .ok := by
  unfold translated
  rw [translation_eq_lookUp, map_fst_lookUp]

/-! ## What is registered and what is found -/

/-- Whether the catalog is told to forget what it has found. -/
def Event.forgets (e : Event) : Prop := e.request = .invalidate

/-- The map that is registered for a pair of canonical engines, if one is. -/
def mapGiven? (source sink : String) (e : Event) : Option CompatibilityMap :=
  match e.request with
  | .registerMap m =>
      if source = Engine.normalize m.sourceEngine ∧ sink = Engine.normalize m.sinkEngine then some m
      else none
  | _ => none

/-- The translation that is registered for a pair of canonical engines, if one is. -/
def translationGiven? (source sink : String) (e : Event) : Option Translation :=
  match e.request with
  | .registerTranslation t =>
      if source = Engine.normalize t.sourceEngine ∧ sink = Engine.normalize t.sinkEngine then some t
      else none
  | _ => none

/-- The map that was registered last for a pair of canonical engines. -/
def registeredMap? (events : List Event) (source sink : String) : Option CompatibilityMap :=
  (events.filterMap (mapGiven? source sink)).getLast?

/-- The translation that was registered last for a pair of canonical engines. -/
def registeredTranslation? (events : List Event) (source sink : String) : Option Translation :=
  (events.filterMap (translationGiven? source sink)).getLast?

/-- The map that a look-up of a pair of canonical engines is answered with. -/
def mapFound? (source sink : String) (c : Catalog) (e : Event) : Option CompatibilityMap :=
  match e.request with
  | .map sourceEngine sinkEngine =>
      if source = Engine.normalize sourceEngine ∧ sink = Engine.normalize sinkEngine then
        (c.answer e.files sourceEngine sinkEngine).toOption
      else none
  | _ => none

/-- The translation that a look-up of a pair of canonical engines is answered with. -/
def translationFound? (source sink : String) (c : Catalog) (e : Event) : Option Translation :=
  match e.request with
  | .translation sourceEngine sinkEngine =>
      if source = Engine.normalize sourceEngine ∧ sink = Engine.normalize sinkEngine then
        (c.translated e.files sourceEngine sinkEngine).toOption
      else none
  | _ => none

section

variable {α : Type}

/-- Since the catalog was last told to forget, something was found at an event. -/
structure FoundSince (found? : Catalog → Event → Option α) (settings : ArtifactSettings)
    (events before : List Event) (e : Event) (a : α) : Prop where
  stands : ∃ after, events = before ++ e :: after ∧ ∀ later ∈ after, ¬later.forgets
  found : found? (run settings before) e = some a

/-- It was the first to be found. -/
structure FirstFound (found? : Catalog → Event → Option α) (settings : ArtifactSettings)
    (events before : List Event) (e : Event) (a : α) : Prop
    extends FoundSince found? settings events before e a where
  first : ∀ earlier e' a', ¬FoundSince found? settings before earlier e' a'

theorem FoundSince.mem {found? : Catalog → Event → Option α} {settings : ArtifactSettings}
    {events before : List Event} {e : Event} {a : α}
    (h : FoundSince found? settings events before e a) : e ∈ events := by
  obtain ⟨⟨after, rfl, -⟩, -⟩ := h
  exact List.mem_append_right _ List.mem_cons_self

/-- A table of registered artifacts and one of those that were found, for one pair of engines. What
is registered stays; what is found is kept unless something is registered or kept already. -/
structure Keeping (registered kept : Catalog → Option α) (given? : Event → Option α)
    (found? : Catalog → Event → Option α) : Prop where
  registered_start : ∀ settings, registered { settings } = none
  registered_step : ∀ c e, registered (step c e) = (given? e).or (registered c)
  kept_start : ∀ settings, kept { settings } = none
  kept_step : ∀ c e, registered c = none → ¬e.forgets →
    kept (step c e) = (kept c).or (found? c e)
  kept_forget : ∀ c e, e.forgets → kept (step c e) = none
  found_forget : ∀ c e, e.forgets → found? c e = none

variable {registered kept : Catalog → Option α} {given? : Event → Option α}
variable {found? : Catalog → Event → Option α}
variable {settings : ArtifactSettings} {events before : List Event} {e e' : Event} {a : α}

/-! ## Sequences of requests -/

theorem not_foundSince_nil : ¬FoundSince found? settings [] before e a := by
  intro hsince
  exact List.not_mem_nil hsince.mem

/-- One more request: what was found before still counts unless the catalog is told to forget, and
the request itself may find something. -/
theorem foundSince_append_singleton :
    FoundSince found? settings (events ++ [e]) before e' a ↔
      ¬e.forgets ∧ FoundSince found? settings events before e' a ∨
        before = events ∧ e' = e ∧ found? (run settings events) e = some a := by
  constructor
  · rintro ⟨⟨after, hevents, hkept⟩, hfound⟩
    -- The find is the last request or one that the last request comes after.
    rcases List.eq_nil_or_concat after with rfl | ⟨after, last, rfl⟩
    · obtain ⟨rfl, hsingle⟩ := List.append_inj' hevents rfl
      obtain rfl : e = e' := List.singleton_inj.1 hsingle
      exact Or.inr ⟨rfl, rfl, hfound⟩
    · rw [List.concat_eq_append] at hevents hkept
      have hsplit : events ++ [e] = (before ++ e' :: after) ++ [last] := by
        rw [hevents, List.append_assoc, List.cons_append]
      obtain ⟨rfl, hsingle⟩ := List.append_inj' hsplit rfl
      obtain rfl : e = last := List.singleton_inj.1 hsingle
      obtain ⟨hafter, hlast⟩ := List.forall_mem_append.1 hkept
      exact Or.inl ⟨hlast e List.mem_cons_self, ⟨after, rfl, hafter⟩, hfound⟩
  · rintro (⟨hforgets, ⟨after, rfl, hkept⟩, hfound⟩ | ⟨rfl, rfl, hfound⟩)
    · refine ⟨⟨after ++ [e], ?_, ?_⟩, hfound⟩
      · rw [List.append_assoc, List.cons_append]
      · exact List.forall_mem_append.2 ⟨hkept, List.forall_mem_singleton.2 hforgets⟩
    · exact ⟨⟨[], rfl, fun later hmem => absurd hmem List.not_mem_nil⟩, hfound⟩

namespace Keeping

variable (h : Keeping registered kept given? found?)
include h

/-- What is registered is what was registered last. -/
theorem registered_run (settings : ArtifactSettings) (events : List Event) :
    registered (run settings events) = (events.filterMap given?).getLast? := by
  induction events using List.reverseRecOn with
  | nil => exact h.registered_start settings
  | append_singleton events e ih =>
      rw [run_append_singleton, h.registered_step, ih, List.filterMap_append,
        List.getLast?_append]
      cases hgiven : given? e with
      | none => simp [hgiven]
      | some a => simp [hgiven]

/-- Where nothing is registered after a sequence of requests, nothing was before. -/
theorem registered_eq_none_of_append (later : List Event)
    (hnone : registered (run settings (events ++ later)) = none) :
    registered (run settings events) = none := by
  rw [h.registered_run, List.filterMap_append, List.getLast?_append] at hnone
  rw [h.registered_run]
  exact (Option.or_eq_none_iff.1 hnone).2

theorem not_foundSince_of_forgets (hforgets : e'.forgets) :
    ¬FoundSince found? settings (events ++ [e']) before e a := by
  intro hsince
  rcases foundSince_append_singleton.1 hsince with ⟨hkept, -⟩ | ⟨-, rfl, hfound⟩
  · exact hkept hforgets
  · rw [h.found_forget _ _ hforgets] at hfound
    cases hfound

/-- Where nothing is registered, nothing is kept unless something was found since the catalog was
last told to forget. -/
theorem kept_run_eq_none_iff (hnone : registered (run settings events) = none) :
    kept (run settings events) = none ↔
      ∀ before e a, ¬FoundSince found? settings events before e a := by
  induction events using List.reverseRecOn with
  | nil => exact iff_of_true (h.kept_start settings) fun before e a => not_foundSince_nil
  | append_singleton events last ih =>
      have hbefore := h.registered_eq_none_of_append [last] hnone
      rw [run_append_singleton]
      by_cases hforgets : last.forgets
      · exact iff_of_true (h.kept_forget _ last hforgets) fun before e a =>
          h.not_foundSince_of_forgets hforgets
      · rw [h.kept_step _ last hbefore hforgets, Option.or_eq_none_iff, ih hbefore]
        simp only [foundSince_append_singleton, not_or]
        constructor
        · rintro ⟨hsince, hfound⟩ before e a
          refine ⟨fun hkept => hsince before e a hkept.2, ?_⟩
          rintro ⟨-, -, hsome⟩
          rw [hfound] at hsome
          cases hsome
        · intro hall
          refine ⟨fun before e a hsince => (hall before e a).1 ⟨hforgets, hsince⟩, ?_⟩
          refine Option.eq_none_iff_forall_ne_some.2 fun a hsome => ?_
          exact (hall events last a).2 ⟨rfl, rfl, hsome⟩

/-- Where nothing is registered, what is kept is what was found first since the catalog was last
told to forget. -/
theorem kept_run_iff (hnone : registered (run settings events) = none) :
    kept (run settings events) = some a ↔
      ∃ before e, FirstFound found? settings events before e a := by
  induction events using List.reverseRecOn with
  | nil =>
      have hstart : kept (run settings []) = none := h.kept_start settings
      rw [hstart]
      refine iff_of_false nofun ?_
      rintro ⟨before, e, hsince, -⟩
      exact not_foundSince_nil hsince
  | append_singleton events last ih =>
      have hbefore := h.registered_eq_none_of_append [last] hnone
      rw [run_append_singleton]
      by_cases hforgets : last.forgets
      · rw [h.kept_forget _ last hforgets]
        refine iff_of_false nofun ?_
        rintro ⟨before, e, hsince, -⟩
        exact h.not_foundSince_of_forgets hforgets hsince
      · -- What the last request finds is kept only where nothing was found before it.
        rw [h.kept_step _ last hbefore hforgets, Option.or_eq_some_iff, ih hbefore,
          h.kept_run_eq_none_iff hbefore]
        constructor
        · rintro (⟨before, e, hsince, hfirst⟩ | ⟨hfirst, hfound⟩)
          · exact ⟨before, e, foundSince_append_singleton.2 (Or.inl ⟨hforgets, hsince⟩), hfirst⟩
          · exact ⟨events, last, foundSince_append_singleton.2 (Or.inr ⟨rfl, rfl, hfound⟩), hfirst⟩
        · rintro ⟨before, e, hsince, hfirst⟩
          rcases foundSince_append_singleton.1 hsince with ⟨-, hkept⟩ | ⟨rfl, rfl, hfound⟩
          · exact Or.inl ⟨before, e, hkept, hfirst⟩
          · exact Or.inr ⟨hfirst, hfound⟩

/-- Where nothing is registered, nothing was known of the pair before the first find. -/
theorem unknown_of_firstFound (hnone : registered (run settings events) = none)
    (hfirst : FirstFound found? settings events before e a) :
    registered (run settings before) = none ∧ kept (run settings before) = none := by
  obtain ⟨⟨⟨after, rfl, -⟩, -⟩, hfirst⟩ := hfirst
  have hbefore := h.registered_eq_none_of_append (e :: after) hnone
  exact ⟨hbefore, (h.kept_run_eq_none_iff hbefore).2 hfirst⟩

end Keeping

end

/-- A look-up that is answered with an error. -/
def Event.Fails (c : Catalog) (e : Event) : Prop :=
  match e.request with
  | .map sourceEngine sinkEngine => ∃ fault, c.map e.files sourceEngine sinkEngine = .error fault
  | .translation sourceEngine sinkEngine =>
      ∃ fault, c.translation e.files sourceEngine sinkEngine = .error fault
  | _ => False

/-- A look-up that fails leaves the catalog as it was. -/
theorem step_of_fails {c : Catalog} {e : Event} (h : e.Fails c) : c.step e = c := by
  obtain ⟨files, request⟩ := e
  unfold step
  cases request with
  | map sourceEngine sinkEngine =>
      obtain ⟨fault, hfault⟩ : ∃ fault, c.map files sourceEngine sinkEngine = .error fault := h
      dsimp only
      rw [hfault]
      rfl
  | translation sourceEngine sinkEngine =>
      obtain ⟨fault, hfault⟩ : ∃ fault,
        c.translation files sourceEngine sinkEngine = .error fault := h
      dsimp only
      rw [hfault]
      rfl
  | registerMap m => exact h.elim
  | registerTranslation t => exact h.elim
  | invalidate => exact h.elim

/-- After a look-up that failed the catalog goes on as if it had not been made. -/
theorem run_append_of_fails {settings : ArtifactSettings} {events : List Event} {e : Event}
    (h : e.Fails (run settings events)) (later : List Event) :
    run settings (events ++ e :: later) = run settings (events ++ later) := by
  unfold run at *
  rw [List.foldl_append, List.foldl_append, List.foldl_cons, step_of_fails h]

/-! ## Maps and translations -/

/-- Looking up a map changes nothing but the maps that are kept. -/
theorem exists_afterLookup_map_eq (c : Catalog) (files : FileTree)
    (sourceEngine sinkEngine : String) :
    ∃ maps, c.afterLookup (c.map files sourceEngine sinkEngine) = { c with maps } := by
  rw [map_eq_lookUp]
  rcases afterLookup_lookUp_cases c _ _ _ with h | ⟨m, h⟩
  · exact ⟨c.maps, h⟩
  · exact ⟨_, h⟩

/-- Looking up a translation changes nothing but the translations that are kept. -/
theorem exists_afterLookup_translation_eq (c : Catalog) (files : FileTree)
    (sourceEngine sinkEngine : String) :
    ∃ translations,
      c.afterLookup (c.translation files sourceEngine sinkEngine) = { c with translations } := by
  rw [translation_eq_lookUp]
  rcases afterLookup_lookUp_cases c _ _ _ with h | ⟨t, h⟩
  · exact ⟨c.translations, h⟩
  · exact ⟨_, h⟩

theorem registeredMaps_step (c : Catalog) (e : Event) (source sink : String) :
    (c.step e).registeredMaps.get? source sink =
      (mapGiven? source sink e).or (c.registeredMaps.get? source sink) := by
  obtain ⟨files, request⟩ := e
  unfold step mapGiven?
  cases request with
  | map sourceEngine sinkEngine =>
      dsimp only
      obtain ⟨maps, h⟩ := exists_afterLookup_map_eq c files sourceEngine sinkEngine
      rw [h, Option.none_or]
  | translation sourceEngine sinkEngine =>
      dsimp only
      obtain ⟨translations, h⟩ := exists_afterLookup_translation_eq c files sourceEngine sinkEngine
      rw [h, Option.none_or]
  | registerMap m =>
      dsimp only
      unfold registerMap
      rw [PairTable.get?_put]
      split
      · rw [Option.some_or]
      · rw [Option.none_or]
  | registerTranslation t => rfl
  | invalidate => rfl

theorem registeredTranslations_step (c : Catalog) (e : Event) (source sink : String) :
    (c.step e).registeredTranslations.get? source sink =
      (translationGiven? source sink e).or (c.registeredTranslations.get? source sink) := by
  obtain ⟨files, request⟩ := e
  unfold step translationGiven?
  cases request with
  | map sourceEngine sinkEngine =>
      dsimp only
      obtain ⟨maps, h⟩ := exists_afterLookup_map_eq c files sourceEngine sinkEngine
      rw [h, Option.none_or]
  | translation sourceEngine sinkEngine =>
      dsimp only
      obtain ⟨translations, h⟩ := exists_afterLookup_translation_eq c files sourceEngine sinkEngine
      rw [h, Option.none_or]
  | registerMap m => rfl
  | registerTranslation t =>
      dsimp only
      unfold registerTranslation
      rw [PairTable.get?_put]
      split
      · rw [Option.some_or]
      · rw [Option.none_or]
  | invalidate => rfl

theorem maps_step (c : Catalog) (e : Event) (source sink : String)
    (hnone : c.registeredMaps.get? source sink = none) (hforgets : ¬e.forgets) :
    (c.step e).maps.get? source sink =
      (c.maps.get? source sink).or (mapFound? source sink c e) := by
  obtain ⟨files, request⟩ := e
  unfold step mapFound?
  cases request with
  | map sourceEngine sinkEngine =>
      dsimp only
      unfold answer
      rw [map_eq_lookUp]
      apply kept_afterLookup_lookUp (fun c => c.maps.get? source sink)
        (source = Engine.normalize sourceEngine ∧ sink = Engine.normalize sinkEngine)
      · rintro ⟨hsource, hsink⟩
        rw [← hsource, ← hsink]
        unfold known?
        rw [hnone, Option.none_or]
      · exact fun m => PairTable.get?_put _ _ _ _ _ _
  | translation sourceEngine sinkEngine =>
      dsimp only
      obtain ⟨translations, h⟩ := exists_afterLookup_translation_eq c files sourceEngine sinkEngine
      rw [h, Option.or_none]
  | registerMap m => exact (Option.or_none).symm
  | registerTranslation t => exact (Option.or_none).symm
  | invalidate => exact absurd rfl hforgets

theorem translations_step (c : Catalog) (e : Event) (source sink : String)
    (hnone : c.registeredTranslations.get? source sink = none) (hforgets : ¬e.forgets) :
    (c.step e).translations.get? source sink =
      (c.translations.get? source sink).or (translationFound? source sink c e) := by
  obtain ⟨files, request⟩ := e
  unfold step translationFound?
  cases request with
  | map sourceEngine sinkEngine =>
      dsimp only
      obtain ⟨maps, h⟩ := exists_afterLookup_map_eq c files sourceEngine sinkEngine
      rw [h, Option.or_none]
  | translation sourceEngine sinkEngine =>
      dsimp only
      unfold translated
      rw [translation_eq_lookUp]
      apply kept_afterLookup_lookUp (fun c => c.translations.get? source sink)
        (source = Engine.normalize sourceEngine ∧ sink = Engine.normalize sinkEngine)
      · rintro ⟨hsource, hsink⟩
        rw [← hsource, ← hsink]
        unfold knownTranslation?
        rw [hnone, Option.none_or]
      · exact fun t => PairTable.get?_put _ _ _ _ _ _
  | registerMap m => exact (Option.or_none).symm
  | registerTranslation t => exact (Option.or_none).symm
  | invalidate => exact absurd rfl hforgets

theorem maps_keeping (source sink : String) :
    Keeping (fun c => c.registeredMaps.get? source sink) (fun c => c.maps.get? source sink)
      (mapGiven? source sink) (mapFound? source sink) where
  registered_start settings := rfl
  registered_step c e := registeredMaps_step c e source sink
  kept_start settings := rfl
  kept_step c e := maps_step c e source sink
  kept_forget c e hforgets := by
    obtain ⟨files, request⟩ := e
    obtain rfl : request = .invalidate := hforgets
    rfl
  found_forget c e hforgets := by
    obtain ⟨files, request⟩ := e
    obtain rfl : request = .invalidate := hforgets
    rfl

theorem translations_keeping (source sink : String) :
    Keeping (fun c => c.registeredTranslations.get? source sink)
      (fun c => c.translations.get? source sink) (translationGiven? source sink)
      (translationFound? source sink) where
  registered_start settings := rfl
  registered_step c e := registeredTranslations_step c e source sink
  kept_start settings := rfl
  kept_step c e := translations_step c e source sink
  kept_forget c e hforgets := by
    obtain ⟨files, request⟩ := e
    obtain rfl : request = .invalidate := hforgets
    rfl
  found_forget c e hforgets := by
    obtain ⟨files, request⟩ := e
    obtain rfl : request = .invalidate := hforgets
    rfl

theorem get?_registeredMaps_run (settings : ArtifactSettings) (events : List Event)
    (source sink : String) :
    (run settings events).registeredMaps.get? source sink = registeredMap? events source sink :=
  (maps_keeping source sink).registered_run settings events

theorem get?_registeredTranslations_run (settings : ArtifactSettings) (events : List Event)
    (source sink : String) :
    (run settings events).registeredTranslations.get? source sink =
      registeredTranslation? events source sink :=
  (translations_keeping source sink).registered_run settings events

/-! ## Settings -/

theorem settings_step (c : Catalog) (e : Event) : (c.step e).settings = c.settings := by
  obtain ⟨files, request⟩ := e
  unfold step
  cases request with
  | map sourceEngine sinkEngine =>
      dsimp only
      obtain ⟨maps, h⟩ := exists_afterLookup_map_eq c files sourceEngine sinkEngine
      rw [h]
  | translation sourceEngine sinkEngine =>
      dsimp only
      obtain ⟨translations, h⟩ := exists_afterLookup_translation_eq c files sourceEngine sinkEngine
      rw [h]
  | registerMap m => rfl
  | registerTranslation t => rfl
  | invalidate => rfl

theorem settings_run (settings : ArtifactSettings) (events : List Event) :
    (run settings events).settings = settings := by
  induction events using List.reverseRecOn with
  | nil => rfl
  | append_singleton events e ih => rw [run_append_singleton, settings_step, ih]

end Catalog

end SchemaCrosswalk
