import SchemaCrosswalk.Proofs.Checker
import SchemaCrosswalk.Proofs.Overrides.Runs

/-!
# Consumers — accepted overrides can be read by everyone who reads the column

An override is accepted if it can populate every sink column that the source column feeds. It is
checked before it is stored, for the names in the request; it is in effect later, under the spelling
that it was stored with. Along a run in which the maps of the catalog are the same throughout, every
override in effect can populate the sink columns that its column feeds.

* `OverrideManager.FixedMaps`: a run in which the catalog goes on finding the same maps
* `OverrideManager.Fed`: the invariant of such runs
* `OverrideManager.fed_step`: what one request preserves
* `OverrideManager.run_populates_consumers`: what holds along every such run
-/

namespace SchemaCrosswalk

open Text

namespace OverrideManager

variable {m : OverrideManager} {r : OverrideRegistry} {s : OverrideState} {w w' w₀ w₁ : Workspace}
variable {engine table column type : String} {q : Timestamp × OverrideRequest}

/-! ## The invariant -/

/-- The search directories of the catalog hold the same maps in other files. -/
def HoldsMapsOf (w₀ : Workspace) (files : FileTree) : Prop :=
  ∀ source sink, Catalog.loadMap w₀.catalog.settings files source sink =
    Catalog.loadMap w₀.catalog.settings w₀.files source sink

/-- The search directories hold the same maps after each request of a run. -/
def FixedMaps (m : OverrideManager) (s : OverrideState)
    (requests : List (Timestamp × OverrideRequest)) : Prop :=
  ∀ done, done <+: requests → HoldsMapsOf s.workspace (m.run s done).workspace.files

/-- The catalog answers as it did at the start, and every override can populate the sink columns
that its column feeds. -/
structure Fed (m : OverrideManager) (engine : String) (w₀ : Workspace) (s : OverrideState) :
    Prop where
  engine_eq : s.registry.engine = engine
  valid : s.registry.document.flaw? = none
  settings_eq : s.workspace.catalog.settings = w₀.catalog.settings
  mapFor_eq : ∀ source sink, s.workspace.mapFor source sink = w₀.mapFor source sink
  populates : ∀ e ∈ s.registry.entries, m.Populates w₀ engine e.table e.column e.type

/-- Persisting a document changes nothing but files, whether it fails or not. -/
theorem eq_of_persist {store : OverrideStore} {group : String} {d : OverrideDocument}
    {o : Outcome Unit} (h : (store.persist group d).runOn w = (o, w')) :
    w' = { w with files := w'.files } := by
  unfold OverrideStore.persist at h
  have hpath := Session.runOn_ofOutcome (store.path group) w
  rcases hplace : store.path group with fault | path
  · rw [hplace] at hpath h
    rw [Session.runOn_bind_of_error hpath] at h
    cases h
    rfl
  · rw [hplace] at hpath h
    rw [Session.runOn_bind_of_ok hpath] at h
    cases h
    rfl

/-- The catalog answers as before a document was persisted, if the search directories hold the same
maps as before. -/
theorem mapFor_persist {store : OverrideStore} {group : String} {d : OverrideDocument}
    {o : Outcome Unit} (hagrees : w.Agrees w₁)
    (hpersist : (store.persist group d).runOn w₁ = (o, w')) (hmaps : HoldsMapsOf w w'.files)
    (source sink : String) : w'.mapFor source sink = w.mapFor source sink := by
  have hsame : ∀ source sink, Catalog.loadMap w₁.catalog.settings w'.files source sink =
      Catalog.loadMap w₁.catalog.settings w₁.files source sink := by
    rw [hagrees.settings_eq, hagrees.files_eq]
    exact hmaps
  calc w'.mapFor source sink
      = w₁.catalog.answer w'.files source sink := by rw [eq_of_persist hpersist, Workspace.mapFor]
    _ = w₁.mapFor source sink := Catalog.answer_congr hsame source sink
    _ = w.mapFor source sink := hagrees.mapFor_eq source sink

/-- An accepted request leaves overrides that can populate what they feed. -/
theorem Leads.populates {request : OverrideRequest} {d : OverrideDocument}
    (hleads : m.Leads w r request d)
    (h : ∀ e ∈ r.entries, m.Populates w r.engine e.table e.column e.type) :
    ∀ e ∈ d.entries, m.Populates w r.engine e.table e.column e.type := by
  intro e hmem
  cases hleads with
  | @set table column type hnew hfull hpopulates =>
      have hperm := OverrideDocument.insert_entries_perm (trim type)
        (OverrideRegistry.get?_eq_none_iff.1 hnew)
      rcases List.mem_cons.1 (hperm.subset hmem) with rfl | hold
      · -- The override is stored under another spelling than the requested one, and trimmed again.
        have htype : (r.document.added table column (trim type)).type = trim type := trim_trim type
        rw [htype]
        exact hpopulates.of_foldedKey_eq OverrideDocument.key_added
      · exact h e hold
  | remove hremove =>
      obtain ⟨-, removed, -, -, hperm⟩ := OverrideDocument.remove_entries_perm hremove
      exact h e (hperm.symm.subset (List.mem_cons_of_mem _ hmem))

/-- Whether a document is persisted or not, the catalog answers as before if the search directories
hold the same maps before and after it. -/
theorem Fed.answers_persist {store : OverrideStore} {group : String} {d : OverrideDocument}
    {o : Outcome Unit} (h : m.Fed engine w₀ s) (hbefore : HoldsMapsOf w₀ s.workspace.files)
    (hagrees : (s.workspace.at q.1).Agrees w) (hpersist : (store.persist group d).runOn w = (o, w'))
    (hafter : HoldsMapsOf w₀ w'.files) :
    w'.catalog.settings = w₀.catalog.settings ∧
      ∀ source sink, w'.mapFor source sink = w₀.mapFor source sink := by
  have hmaps : HoldsMapsOf (s.workspace.at q.1) w'.files := by
    intro source sink
    show Catalog.loadMap s.workspace.catalog.settings w'.files source sink =
      Catalog.loadMap s.workspace.catalog.settings s.workspace.files source sink
    rw [h.settings_eq, hbefore]
    exact hafter source sink
  refine ⟨?_, fun source sink => ?_⟩
  · rw [eq_of_persist hpersist]
    exact hagrees.settings_eq.trans h.settings_eq
  · exact (mapFor_persist hagrees hpersist hmaps source sink).trans (h.mapFor_eq source sink)

/-- One request leaves every override able to populate what its column feeds, as long as the maps in
the search directories are the same before and after it. -/
theorem fed_step (h : m.Fed engine w₀ s) (hbefore : HoldsMapsOf w₀ s.workspace.files)
    (hafter : HoldsMapsOf w₀ (m.step s q).workspace.files) : m.Fed engine w₀ (m.step s q) := by
  have hstep := m.step_spec s q
  generalize m.step s q = s' at hstep hafter ⊢
  cases hstep with
  | kept hagrees =>
      exact ⟨h.engine_eq, h.valid, hagrees.settings_eq.trans h.settings_eq, fun source sink =>
        (hagrees.mapFor_eq source sink).trans (h.mapFor_eq source sink), h.populates⟩
  | failed hleads hagrees hpersist =>
      obtain ⟨hsettings, hmapFor⟩ := h.answers_persist hbefore hagrees hpersist hafter
      exact ⟨h.engine_eq, h.valid, hsettings, hmapFor, h.populates⟩
  | committed hleads hagrees hpersist =>
      obtain ⟨hsettings, hmapFor⟩ := h.answers_persist hbefore hagrees hpersist hafter
      refine ⟨h.engine_eq, hleads.flaw?_eq_none h.valid, hsettings, hmapFor, ?_⟩
      -- The request was checked with the maps of its own workspace, which are those of the start.
      have hthere : ∀ e ∈ s.registry.entries,
          m.Populates (s.workspace.at q.1) s.registry.engine e.table e.column e.type := by
        intro e hmem
        rw [h.engine_eq]
        exact (h.populates e hmem).of_mapFor_eq h.mapFor_eq
      intro e hmem
      have hpopulates := hleads.populates hthere e hmem
      rw [h.engine_eq] at hpopulates
      exact hpopulates.of_mapFor_eq fun source sink => (h.mapFor_eq source sink).symm

/-! ## Runs -/

/-- Without search directories there are no maps that could change. -/
theorem holdsMapsOf_of_no_paths (hpaths : w.catalog.settings.compatibilityPaths = [])
    (files : FileTree) : HoldsMapsOf w files := by
  intro source sink
  have hnone : ∀ (files : FileTree) (names : List String), Catalog.findFile? files
      w.catalog.settings.compatibilityPaths names = none := by
    intro files names
    rw [hpaths]
    rfl
  unfold Catalog.loadMap
  simp only [hnone]

theorem fixedMaps_of_no_paths (hpaths : s.workspace.catalog.settings.compatibilityPaths = [])
    (requests : List (Timestamp × OverrideRequest)) : m.FixedMaps s requests :=
  fun _ _ => holdsMapsOf_of_no_paths hpaths _

theorem fed_empty (m : OverrideManager) (group engine : String) (w : Workspace) :
    m.Fed engine w ⟨.empty group engine, w⟩ :=
  ⟨rfl, rfl, rfl, fun _ _ => rfl, fun _ hmem => absurd hmem List.not_mem_nil⟩

theorem fed_run {group : String} (requests : List (Timestamp × OverrideRequest))
    (hfixed : m.FixedMaps ⟨.empty group engine, w⟩ requests) :
    m.Fed engine w (m.run ⟨.empty group engine, w⟩ requests) := by
  induction requests using List.reverseRecOn with
  | nil => exact fed_empty m group engine w
  | append_singleton requests q ih =>
      have hafter := hfixed _ (List.prefix_refl _)
      rw [run_append_singleton] at hafter ⊢
      refine fed_step (ih fun done hdone => ?_) ?_ hafter
      · exact hfixed done (hdone.trans (List.prefix_append _ _))
      · exact hfixed requests (List.prefix_append _ _)

/-- A checker with the overrides decides on a column with an override by the type of the override,
whatever type is declared. -/
theorem isCompatible_of_get?_eq_some (map : CompatibilityMap)
    (hget : r.get? table column = some type) (declared sinkType : String) :
    ({ map, overrides := some r } : Checker).isCompatible declared sinkType (some ⟨table, column⟩) =
      ({ map } : Checker).isCompatible type sinkType none := by
  have heffective : ({ map, overrides := some r } : Checker).effectiveType declared
      (some ⟨table, column⟩) = type := by
    show (r.get? table column).getD declared = type
    rw [hget, Option.getD_some]
  rw [← Checker.isCompatible_plain _ declared sinkType (some ⟨table, column⟩) none, heffective]
  rfl

/-- Whatever requests are made of a group without overrides, there is a map for every sink column
that a column with an override feeds, and under the override any declared type can populate it. -/
theorem run_populates_consumers {group : String} (requests : List (Timestamp × OverrideRequest))
    (hfixed : m.FixedMaps ⟨.empty group engine, w⟩ requests) :
    let s := m.run ⟨.empty group engine, w⟩ requests
    ∀ e ∈ s.registry.entries, ∀ u ∈ m.usages,
      namesMatch u.sourceTable e.table = true → namesMatch u.sourceColumn e.column = true →
        ∃ map, s.workspace.mapFor engine u.usage.targetEngine = .ok map ∧
          ∀ declared, ({ map, overrides := some s.registry } : Checker).isCompatible declared
            u.usage.targetType (some ⟨e.table, e.column⟩) = true := by
  intro s e hmem u husage htable hcolumn
  have hfed : m.Fed engine w s := fed_run requests hfixed
  have hlisted : u.usage ∈ Snapshot.usagesOf m.usages e.table e.column := by
    refine List.mem_map.2 ⟨u, List.mem_filter.2 ⟨husage, ?_⟩, rfl⟩
    rw [htable, hcolumn, Bool.and_self]
  obtain ⟨map, hmap, hcompatible⟩ := hfed.populates e hmem u.usage hlisted
  refine ⟨map, (hfed.mapFor_eq _ _).trans hmap, fun declared => ?_⟩
  rw [isCompatible_of_get?_eq_some map (OverrideRegistry.get?_of_mem hfed.valid hmem)]
  exact hcompatible

/-- A manager that knows of one column that amounts of orders are written to. -/
def amountManager : OverrideManager where
  store := { directory := "overrides" }
  usages := [⟨"dbo.Orders", "Amount", ⟨"pg", "public.orders", "amount", "integer"⟩⟩]

/-- A workspace with a map by which `int` and nothing else can populate `integer`. -/
def amountWorkspace : Workspace where
  catalog := Catalog.registerMap {} {
    sourceEngine := "mssql", sinkEngine := "postgres", origin := "orders.yaml"
    sourceAliases := ⟨Dictionary.empty, true⟩
    sinkAliases := ⟨Dictionary.empty, true⟩
    casts := Dictionary.ofList [("int", "integer")]
    wider := Dictionary.empty
    wildcard := Dictionary.empty
    stripsParameters := true }

/-- Two overrides of the column, of which only the second one can be written. -/
def amountRequests : List (Timestamp × OverrideRequest) :=
  [(⟨20000, 0, 0⟩, .set "dbo.Orders" "Amount" "varchar(9)"),
    (⟨20001, 60, 0⟩, .set "DBO.ORDERS" "amount" " int ")]

theorem run_populates_consumers_amount :
    let s := amountManager.run ⟨.empty "erp" "sqlserver", amountWorkspace⟩ amountRequests
    s.registry.entries = [⟨"DBO.ORDERS", "amount", "int"⟩] ∧
      ∃ map, s.workspace.mapFor "sqlserver" "pg" = .ok map ∧
        ∀ declared, ({ map, overrides := some s.registry } : Checker).isCompatible declared
          "integer" (some ⟨"DBO.ORDERS", "amount"⟩) = true := by
  intro s
  have hentries : s.registry.entries = [⟨"DBO.ORDERS", "amount", "int"⟩] := by
    decide +kernel
  have hmem : (⟨"DBO.ORDERS", "amount", "int"⟩ : OverrideEntry) ∈ s.registry.entries := by
    rw [hentries]
    exact List.mem_singleton_self _
  have hfixed := fixedMaps_of_no_paths (m := amountManager)
    (s := ⟨.empty "erp" "sqlserver", amountWorkspace⟩) rfl amountRequests
  have hall := run_populates_consumers (m := amountManager) amountRequests hfixed
  exact ⟨hentries, hall ⟨"DBO.ORDERS", "amount", "int"⟩ hmem
    ⟨"dbo.Orders", "Amount", ⟨"pg", "public.orders", "amount", "integer"⟩⟩
    (List.mem_singleton_self _) (by decide +kernel) (by decide +kernel)⟩

end OverrideManager

end SchemaCrosswalk
