import SchemaCrosswalk.Overrides.Manager
import SchemaCrosswalk.Proofs.Lookups
import SchemaCrosswalk.Proofs.Overrides.Document

/-!
# Usages — what a manager finds out about the sink columns that a source column feeds

Sink columns are asked about in the order in which they are listed. The first one for which no map
is found ends the search. Where there is a map for every one of them, a type can populate them all,
or there is a first one that it cannot populate.

* `OverrideManager.Mapped`, `OverrideManager.Populates`: there are maps, and they allow a type
* `OverrideManager.FirstUnmapped`, `OverrideManager.FirstBroken`: the first sink column for which
  there is no map, and the first one that a type cannot populate
* `OverrideManager.exists_consumersFound`, `OverrideManager.exists_consumersChecked`: all that can
  come of asking
-/

namespace SchemaCrosswalk

/-- A source column is fed to the same sink columns in any spelling. -/
theorem Snapshot.usagesOf_congr {table column table' column' : String}
    (hkey : OverrideDocument.foldedKey table' column' = OverrideDocument.foldedKey table column)
    (usages : List RecordedUsage) :
    usagesOf usages table' column' = usagesOf usages table column := by
  have hnames := Prod.mk.inj hkey
  unfold usagesOf
  simp only [Text.namesMatch_congr hnames.1, Text.namesMatch_congr hnames.2]

namespace OverrideManager

variable {m : OverrideManager} {w w' : Workspace} {u : SinkUsage}
variable {engine table column type table' column' : String}

/-! ## What maps say of sink columns -/

/-- A map is found for the engine of a sink column, and it lets a type populate the column. -/
def Accepts (w : Workspace) (engine type : String) (u : SinkUsage) : Prop :=
  ∃ map, w.mapFor engine u.targetEngine = .ok map ∧
    ({ map } : Checker).isCompatible type u.targetType none = true

/-- A type can populate all sink columns that a source column feeds. -/
def Populates (m : OverrideManager) (w : Workspace) (engine table column type : String) : Prop :=
  ∀ u ∈ Snapshot.usagesOf m.usages table column, ∃ map,
    w.mapFor engine u.targetEngine = .ok map ∧
      ({ map } : Checker).isCompatible type u.targetType none = true

/-- A map is found for every sink column that a source column feeds. -/
def Mapped (m : OverrideManager) (w : Workspace) (engine table column : String) : Prop :=
  ∀ u ∈ Snapshot.usagesOf m.usages table column, ∃ map, w.mapFor engine u.targetEngine = .ok map

/-- The first sink column that a source column feeds for which no map is found, and why. -/
def FirstUnmapped (m : OverrideManager) (w : Workspace) (engine table column : String)
    (u : SinkUsage) (fault : Fault) : Prop :=
  ∃ before after, Snapshot.usagesOf m.usages table column = before ++ u :: after ∧
    (∀ v ∈ before, ∃ map, w.mapFor engine v.targetEngine = .ok map) ∧
    w.mapFor engine u.targetEngine = .error fault

/-- The first sink column that a source column feeds that a type cannot populate, and its map. -/
def FirstBroken (m : OverrideManager) (w : Workspace) (engine table column type : String)
    (u : SinkUsage) (map : CompatibilityMap) : Prop :=
  ∃ before after, Snapshot.usagesOf m.usages table column = before ++ u :: after ∧
    (∀ v ∈ before, Accepts w engine type v) ∧
    w.mapFor engine u.targetEngine = .ok map ∧
    ({ map } : Checker).isCompatible type u.targetType none = false

theorem Populates.of_mapFor_eq
    (hmaps : ∀ source sink, w'.mapFor source sink = w.mapFor source sink)
    (h : m.Populates w engine table column type) : m.Populates w' engine table column type := by
  intro u hmem
  obtain ⟨map, hmap, hcompatible⟩ := h u hmem
  exact ⟨map, (hmaps _ _).trans hmap, hcompatible⟩

theorem Populates.of_foldedKey_eq
    (hkey : OverrideDocument.foldedKey table' column' = OverrideDocument.foldedKey table column)
    (h : m.Populates w engine table column type) : m.Populates w engine table' column' type := by
  unfold Populates
  rw [Snapshot.usagesOf_congr hkey]
  exact h

theorem Populates.mapped (h : m.Populates w engine table column type) :
    m.Mapped w engine table column := by
  intro u hmem
  obtain ⟨map, hmap, -⟩ := h u hmem
  exact ⟨map, hmap⟩

theorem FirstUnmapped.not_mapped {fault : Fault}
    (h : m.FirstUnmapped w engine table column u fault) : ¬ m.Mapped w engine table column := by
  obtain ⟨before, after, husages, -, hmissing⟩ := h
  intro hmapped
  obtain ⟨map, hmap⟩ := hmapped u (husages ▸ List.mem_append_right _ List.mem_cons_self)
  rw [hmissing] at hmap
  cases hmap

/-! ## Asking about sink columns -/

/-- Whether a type could not populate the sink column of a usage, by the map that is answered
with. -/
def brokenBy (engine type : String) (maps : MapFinder) (u : SinkUsage) : Outcome Bool :=
  (maps engine u.targetEngine).map fun map =>
    !({ map } : Checker).isCompatible type u.targetType none

/-- Whether a type is known not to populate the sink column of a usage. -/
def rejects (w : Workspace) (engine type : String) (u : SinkUsage) : Bool :=
  isAccepted (brokenBy engine type w.mapFor u)

theorem brokenBy_eq_error_iff {maps : MapFinder} {fault : Fault} :
    brokenBy engine type maps u = .error fault ↔ maps engine u.targetEngine = .error fault := by
  unfold brokenBy
  cases maps engine u.targetEngine with
  | error fault' => simp [Except.map]
  | ok map => simp [Except.map]

theorem exists_brokenBy_eq_ok_iff {maps : MapFinder} :
    (∃ broken, brokenBy engine type maps u = .ok broken) ↔
      ∃ map, maps engine u.targetEngine = .ok map := by
  unfold brokenBy
  cases maps engine u.targetEngine with
  | error fault => simp [Except.map]
  | ok map => simp [Except.map]

theorem rejects_of_mapFor {map : CompatibilityMap}
    (hmap : w.mapFor engine u.targetEngine = .ok map) :
    rejects w engine type u = !({ map } : Checker).isCompatible type u.targetType none := by
  unfold rejects brokenBy
  rw [hmap]
  rfl

theorem accepts_of_rejects_eq_false {map : CompatibilityMap}
    (hmap : w.mapFor engine u.targetEngine = .ok map) (h : rejects w engine type u = false) :
    Accepts w engine type u := by
  rw [rejects_of_mapFor hmap, Bool.not_eq_false'] at h
  exact ⟨map, hmap, h⟩

theorem consults_isBroken (engine type : String) (u : SinkUsage) :
    (isBroken engine type u).Consults fun maps => brokenBy engine type maps u := by
  refine (Session.consults_bind (Session.consults_checker _ _) fun _ =>
    Session.consults_pure _).congr fun maps => ?_
  unfold brokenBy
  cases maps engine u.targetEngine <;> rfl

theorem consults_incompatibleConsumers (m : OverrideManager) (engine table column type : String) :
    (m.incompatibleConsumers engine table column type).Consults fun maps =>
      (Snapshot.usagesOf m.usages table column).filterM (brokenBy engine type maps) :=
  Session.consults_filterM (consults_isBroken engine type) _

/-- What comes of asking which sink columns a type could not populate. -/
inductive ConsumersFound (m : OverrideManager) (w : Workspace)
    (engine table column type : String) : Outcome (List SinkUsage) → Prop
  | unmapped {u : SinkUsage} {fault : Fault}
      (hfirst : m.FirstUnmapped w engine table column u fault) :
      ConsumersFound m w engine table column type (.error fault)
  | found (hmapped : m.Mapped w engine table column) :
      ConsumersFound m w engine table column type
        (.ok ((Snapshot.usagesOf m.usages table column).filter (rejects w engine type)))

theorem exists_consumersFound (m : OverrideManager) (w : Workspace)
    (engine table column type : String) :
    ∃ o w', (m.incompatibleConsumers engine table column type).runOn w = (o, w') ∧ w.Agrees w' ∧
      w'.log = w.log ∧ m.ConsumersFound w engine table column type o := by
  obtain ⟨w', hrun, hagrees, hlog⟩ := consults_incompatibleConsumers m engine table column type w
  refine ⟨(Snapshot.usagesOf m.usages table column).filterM (brokenBy engine type w.mapFor), w',
    hrun, hagrees, hlog, ?_⟩
  cases hfound : (Snapshot.usagesOf m.usages table column).filterM
      (brokenBy engine type w.mapFor) with
  | error fault =>
      obtain ⟨before, u, after, husages, hbefore, hmissing⟩ := filterM_eq_error_iff.1 hfound
      have hmapped : ∀ v ∈ before, ∃ map, w.mapFor engine v.targetEngine = .ok map :=
        fun v hmem => exists_brokenBy_eq_ok_iff.1 (hbefore v hmem)
      exact .unmapped ⟨before, after, husages, hmapped, brokenBy_eq_error_iff.1 hmissing⟩
  | ok found =>
      obtain ⟨hall, rfl⟩ := filterM_eq_ok_iff.1 hfound
      exact .found fun u hmem => exists_brokenBy_eq_ok_iff.1 (hall u hmem)

/-- What comes of refusing a type that could not populate some sink column. -/
inductive ConsumersChecked (m : OverrideManager) (w : Workspace)
    (engine table column type : String) : Outcome Unit → Prop
  | unmapped {u : SinkUsage} {fault : Fault}
      (hfirst : m.FirstUnmapped w engine table column u fault) :
      ConsumersChecked m w engine table column type (.error fault)
  | broken {u : SinkUsage} {map : CompatibilityMap} (hmapped : m.Mapped w engine table column)
      (hfirst : m.FirstBroken w engine table column type u map) :
      ConsumersChecked m w engine table column type (.error (.incompatible
        (.breaksConsumer table column type u (({ map } : Checker).sinkCandidates type none))))
  | populated (hpopulates : m.Populates w engine table column type) :
      ConsumersChecked m w engine table column type (.ok ())

theorem exists_consumersChecked (m : OverrideManager) (w : Workspace)
    (engine table column type : String) :
    ∃ o w', (m.checkConsumers engine table column type).runOn w = (o, w') ∧ w.Agrees w' ∧
      m.ConsumersChecked w engine table column type o := by
  obtain ⟨o, w₁, hrun, hagrees, -, hfound⟩ := exists_consumersFound m w engine table column type
  unfold checkConsumers
  cases hfound with
  | unmapped hfirst =>
      exact ⟨_, w₁, Session.runOn_bind_of_error hrun, hagrees, .unmapped hfirst⟩
  | found hmapped =>
      rw [Session.runOn_bind_of_ok hrun]
      cases hrejected : (Snapshot.usagesOf m.usages table column).filter
          (rejects w engine type) with
      | nil =>
          refine ⟨_, w₁, rfl, hagrees, .populated fun u hmem => ?_⟩
          obtain ⟨map, hmap⟩ := hmapped u hmem
          have hkept := List.filter_eq_nil_iff.1 hrejected u hmem
          exact accepts_of_rejects_eq_false hmap (eq_false_of_ne_true hkept)
      | cons u rest =>
          obtain ⟨before, after, husages, hbefore, hrejects, -⟩ :=
            List.filter_eq_cons_iff.1 hrejected
          have hlisted : ∀ v ∈ before ++ u :: after, ∃ map,
              w.mapFor engine v.targetEngine = .ok map := husages ▸ hmapped
          obtain ⟨map, hmap⟩ := hlisted u (List.mem_append_right _ List.mem_cons_self)
          -- The map is asked for once more, to say what the type could populate instead.
          obtain ⟨w₂, hchecker, hagrees', -⟩ :=
            Session.consults_checker engine u.targetEngine w₁
          have hmaps : w₁.mapFor engine u.targetEngine = .ok map :=
            (hagrees.mapFor_eq _ _).trans hmap
          simp only [hmaps] at hchecker
          refine ⟨_, w₂, Session.runOn_bind_of_ok hchecker, hagrees.trans hagrees',
            .broken hmapped ⟨before, after, husages, fun v hmem => ?_, hmap, ?_⟩⟩
          · obtain ⟨map', hmap'⟩ := hlisted v (List.mem_append_left _ hmem)
            exact accepts_of_rejects_eq_false hmap' (eq_false_of_ne_true (hbefore v hmem))
          · rw [rejects_of_mapFor hmap, Bool.not_eq_true'] at hrejects
            exact hrejects

theorem keeps_incompatibleConsumers (m : OverrideManager) (engine table column type : String) :
    (m.incompatibleConsumers engine table column type).Keeps :=
  (consults_incompatibleConsumers m engine table column type).keeps

theorem keeps_checkConsumers (m : OverrideManager) (engine table column type : String) :
    (m.checkConsumers engine table column type).Keeps := by
  intro w
  obtain ⟨o, w', hrun, hagrees, -⟩ := exists_consumersChecked m w engine table column type
  rw [hrun]
  exact hagrees

theorem populates_of_checkConsumers
    (h : (m.checkConsumers engine table column type).runOn w = (.ok (), w')) :
    m.Populates w engine table column type := by
  obtain ⟨o, w₁, hrun, -, hchecked⟩ := exists_consumersChecked m w engine table column type
  rw [hrun] at h
  cases h
  cases hchecked with
  | populated hpopulates => exact hpopulates

end OverrideManager

end SchemaCrosswalk
