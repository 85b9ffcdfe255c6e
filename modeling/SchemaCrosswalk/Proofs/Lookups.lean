import SchemaCrosswalk.Proofs.Outcomes
import SchemaCrosswalk.Workspace

/-!
# Lookups — operations that change nothing but what is remembered

An operation that asks the catalog for maps may make it remember more of them, and it may give
warnings. The files stay as they are, and the catalog goes on answering as before.

* `Workspace.mapFor`: the map that the catalog answers with
* `Workspace.Agrees`: the files are the same, and so are all answers
* `runFrom_bind_eq_ok_iff`: an operation succeeds with another one after it if both do
* `Session.Keeps`: an operation after which the workspace agrees with the one before, whether it
  fails or not
* `Session.keeps_bind`, `Session.keeps_warnEach`: such operations are made of such operations
* `Session.Consults`: an operation whose outcome is a function of the maps that are answered with
-/

namespace SchemaCrosswalk

/-! ## Answers of the catalog -/

namespace Catalog

variable {c c' : Catalog} {files files' : FileTree} {source sink : String} {m : CompatibilityMap}

/-- The map that the catalog answers with, without what it then remembers. -/
def answer (c : Catalog) (files : FileTree) (sourceEngine sinkEngine : String) :
    Outcome CompatibilityMap :=
  (c.map files sourceEngine sinkEngine).map Prod.fst

/-- The map of a pair of canonical engines that was registered or is remembered. -/
def known? (c : Catalog) (source sink : String) : Option CompatibilityMap :=
  (c.registeredMaps.get? source sink).or (c.maps.get? source sink)

theorem answer_eq (c : Catalog) (files : FileTree) (source sink : String) :
    c.answer files source sink =
      match c.known? (Engine.normalize source) (Engine.normalize sink) with
      | some m => .ok m
      | none => loadMap c.settings files (Engine.normalize source) (Engine.normalize sink) := by
  unfold answer map
  show Except.map Prod.fst (match c.known? _ _ with | some m => _ | none => _) = _
  cases c.known? (Engine.normalize source) (Engine.normalize sink) with
  | some m => rfl
  | none =>
      cases hload : loadMap c.settings files (Engine.normalize source) (Engine.normalize sink) with
      | error fault => rfl
      | ok m => rfl

theorem answer_of_map_eq_ok (h : c.map files source sink = .ok (m, c')) :
    c.answer files source sink = .ok m := by
  unfold answer
  rw [h]
  rfl

/-- Answers do not depend on the files as long as the maps in them are the same. -/
theorem answer_congr
    (h : ∀ source sink,
      loadMap c.settings files' source sink = loadMap c.settings files source sink)
    (source sink : String) : c.answer files' source sink = c.answer files source sink := by
  rw [answer_eq, answer_eq, h]

/-- A catalog that answers either stays as it is or remembers a map that it has loaded. -/
theorem map_cases (h : c.map files source sink = .ok (m, c')) :
    c' = c ∨
      c.known? (Engine.normalize source) (Engine.normalize sink) = none ∧
        loadMap c.settings files (Engine.normalize source) (Engine.normalize sink) = .ok m ∧
        c' = { c with maps := c.maps.put (Engine.normalize source) (Engine.normalize sink) m } := by
  have hsome := answer_of_map_eq_ok h
  rw [answer_eq] at hsome
  unfold map at h
  cases hknown : c.known? (Engine.normalize source) (Engine.normalize sink) with
  | some known =>
      left
      have hor : (c.registeredMaps.get? _ _).or (c.maps.get? _ _) = some known := hknown
      simp only [hor] at h
      exact (Prod.mk.inj (Except.ok.inj h)).2.symm
  | none =>
      right
      have hor : (c.registeredMaps.get? _ _).or (c.maps.get? _ _) = none := hknown
      rw [hknown] at hsome
      have hload : loadMap c.settings files (Engine.normalize source) (Engine.normalize sink) =
          .ok m := hsome
      simp only [hor, hload] at h
      exact ⟨rfl, hload, (Prod.mk.inj (Except.ok.inj h)).2.symm⟩

theorem settings_map (h : c.map files source sink = .ok (m, c')) : c'.settings = c.settings := by
  rcases map_cases h with rfl | ⟨-, -, rfl⟩
  · rfl
  · rfl

/-- What the catalog remembers is what it would answer anyway. -/
theorem answer_map (h : c.map files source sink = .ok (m, c')) (another other : String) :
    c'.answer files another other = c.answer files another other := by
  rcases map_cases h with rfl | ⟨hnone, hload, rfl⟩
  · rfl
  · rw [answer_eq, answer_eq]
    unfold known? at hnone ⊢
    simp only [PairTable.get?_put]
    -- The pair that was asked for is now remembered with the map that would have been loaded.
    by_cases hpair : Engine.normalize another = Engine.normalize source ∧
        Engine.normalize other = Engine.normalize sink
    · rw [if_pos hpair, hpair.1, hpair.2, hnone, (Option.or_eq_none_iff.1 hnone).1]
      exact hload.symm
    · rw [if_neg hpair]

end Catalog

/-! ## Workspaces that agree -/

/-- What is answered to a pair of engines. -/
abbrev MapFinder := String → String → Outcome CompatibilityMap

/-- The workspace at another time. -/
def Workspace.at (w : Workspace) (now : Timestamp) : Workspace := { w with now }

namespace Workspace

variable {w w' : Workspace}

/-- The map that is answered with in a workspace. -/
def mapFor (w : Workspace) (sourceEngine sinkEngine : String) : Outcome CompatibilityMap :=
  w.catalog.answer w.files sourceEngine sinkEngine

/-- The files and the time are the same, and maps are looked for in the same places and found to be
the same. -/
structure Agrees (w w' : Workspace) : Prop where
  files_eq : w'.files = w.files
  now_eq : w'.now = w.now
  settings_eq : w'.catalog.settings = w.catalog.settings
  mapFor_eq : ∀ source sink, w'.mapFor source sink = w.mapFor source sink

theorem Agrees.refl (w : Workspace) : Agrees w w := ⟨rfl, rfl, rfl, fun _ _ => rfl⟩

theorem Agrees.symm (h : Agrees w w') : Agrees w' w :=
  ⟨h.files_eq.symm, h.now_eq.symm, h.settings_eq.symm, fun source sink =>
    (h.mapFor_eq source sink).symm⟩

theorem Agrees.trans {w'' : Workspace} (h : Agrees w w') (h' : Agrees w' w'') : Agrees w w'' where
  files_eq := h'.files_eq.trans h.files_eq
  now_eq := h'.now_eq.trans h.now_eq
  settings_eq := h'.settings_eq.trans h.settings_eq
  mapFor_eq source sink := (h'.mapFor_eq source sink).trans (h.mapFor_eq source sink)

/-- What has been warned of has no part in agreement. -/
theorem agrees_with_log (w : Workspace) (log : List String) : w.Agrees { w with log } :=
  ⟨rfl, rfl, rfl, fun _ _ => rfl⟩

end Workspace

/-! ## Operations in a row -/

section

variable {σ α β : Type} {s : ExceptT Fault (StateM σ) α} {k : α → ExceptT Fault (StateM σ) β}
variable {c c' c'' : σ}

/-- The outcome of an operation on a state, and the state after it. -/
def runFrom (s : ExceptT Fault (StateM σ) α) (c : σ) : Outcome α × σ := s c

theorem runFrom_bind_of_ok {a : α} (h : runFrom s c = (.ok a, c')) :
    runFrom (s >>= k) c = runFrom (k a) c' := by
  show ExceptT.bindCont k (runFrom s c).1 (runFrom s c).2 = _
  rw [h]
  rfl

theorem runFrom_bind_of_error {fault : Fault} (h : runFrom s c = (.error fault, c')) :
    runFrom (s >>= k) c = (.error fault, c') := by
  show ExceptT.bindCont k (runFrom s c).1 (runFrom s c).2 = _
  rw [h]
  rfl

theorem runFrom_bind_eq_ok_iff {b : β} :
    runFrom (s >>= k) c = (.ok b, c'') ↔
      ∃ a c', runFrom s c = (.ok a, c') ∧ runFrom (k a) c' = (.ok b, c'') := by
  rcases h : runFrom s c with ⟨fault | a, c'⟩
  · rw [runFrom_bind_of_error h]
    simp
  · rw [runFrom_bind_of_ok h]
    constructor
    · intro hk
      exact ⟨a, c', rfl, hk⟩
    · rintro ⟨a', c₁, heq, hk⟩
      cases heq
      exact hk

end

/-! ## Operations that keep the workspace -/

namespace Session

variable {α β : Type} {s : Session α} {k : α → Session β} {w w' : Workspace}

theorem runOn_get (w : Workspace) : (get : Session Workspace).runOn w = (.ok w, w) := rfl

theorem runOn_ofOutcome (o : Outcome α) (w : Workspace) : (ofOutcome o).runOn w = (o, w) := rfl

theorem runOn_bind_of_ok {a : α} (h : s.runOn w = (.ok a, w')) :
    (s >>= k).runOn w = (k a).runOn w' :=
  runFrom_bind_of_ok h

theorem runOn_bind_of_error {fault : Fault} (h : s.runOn w = (.error fault, w')) :
    (s >>= k).runOn w = (.error fault, w') :=
  runFrom_bind_of_error h

/-- An operation succeeds with another one after it if both do. -/
theorem runOn_bind_eq_ok_iff {b : β} {w'' : Workspace} :
    (s >>= k).runOn w = (.ok b, w'') ↔
      ∃ a w', s.runOn w = (.ok a, w') ∧ (k a).runOn w' = (.ok b, w'') :=
  runFrom_bind_eq_ok_iff

/-- An operation after which the workspace agrees with the one before. -/
def Keeps (s : Session α) : Prop := ∀ w : Workspace, w.Agrees (s.runOn w).2

theorem Keeps.agrees {o : Outcome α} (h : s.Keeps) (hrun : s.runOn w = (o, w')) : w.Agrees w' := by
  have hagrees := h w
  rw [hrun] at hagrees
  exact hagrees

theorem keeps_pure (a : α) : (pure a : Session α).Keeps := Workspace.Agrees.refl

theorem keeps_bind (hs : s.Keeps) (hk : ∀ a, (k a).Keeps) : (s >>= k).Keeps := by
  intro w
  rcases h : s.runOn w with ⟨fault | a, w'⟩
  · rw [runOn_bind_of_error h]
    exact hs.agrees h
  · rw [runOn_bind_of_ok h]
    exact (hs.agrees h).trans (hk a w')

theorem runOn_checker (source sink : String) (w : Workspace) :
    (checker source sink).runOn w =
      match w.catalog.map w.files source sink with
      | .ok (m, catalog) => (.ok { map := m }, { w with catalog })
      | .error fault => (.error fault, w) := by
  unfold checker
  rcases hmap : w.catalog.map w.files source sink with fault | ⟨m, catalog⟩
  · have hfrom : (fromCatalog fun c files => c.map files source sink).runOn w =
        (.error fault, w) := by
      simp only [runOn, fromCatalog, hmap]
    rw [runOn_bind_of_error hfrom]
  · have hfrom : (fromCatalog fun c files => c.map files source sink).runOn w =
        (.ok m, { w with catalog }) := by
      simp only [runOn, fromCatalog, hmap]
    rw [runOn_bind_of_ok hfrom]
    rfl

theorem keeps_checker (source sink : String) : (checker source sink).Keeps := by
  intro w
  rw [runOn_checker]
  rcases hmap : w.catalog.map w.files source sink with fault | ⟨m, catalog⟩
  · exact .refl w
  · exact ⟨rfl, rfl, Catalog.settings_map hmap, Catalog.answer_map hmap⟩

/-- The checker of a pair of engines decides by the map that is answered with. -/
theorem mapFor_of_checker {source sink : String} {checked : Checker}
    (h : (checker source sink).runOn w = (.ok checked, w')) :
    ∃ m, w.mapFor source sink = .ok m ∧ checked = { map := m } := by
  rw [runOn_checker] at h
  rcases hmap : w.catalog.map w.files source sink with fault | ⟨m, catalog⟩
  · rw [hmap] at h
    cases h
  · rw [hmap] at h
    cases h
    exact ⟨m, Catalog.answer_of_map_eq_ok hmap, rfl⟩

/-! ## Warnings -/

/-- Warning of every item of a list in turn. -/
theorem runOn_warnEach (message : α → String) (items : List α) (w : Workspace) :
    Session.runOn (forIn items PUnit.unit fun a _ => do
      warn (message a)
      pure (ForInStep.yield PUnit.unit)) w =
        (.ok ⟨⟩, { w with log := w.log ++ items.map message }) := by
  induction items generalizing w with
  | nil =>
      rw [List.map_nil, List.append_nil]
      rfl
  | cons a items ih =>
      have hwarn : (warn (message a)).runOn w =
          (.ok ⟨⟩, { w with log := w.log ++ [message a] }) := rfl
      rw [List.forIn_cons, bind_assoc, runOn_bind_of_ok hwarn, pure_bind]
      simp only [ih, List.append_assoc, List.singleton_append, List.map_cons]

theorem keeps_warnEach (message : α → String) (items : List α) :
    Session.Keeps (forIn items PUnit.unit fun a _ => do
      warn (message a)
      pure (ForInStep.yield PUnit.unit)) := by
  intro w
  rw [runOn_warnEach]
  exact w.agrees_with_log _

/-! ## Operations that only ask for maps -/

/-- An operation that asks for maps and does nothing else: what comes of it depends on the answers
only, and it warns of nothing. -/
def Consults (s : Session α) (outcome : MapFinder → Outcome α) : Prop :=
  ∀ w : Workspace, ∃ w', s.runOn w = (outcome w.mapFor, w') ∧ w.Agrees w' ∧ w'.log = w.log

theorem Consults.keeps {outcome : MapFinder → Outcome α} (h : s.Consults outcome) : s.Keeps := by
  intro w
  obtain ⟨w', hrun, hagrees, -⟩ := h w
  rw [hrun]
  exact hagrees

theorem Consults.congr {outcome outcome' : MapFinder → Outcome α} (h : s.Consults outcome)
    (heq : ∀ maps, outcome maps = outcome' maps) : s.Consults outcome' := by
  have hsame : outcome = outcome' := funext heq
  rwa [← hsame]

theorem consults_pure (a : α) : (pure a : Session α).Consults fun _ => .ok a :=
  fun w => ⟨w, rfl, .refl w, rfl⟩

theorem consults_bind {outcome : MapFinder → Outcome α} {rest : α → MapFinder → Outcome β}
    (hs : s.Consults outcome) (hk : ∀ a, (k a).Consults (rest a)) :
    (s >>= k).Consults fun maps => outcome maps >>= fun a => rest a maps := by
  intro w
  obtain ⟨w₁, hrun, hagrees, hlog⟩ := hs w
  cases houtcome : outcome w.mapFor with
  | error fault =>
      rw [houtcome] at hrun
      refine ⟨w₁, ?_, hagrees, hlog⟩
      simp only [runOn_bind_of_error hrun, houtcome]
      rfl
  | ok a =>
      rw [houtcome] at hrun
      obtain ⟨w₂, hrest, hagrees', hlog'⟩ := hk a w₁
      -- The second operation is given the same answers as it would have been before the first.
      have hmaps : w₁.mapFor = w.mapFor := funext fun _ => funext fun _ => hagrees.mapFor_eq _ _
      refine ⟨w₂, ?_, hagrees.trans hagrees', hlog'.trans hlog⟩
      simp only [runOn_bind_of_ok hrun, hrest, hmaps, houtcome]
      rfl

theorem consults_checker (source sink : String) :
    (checker source sink).Consults fun maps => (maps source sink).map fun m => { map := m } := by
  intro w
  have hrun := runOn_checker source sink w
  unfold Workspace.mapFor Catalog.answer
  rcases hmap : w.catalog.map w.files source sink with fault | ⟨m, catalog⟩
  · simp only [hmap] at hrun ⊢
    exact ⟨w, hrun, (keeps_checker source sink).agrees hrun, rfl⟩
  · simp only [hmap] at hrun ⊢
    exact ⟨_, hrun, (keeps_checker source sink).agrees hrun, rfl⟩

theorem consults_filterAuxM {accepts : α → Session Bool} {outcome : α → MapFinder → Outcome Bool}
    (h : ∀ a, (accepts a).Consults (outcome a)) (items : List α) : ∀ kept : List α,
      (items.filterAuxM accepts kept).Consults fun maps =>
        items.filterAuxM (fun a => outcome a maps) kept := by
  induction items with
  | nil => exact consults_pure
  | cons a items ih =>
      intro kept
      exact consults_bind (h a) fun accepted => ih _

theorem consults_filterM {accepts : α → Session Bool} {outcome : α → MapFinder → Outcome Bool}
    (h : ∀ a, (accepts a).Consults (outcome a)) (items : List α) :
    (items.filterM accepts).Consults fun maps => items.filterM fun a => outcome a maps :=
  consults_bind (consults_filterAuxM h items []) fun _ => consults_pure _

end Session

end SchemaCrosswalk
