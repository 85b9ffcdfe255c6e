import SchemaCrosswalk.Proofs.Overrides.Registry
import SchemaCrosswalk.Proofs.Overrides.Usages

/-!
# Override runs — requests that are made one after the other

A run makes requests of an override manager, each with the registry that the latest successful one
has returned. Whatever a request does it does before it changes a file, by looking things up, or by
persisting a changed document.

* `OverrideManager.step`, `OverrideManager.run`: the state after one and after many requests
* `OverrideManager.Leads`: the documents that requests lead to if they are accepted
* `OverrideManager.Step`, `OverrideManager.step_spec`: all that one request can do
-/

namespace SchemaCrosswalk

open Text

/-- A request that is made of an override manager. -/
inductive OverrideRequest
  | set (table column type : String)
  | remove (table column : String)
  deriving DecidableEq, Repr

/-- The registry that the next request is made with, and the workspace. -/
structure OverrideState where
  registry : OverrideRegistry
  workspace : Workspace

/-- The document with the time of its last change. -/
def OverrideDocument.dated (d : OverrideDocument) (now : Timestamp) : OverrideDocument :=
  { d with updatedAt := some now }

namespace OverrideManager

variable {m : OverrideManager} {r : OverrideRegistry} {w w' : Workspace}
variable {engine table column type : String}

/-! ## Runs -/

/-- What a manager does on a request. -/
def answer (m : OverrideManager) (r : OverrideRegistry) : OverrideRequest → Session OverrideRegistry
  | .set table column type => m.set r table column type
  | .remove table column => m.remove r table column

/-- The state after a request that is made at a time. A request that fails returns no registry. -/
def step (m : OverrideManager) (s : OverrideState) (q : Timestamp × OverrideRequest) :
    OverrideState :=
  match (m.answer s.registry q.2).runOn (s.workspace.at q.1) with
  | (.ok r, w) => ⟨r, w⟩
  | (.error _, w) => ⟨s.registry, w⟩

/-- The state after some requests. -/
def run (m : OverrideManager) (s : OverrideState) (requests : List (Timestamp × OverrideRequest)) :
    OverrideState :=
  requests.foldl m.step s

theorem run_append_singleton (s : OverrideState) (requests : List (Timestamp × OverrideRequest))
    (q : Timestamp × OverrideRequest) :
    m.run s (requests ++ [q]) = m.step (m.run s requests) q := by
  simp [run]

/-! ## What one request can do -/

/-- The document that a request leads to if it is accepted. -/
inductive Leads (m : OverrideManager) (w : Workspace) (r : OverrideRegistry) :
    OverrideRequest → OverrideDocument → Prop
  | set {table column type : String} (hnew : r.get? table column = none)
      (hfull : (⟨table, column, type⟩ : OverrideEntry).hasBlank = false)
      (hpopulates : m.Populates w r.engine table column (trim type)) :
      Leads m w r (.set table column type) (r.document.insert table column (trim type))
  | remove {table column type : String} {rest : OverrideDocument}
      (hremove : r.document.remove table column = some (type, rest)) :
      Leads m w r (.remove table column) rest

namespace Leads

variable {q : OverrideRequest} {d : OverrideDocument}

theorem of_agrees (hagrees : w.Agrees w') (h : m.Leads w r q d) : m.Leads w' r q d := by
  cases h with
  | set hnew hfull hpopulates => exact .set hnew hfull (hpopulates.of_mapFor_eq hagrees.mapFor_eq)
  | remove hremove => exact .remove hremove

/-- An accepted request leads to a document without a flaw. -/
theorem flaw?_eq_none (h : m.Leads w r q d) (hvalid : r.document.flaw? = none) :
    d.flaw? = none := by
  cases h with
  | set hnew hfull hpopulates =>
      refine OverrideDocument.flaw?_insert hvalid (OverrideRegistry.get?_eq_none_iff.1 hnew) ?_
      rw [← hfull]
      simp only [OverrideEntry.hasBlank, isBlankText_trim]
  | remove hremove => exact OverrideDocument.flaw?_remove hvalid hremove

/-- An accepted request adds an override or drops one. -/
theorem entries_ne (h : m.Leads w r q d) : d.entries ≠ r.entries := by
  intro heq
  have hlength : d.entries.length = r.document.entries.length := congrArg List.length heq
  cases h with
  | @set table column type hnew hfull hpopulates =>
      have hperm := OverrideDocument.insert_entries_perm (trim type)
        (OverrideRegistry.get?_eq_none_iff.1 hnew)
      have hmore := hperm.length_eq
      rw [List.length_cons] at hmore
      omega
  | remove hremove =>
      obtain ⟨-, e, -, -, hperm⟩ := OverrideDocument.remove_entries_perm hremove
      have hless := hperm.length_eq
      rw [List.length_cons] at hless
      omega

end Leads

/-- What is answered to a request: either the registry stays, as do the files, or the document that
the request leads to is committed. -/
def Commits (m : OverrideManager) (w : Workspace) (r : OverrideRegistry) (q : OverrideRequest)
    (answered : Outcome OverrideRegistry × Workspace) : Prop :=
  (w.Agrees answered.2 ∧ ∀ r', answered.1 = .ok r' → r' = r) ∨
    ∃ d w₁, m.Leads w r q d ∧ w.Agrees w₁ ∧ answered = (m.commit r d).runOn w₁

section

variable {α : Type} {q : OverrideRequest}

theorem commits_error (fault : Fault) (w : Workspace) : m.Commits w r q (.error fault, w) :=
  Or.inl ⟨.refl w, fun r' hok => by cases hok⟩

theorem commits_commit {d : OverrideDocument} (h : m.Leads w r q d) :
    m.Commits w r q ((m.commit r d).runOn w) :=
  Or.inr ⟨d, w, h, .refl w, rfl⟩

/-- Looking things up first changes nothing about what is answered. -/
theorem commits_bind {s : Session α} {k : α → Session OverrideRegistry} (hs : s.Keeps)
    (hk : ∀ a w', s.runOn w = (.ok a, w') → m.Commits w' r q ((k a).runOn w')) :
    m.Commits w r q ((s >>= k).runOn w) := by
  rcases hrun : s.runOn w with ⟨fault | a, w'⟩
  · rw [Session.runOn_bind_of_error hrun]
    exact Or.inl ⟨hs.agrees hrun, fun r' hok => by cases hok⟩
  · rw [Session.runOn_bind_of_ok hrun]
    have hagrees := hs.agrees hrun
    rcases hk a w' hrun with ⟨hagrees', hsame⟩ | ⟨d, w₁, hleads, hagrees', hcommit⟩
    · exact Or.inl ⟨hagrees.trans hagrees', hsame⟩
    · exact Or.inr ⟨d, w₁, hleads.of_agrees hagrees.symm, hagrees.trans hagrees', hcommit⟩

end

theorem commits_set (m : OverrideManager) (r : OverrideRegistry) (table column type : String)
    (w : Workspace) :
    m.Commits w r (.set table column type) ((m.set r table column type).runOn w) := by
  unfold set
  simp only
  split
  · exact commits_error _ w
  · next hblank =>
    cases hget : r.get? table column with
    | some existing =>
        -- A column that has an override keeps it, whether the types are the same or not.
        simp only
        split
        · exact Or.inl ⟨.refl w, fun r' hok => (Except.ok.inj hok).symm⟩
        · exact commits_error _ w
    | none =>
        refine commits_bind (keeps_checkConsumers _ _ _ _ _) fun _ w' hcheck => commits_commit ?_
        have hagrees := (keeps_checkConsumers m r.engine table column (trim type)).agrees hcheck
        have hfull : (⟨table, column, type⟩ : OverrideEntry).hasBlank = false := by
          rw [isEmpty_trim, Bool.not_eq_true] at hblank
          exact hblank
        exact .set hget hfull ((populates_of_checkConsumers hcheck).of_mapFor_eq
          hagrees.mapFor_eq)

theorem commits_remove (m : OverrideManager) (r : OverrideRegistry) (table column : String)
    (w : Workspace) :
    m.Commits w r (.remove table column) ((m.remove r table column).runOn w) := by
  unfold remove
  split
  · exact commits_error _ w
  · next _ type rest hremove =>
    cases hdeclared : m.declaredType? r.engine table column with
    | none => exact commits_commit (.remove hremove)
    | some declared =>
        refine commits_bind (keeps_incompatibleConsumers _ _ _ _ _) fun found w' _ => ?_
        -- Warning of the consumers found is the last thing done before the commit.
        exact commits_bind (Session.keeps_warnEach _ found) fun _ w'' _ =>
          commits_commit (.remove hremove)

theorem commits_answer (m : OverrideManager) (r : OverrideRegistry) (q : OverrideRequest)
    (w : Workspace) : m.Commits w r q ((m.answer r q).runOn w) := by
  cases q with
  | set table column type => exact commits_set m r table column type w
  | remove table column => exact commits_remove m r table column w

theorem runOn_commit (m : OverrideManager) (r : OverrideRegistry) (d : OverrideDocument)
    (w : Workspace) :
    (m.commit r d).runOn w =
      match (m.store.persist r.group (d.dated w.now)).runOn w with
      | (.ok _, w') => (.ok (.ofDocument r.group r.engine (d.dated w.now)), w')
      | (.error fault, w') => (.error fault, w') := by
  unfold commit
  rw [Session.runOn_bind_of_ok (Session.runOn_get w)]
  rcases hpersist : (m.store.persist r.group (d.dated w.now)).runOn w with ⟨fault | _, w'⟩
  · exact Session.runOn_bind_of_error hpersist
  · exact Session.runOn_bind_of_ok hpersist

/-- The states that a request can lead to. -/
inductive Step (m : OverrideManager) (s : OverrideState) (q : Timestamp × OverrideRequest) :
    OverrideState → Prop
  | kept {w : Workspace} (hagrees : (s.workspace.at q.1).Agrees w) : Step m s q ⟨s.registry, w⟩
  | failed {d : OverrideDocument} {w w' : Workspace} {fault : Fault}
      (hleads : m.Leads (s.workspace.at q.1) s.registry q.2 d)
      (hagrees : (s.workspace.at q.1).Agrees w)
      (hpersist : (m.store.persist s.registry.group (d.dated q.1)).runOn w = (.error fault, w')) :
      Step m s q ⟨s.registry, w'⟩
  | committed {d : OverrideDocument} {w w' : Workspace}
      (hleads : m.Leads (s.workspace.at q.1) s.registry q.2 d)
      (hagrees : (s.workspace.at q.1).Agrees w)
      (hpersist : (m.store.persist s.registry.group (d.dated q.1)).runOn w = (.ok (), w')) :
      Step m s q ⟨.ofDocument s.registry.group s.registry.engine (d.dated q.1), w'⟩

theorem step_spec (m : OverrideManager) (s : OverrideState) (q : Timestamp × OverrideRequest) :
    m.Step s q (m.step s q) := by
  unfold step
  have hcommits := commits_answer m s.registry q.2 (s.workspace.at q.1)
  rcases hanswer : (m.answer s.registry q.2).runOn (s.workspace.at q.1) with ⟨o, w⟩
  rw [hanswer] at hcommits
  rcases hcommits with ⟨hagrees, hsame⟩ | ⟨d, w₁, hleads, hagrees, hcommit⟩
  · cases o with
    | error fault => exact .kept hagrees
    | ok r =>
        obtain rfl := hsame r rfl
        exact .kept hagrees
  · -- Looking things up takes no time: the document has the time of the request.
    have hnow : w₁.now = q.1 := hagrees.now_eq
    rw [runOn_commit, hnow] at hcommit
    rcases hpersist : (m.store.persist s.registry.group (d.dated q.1)).runOn w₁ with ⟨fault | _, w₂⟩
    · rw [hpersist] at hcommit
      cases hcommit
      exact .failed hleads hagrees hpersist
    · rw [hpersist] at hcommit
      cases hcommit
      exact .committed hleads hagrees hpersist

end OverrideManager

end SchemaCrosswalk
