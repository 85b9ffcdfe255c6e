import SchemaCrosswalk.Proofs.Overrides.Consumers
import SchemaCrosswalk.Proofs.Overrides.Durability
import SchemaCrosswalk.Proofs.Overrides.Lookup

/-!
# Decisions — what is answered to a request to set an override

A request is refused if a name or the type is blank, if the column has another override, if some
sink column that it feeds cannot be checked, or if the type could not populate one. The first of
these that applies is told of. All other requests for a column without an override are accepted: one
document is persisted, with one override more.

* `OverrideDocument.Adds`: a document with one override more than another one
* `OverrideManager.SetAnswer`: the table of answers
* `OverrideManager.setAnswer_set`: every request is answered by the table
-/

namespace SchemaCrosswalk

open Text

/-! ## One override more -/

namespace OverrideDocument

variable {d : OverrideDocument} {table column : String}

/-- A document has the overrides of another one and one for a column as it is asked for. The table
is spelled as in the other document if it occurs there, and else as it is asked for. -/
structure Adds (d : OverrideDocument) (table column type : String) (d' : OverrideDocument) :
    Prop where
  version_eq : d'.version = d.version
  entries_perm : ∃ spelled, d'.entries.Perm (⟨spelled, column, type⟩ :: d.entries) ∧
    (spelled ∈ Dictionary.keys d.overrides ∧ namesMatch spelled table = true ∨
      spelled = table ∧ ∀ key ∈ Dictionary.keys d.overrides, namesMatch key table = false)

theorem adds_insert (type : String) (hnew : ∀ e ∈ d.entries, e.concerns table column = false)
    (now : Timestamp) :
    d.Adds table column (trim type) ((d.insert table column type).dated now) := by
  have hperm := insert_entries_perm type hnew
  unfold added at hperm
  rw [placeOf_of_new hnew] at hperm
  refine ⟨rfl, _, hperm, ?_⟩
  cases hfound : matchingKey? d.overrides table with
  | some key =>
      exact Or.inl ⟨List.mem_of_find?_eq_some hfound, namesMatch_of_matchingKey? hfound⟩
  | none =>
      exact Or.inr ⟨rfl, fun key hmem => eq_false_of_ne_true (List.find?_eq_none.1 hfound key hmem)⟩

end OverrideDocument

namespace OverrideManager

variable {m : OverrideManager} {r : OverrideRegistry} {w : Workspace}
variable {table column type : String}

/-! ## The table of answers -/

/-- The answers to a request to set an override, with the workspace that is left. In every row but
the last one the workspace agrees with the one before, so that no file has changed. -/
inductive SetAnswer (m : OverrideManager) (r : OverrideRegistry) (w : Workspace)
    (table column type : String) : Outcome OverrideRegistry × Workspace → Prop
  | blank (hblank : (⟨table, column, type⟩ : OverrideEntry).hasBlank = true) :
      SetAnswer m r w table column type (.error (Fault.ofCause .blankOverride), w)
  | unchanged {e : OverrideEntry}
      (hfull : (⟨table, column, type⟩ : OverrideEntry).hasBlank = false)
      (hmem : e ∈ r.entries) (hconcerns : e.concerns table column = true)
      (hsame : Spelling.normalize e.type = Spelling.normalize (trim type)) :
      SetAnswer m r w table column type (.ok r, w)
  | conflict {e : OverrideEntry}
      (hfull : (⟨table, column, type⟩ : OverrideEntry).hasBlank = false)
      (hmem : e ∈ r.entries) (hconcerns : e.concerns table column = true)
      (hother : Spelling.normalize e.type ≠ Spelling.normalize (trim type)) :
      SetAnswer m r w table column type
        (.error (.overrideConflict table column e.type (trim type)), w)
  | unmapped {u : SinkUsage} {fault : Fault} {w' : Workspace}
      (hfull : (⟨table, column, type⟩ : OverrideEntry).hasBlank = false)
      (hnew : ∀ e ∈ r.entries, e.concerns table column = false)
      (hfirst : m.FirstUnmapped w r.engine table column u fault) (hagrees : w.Agrees w') :
      SetAnswer m r w table column type (.error fault, w')
  | broken {u : SinkUsage} {map : CompatibilityMap} {w' : Workspace}
      (hfull : (⟨table, column, type⟩ : OverrideEntry).hasBlank = false)
      (hnew : ∀ e ∈ r.entries, e.concerns table column = false)
      (hmapped : m.Mapped w r.engine table column)
      (hfirst : m.FirstBroken w r.engine table column (trim type) u map)
      (hagrees : w.Agrees w') :
      SetAnswer m r w table column type
        (.error (.incompatible (.breaksConsumer table column (trim type) u
          (({ map } : Checker).sinkCandidates (trim type) none))), w')
  | added {d : OverrideDocument} {w₁ w' : Workspace}
      (hfull : (⟨table, column, type⟩ : OverrideEntry).hasBlank = false)
      (hnew : ∀ e ∈ r.entries, e.concerns table column = false)
      (hpopulates : m.Populates w r.engine table column (trim type))
      (hadds : r.document.Adds table column (trim type) d) (hdated : d.updatedAt = some w.now)
      (hagrees : w.Agrees w₁) (hpersist : (m.store.persist r.group d).runOn w₁ = (.ok (), w')) :
      SetAnswer m r w table column type (.ok (.ofDocument r.group r.engine d), w')

/-- Every request is answered by the table, given that a document of the group can be persisted. -/
theorem setAnswer_set (hstore : ∃ d, ((m.store.persist r.group d).runOn w).1 = .ok ())
    (table column type : String) :
    m.SetAnswer r w table column type ((m.set r table column type).runOn w) := by
  unfold set
  simp only
  split
  · next hblank =>
    rw [isEmpty_trim] at hblank
    exact .blank hblank
  · next hblank =>
    have hfull : (⟨table, column, type⟩ : OverrideEntry).hasBlank = false := by
      rw [isEmpty_trim, Bool.not_eq_true] at hblank
      exact hblank
    cases hget : r.get? table column with
    | some existing =>
        -- The override that there is decides, and no sink column is asked about.
        obtain ⟨e, hmem, hconcerns, rfl⟩ := OverrideRegistry.exists_mem_of_get? hget
        simp only
        split
        · next hsame => exact .unchanged hfull hmem hconcerns hsame
        · next hother => exact .conflict hfull hmem hconcerns hother
    | none =>
        have hnew := OverrideRegistry.get?_eq_none_iff.1 hget
        obtain ⟨o, w₁, hrun, hagrees, hchecked⟩ :=
          exists_consumersChecked m w r.engine table column (trim type)
        cases hchecked with
        | unmapped hfirst =>
            simp only [Session.runOn_bind_of_error hrun]
            exact .unmapped hfull hnew hfirst hagrees
        | broken hmapped hfirst =>
            simp only [Session.runOn_bind_of_error hrun]
            exact .broken hfull hnew hmapped hfirst hagrees
        | populated hpopulates =>
            simp only [Session.runOn_bind_of_ok hrun, runOn_commit]
            -- Whether a document can be persisted does not depend on what was looked up before.
            obtain ⟨d, hok⟩ := hstore
            obtain ⟨w', hpersist⟩ := OverrideStore.exists_persist hok hagrees.files_eq
              ((r.document.insert table column (trim type)).dated w₁.now)
            rw [hpersist]
            have hadds := OverrideDocument.adds_insert (trim type) hnew w₁.now
            rw [trim_trim] at hadds
            exact .added hfull hnew hpopulates hadds (congrArg some hagrees.now_eq) hagrees hpersist

/-- A manager that knows of one column that totals of orders are written to. -/
def totalManager : OverrideManager where
  store := { directory := "overrides" }
  usages := [⟨"dbo.Orders", "Total", ⟨"pg", "public.orders", "total", "integer"⟩⟩]

/-- Overrides of an order table in two spellings of its name. -/
def totalRegistry : OverrideRegistry :=
  .ofDocument "erp" "mssql" OverrideDocument.twoSpellings

theorem setAnswer_set_total :
    let answered := (totalManager.set totalRegistry "dbo.orders" "TOTAL" " int ").runOn
      amountWorkspace
    ((totalManager.store.persist "erp" .empty).runOn amountWorkspace).1 = .ok () ∧
      totalManager.SetAnswer totalRegistry amountWorkspace "dbo.orders" "TOTAL" " int " answered ∧
      answered.1.toOption.map (·.entries) = some [⟨"DBO.ORDERS", "Code", "int"⟩,
        ⟨"DBO.ORDERS", "TOTAL", "int"⟩, ⟨"dbo.Orders", "Amount", "int"⟩] := by
  have hstore : ((totalManager.store.persist "erp" .empty).runOn amountWorkspace).1 = .ok () := rfl
  exact ⟨hstore, setAnswer_set ⟨_, hstore⟩ "dbo.orders" "TOTAL" " int ", by decide +kernel⟩

end OverrideManager

end SchemaCrosswalk
