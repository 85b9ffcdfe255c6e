import SchemaCrosswalk.Proofs.Overrides.Consumers
import SchemaCrosswalk.Proofs.Overrides.Durability
import SchemaCrosswalk.Proofs.Overrides.Lookup

/-!
# Removal — what is answered to a request to remove an override

When an override is removed, the declared type is in effect again. Where it is known, the sink
columns that the column feeds are checked against it. A sink column that it cannot populate is
warned of and nothing else, but one for which there is no map ends the request before anything is
persisted. An override that was just set is removed without fail, since its sink columns have been
checked.

* `OverrideManager.RemoveAnswer`: the table of answers
* `OverrideManager.removeAnswer_remove`: every request that finds an override is answered by it
* `OverrideManager.remove_set`: removing an override that was just set brings back what was there
-/

namespace SchemaCrosswalk

open Text

namespace OverrideManager

variable {m : OverrideManager} {r r' : OverrideRegistry} {w w' : Workspace}
variable {table column type table' column' : String} {rest : OverrideDocument}

/-! ## The table of answers -/

/-- The sink columns that a column feeds can be checked against its declared type, or there is none
that is known. -/
def CanRecheck (m : OverrideManager) (w : Workspace) (engine table column : String) : Prop :=
  ∀ declared, m.declaredType? engine table column = some declared →
    m.Mapped w engine table column

/-- What is said of the sink columns that the declared type of a column cannot populate. -/
def removalWarnings (m : OverrideManager) (w : Workspace) (engine table column : String) :
    List String :=
  match m.declaredType? engine table column with
  | none => []
  | some declared =>
      ((Snapshot.usagesOf m.usages table column).filter (rejects w engine declared)).map
        (removalWarning table column declared)

/-- The answers to a request to remove an override, with the workspace that is left. The document is
persisted without the override, unless there is no map for a sink column that has to be checked. -/
inductive RemoveAnswer (m : OverrideManager) (r : OverrideRegistry) (w : Workspace)
    (table column : String) (rest : OverrideDocument) :
    Outcome OverrideRegistry × Workspace → Prop
  | unmapped {declared : String} {u : SinkUsage} {fault : Fault} {w' : Workspace}
      (hdeclared : m.declaredType? r.engine table column = some declared)
      (hfirst : m.FirstUnmapped w r.engine table column u fault) (hagrees : w.Agrees w')
      (hlog : w'.log = w.log) :
      RemoveAnswer m r w table column rest (.error fault, w')
  | refused {fault : Fault} {w₁ w' : Workspace} (hrecheck : m.CanRecheck w r.engine table column)
      (hagrees : w.Agrees w₁) (hlog : w'.log = w.log ++ m.removalWarnings w r.engine table column)
      (hpersist : (m.store.persist r.group (rest.dated w.now)).runOn w₁ = (.error fault, w')) :
      RemoveAnswer m r w table column rest (.error fault, w')
  | removed {w₁ w' : Workspace} (hrecheck : m.CanRecheck w r.engine table column)
      (hagrees : w.Agrees w₁) (hlog : w'.log = w.log ++ m.removalWarnings w r.engine table column)
      (hpersist : (m.store.persist r.group (rest.dated w.now)).runOn w₁ = (.ok (), w')) :
      RemoveAnswer m r w table column rest
        (.ok (.ofDocument r.group r.engine (rest.dated w.now)), w')

/-- Where the sink columns have been checked, what is answered depends on the store only. -/
theorem removeAnswer_commit {w₁ : Workspace} (hrecheck : m.CanRecheck w r.engine table column)
    (hagrees : w.Agrees w₁)
    (hlog : w₁.log = w.log ++ m.removalWarnings w r.engine table column) :
    m.RemoveAnswer r w table column rest ((m.commit r rest).runOn w₁) := by
  rw [runOn_commit, hagrees.now_eq]
  rcases hpersist : (m.store.persist r.group (rest.dated w.now)).runOn w₁ with ⟨o, w'⟩
  -- The store gives no warnings, whether it fails or not.
  have hsilent : w'.log = w₁.log := by rw [eq_of_persist hpersist]
  cases o with
  | error fault => exact .refused hrecheck hagrees (hsilent.trans hlog) hpersist
  | ok done => exact .removed hrecheck hagrees (hsilent.trans hlog) hpersist

/-- Every request that finds an override drops it and nothing else, and is answered by the table. -/
theorem removeAnswer_remove (hremove : r.document.remove table column = some (type, rest)) :
    (∃ e, e.concerns table column = true ∧ e.type = type ∧ r.entries.Perm (e :: rest.entries)) ∧
      m.RemoveAnswer r w table column rest ((m.remove r table column).runOn w) := by
  refine ⟨(OverrideDocument.remove_entries_perm hremove).2, ?_⟩
  unfold remove
  simp only [hremove]
  cases hdeclared : m.declaredType? r.engine table column with
  | none =>
      -- No sink column is asked about, so none can be without a map.
      have hrecheck : m.CanRecheck w r.engine table column := by
        intro declared hsome
        rw [hdeclared] at hsome
        cases hsome
      refine removeAnswer_commit hrecheck (.refl w) ?_
      unfold removalWarnings
      rw [hdeclared, List.append_nil]
  | some declared =>
      obtain ⟨o, w₁, hrun, hagrees, hlog, hfound⟩ :=
        exists_consumersFound m w r.engine table column declared
      cases hfound with
      | unmapped hfirst =>
          rw [Session.runOn_bind_of_error hrun]
          exact .unmapped hdeclared hfirst hagrees hlog
      | found hmapped =>
          -- The warnings stand between what was found out and the change.
          rw [Session.runOn_bind_of_ok hrun,
            Session.runOn_bind_of_ok (Session.runOn_warnEach _ _ _)]
          refine removeAnswer_commit (fun _ _ => hmapped)
            (hagrees.trans (w₁.agrees_with_log _)) ?_
          unfold removalWarnings
          rw [hdeclared, hlog]

/-- A manager that knows that amounts of orders are declared as `bigint` and written to a column of
an engine. -/
def recheckManager (engine : String) : OverrideManager where
  store := { directory := "overrides" }
  usages := [⟨"dbo.Orders", "Amount", ⟨engine, "orders", "amount", "integer"⟩⟩]
  schema := some (Snapshot.insertTable {} "sqlserver" "dbo.Orders"
    ⟨[{ name := "Amount", type := "bigint" }], List.nodup_singleton _⟩)

/-- One override, of amounts of orders. -/
def amountRegistry : OverrideRegistry :=
  .ofDocument "erp" "mssql" (OverrideDocument.empty.insert "dbo.Orders" "Amount" "int")

/-- The declared type of amounts cannot populate their sink column: there is a warning, and the
override is removed. -/
theorem removeAnswer_remove_amount :
    let answered := ((recheckManager "pg").remove amountRegistry "dbo.orders" "AMOUNT").runOn
      amountWorkspace
    ∃ rest, amountRegistry.document.remove "dbo.orders" "AMOUNT" = some ("int", rest) ∧
      (recheckManager "pg").RemoveAnswer amountRegistry amountWorkspace "dbo.orders" "AMOUNT" rest
        answered ∧
      answered.1.toOption.map (·.entries) = some [] ∧
      answered.2.log = ["Removing override dbo.orders.AMOUNT restores 'bigint', which cannot " ++
        "populate sink column pg:orders.amount (integer)"] := by
  have hremove : amountRegistry.document.remove "dbo.orders" "AMOUNT" =
      some ("int", OverrideDocument.empty) := by decide +kernel
  exact ⟨_, hremove, (removeAnswer_remove hremove).2, by decide +kernel, by decide +kernel⟩

/-- There is no map for the engine of the sink column of amounts: the override is found and the
document could be persisted without it, but the request fails and the file stays as it is. -/
theorem removal_without_map_fails :
    let m := recheckManager "clickhouse"
    let answered := (m.remove amountRegistry "dbo.Orders" "Amount").runOn amountWorkspace
    amountRegistry.document.remove "dbo.Orders" "Amount" = some ("int", OverrideDocument.empty) ∧
      ((m.store.persist "erp" .empty).runOn amountWorkspace).1 = .ok () ∧
      answered.1.toOption.isNone = true ∧ answered.2.files.files = amountWorkspace.files.files := by
  refine ⟨by decide +kernel, rfl, by decide +kernel, by decide +kernel⟩

/-! ## Removing what was set -/

/-- Setting an override that changes the overrides has persisted the document with it. -/
theorem exists_persist_of_set (hset : (m.set r table column type).runOn w = (.ok r', w'))
    (hadds : r'.entries ≠ r.entries) :
    (∀ e ∈ r.entries, e.concerns table column = false) ∧
      (⟨table, column, trim type⟩ : OverrideEntry).hasBlank = false ∧
      m.Populates w r.engine table column (trim type) ∧
      ∃ d w₁, d = (r.document.insert table column (trim type)).dated w.now ∧ w.Agrees w₁ ∧
        (m.store.persist r.group d).runOn w₁ = (.ok (), w') ∧
        r' = .ofDocument r.group r.engine d := by
  have hstep := m.step_spec ⟨r, w⟩ (w.now, .set table column type)
  have heq : m.step ⟨r, w⟩ (w.now, .set table column type) = ⟨r', w'⟩ := by
    have hanswer : (m.answer r (.set table column type)).runOn (w.at w.now) = (.ok r', w') := hset
    unfold step
    rw [hanswer]
  rw [heq] at hstep
  cases hstep with
  | kept hagrees => exact absurd rfl hadds
  | failed hleads hagrees hpersist => exact absurd rfl hadds
  | committed hleads hagrees hpersist =>
      cases hleads with
      | set hnew hfull hpopulates =>
          refine ⟨OverrideRegistry.get?_eq_none_iff.1 hnew, ?_, hpopulates, _, _, rfl, hagrees,
            hpersist, rfl⟩
          rw [← hfull]
          simp only [OverrideEntry.hasBlank, isBlankText_trim]

/-- Removing an override that was just set, in any spelling of its column, never fails and brings
back the overrides as they were, if the document has not taken the place of a map. -/
theorem remove_set (hvalid : r.document.flaw? = none)
    (hset : (m.set r table column type).runOn w = (.ok r', w'))
    (hadds : r'.entries ≠ r.entries) (hfixed : HoldsMapsOf w w'.files)
    (hcase : OverrideDocument.foldedKey table' column' = OverrideDocument.foldedKey table column)
    (now : Timestamp) :
    ∃ r'' w'', (m.remove r' table' column').runOn (w'.at now) = (.ok r'', w'') ∧
      r''.group = r.group ∧ r''.engine = r.engine ∧ r''.entries = r.entries := by
  obtain ⟨hnew, hfull, hpopulates, d, w₁, rfl, hagrees, hpersist, rfl⟩ :=
    exists_persist_of_set hset hadds
  -- The time of the change is no part of what is searched.
  obtain ⟨type', rest, hremove, hentries⟩ :=
    OverrideDocument.remove_insert_of_new (d := r.document.dated w.now) hvalid hnew hfull hcase
  -- The sink columns are those that the new type was checked for.
  have hmaps := mapFor_persist hagrees hpersist hfixed
  have hthere : m.Populates (w'.at now) r.engine table column (trim type) :=
    hpopulates.of_mapFor_eq hmaps
  have hmapped : m.Mapped (w'.at now) r.engine table' column' :=
    (hthere.of_foldedKey_eq hcase).mapped
  obtain ⟨-, hanswer⟩ := removeAnswer_remove (m := m) (w := w'.at now)
    (r := .ofDocument r.group r.engine ((r.document.insert table column (trim type)).dated w.now))
    hremove
  generalize (m.remove _ table' column').runOn (w'.at now) = answered at hanswer ⊢
  cases hanswer with
  | unmapped hdeclared hfirst => exact absurd hmapped hfirst.not_mapped
  | refused hrecheck hagrees' hlog hfails =>
      -- The document that was persisted when the override was set can be replaced.
      obtain ⟨w₂, hagain⟩ :=
        OverrideStore.exists_persist_again hpersist hagrees'.files_eq (rest.dated now)
      cases hagain.symm.trans hfails
  | removed hrecheck hagrees' hlog hpersist' =>
      exact ⟨_, _, rfl, rfl, rfl, hentries⟩

/-- Overrides of two columns of an order table, under two spellings of its name. -/
def codeRegistry : OverrideRegistry :=
  .ofDocument "erp" "mssql" {
    overrides := Dictionary.ofList [("DBO.ORDERS", Dictionary.ofList [("Code", "int")]),
      ("dbo.Orders", Dictionary.ofList [("Total", "int")])] }

theorem remove_set_amount :
    let m := recheckManager "pg"
    let answered := (m.set codeRegistry "dbo.orders" "Amount" " int ").runOn amountWorkspace
    answered.1.toOption.map (·.entries) = some [⟨"DBO.ORDERS", "Amount", "int"⟩,
        ⟨"DBO.ORDERS", "Code", "int"⟩, ⟨"dbo.Orders", "Total", "int"⟩] ∧
      ∃ r', answered.1 = .ok r' ∧ ∀ now, ∃ r'' w'',
        (m.remove r' "DBO.Orders" "AMOUNT").runOn (answered.2.at now) = (.ok r'', w'') ∧
          r''.group = "erp" ∧ r''.engine = "mssql" ∧ r''.entries = codeRegistry.entries := by
  intro m answered
  have hentries : answered.1.toOption.map (·.entries) = some [⟨"DBO.ORDERS", "Amount", "int"⟩,
      ⟨"DBO.ORDERS", "Code", "int"⟩, ⟨"dbo.Orders", "Total", "int"⟩] := by decide +kernel
  obtain ⟨r', hr', hadded⟩ := Option.map_eq_some_iff.1 hentries
  have hok : answered.1 = .ok r' := eq_ok_of_toOption hr'
  have hadds : r'.entries ≠ codeRegistry.entries := by
    rw [hadded]
    decide +kernel
  refine ⟨hentries, r', hok, remove_set (by decide +kernel) (Prod.ext hok rfl) hadds
    (holdsMapsOf_of_no_paths rfl _) (by decide +kernel)⟩

end OverrideManager

end SchemaCrosswalk
