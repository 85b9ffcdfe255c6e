import SchemaCrosswalk.Proofs.Resolution.Modification
import SchemaCrosswalk.Proofs.Resolution.Reports

/-!
# Policies — attachments and modifications as readings of one resolution

An attachment and a modification resolve the same tables with the same mappings and differ only in
what they make of required sink columns that stay empty. An attachment is refused for them, with
guidance on each. A modification is accepted, and the same guidance is given as warnings.

* `Resolution.sinkColumn_warnings`: there is one warning for each column that stays empty
* `Resolution.resolveForAttach_eq_ok_iff`, `Resolution.resolveForAttach_of_warnings`: when an
  attachment is accepted, and how it is refused
* `Resolution.PoliciesAgree`: what one policy says of the other
* `Resolution.attach_and_modify_agree`: they say so for all tables and mappings
-/

namespace SchemaCrosswalk

theorem TablePair.sinkColumn_guidanceFor (p : TablePair) (incompatible : List IncompatibleIdentity)
    (k : Column) : (p.guidanceFor incompatible k).sinkColumn = k.name := by
  unfold guidanceFor
  cases incompatible.find? fun i => i.sinkColumn == k.name with
  | none => rfl
  | some identity => rfl

namespace Resolution

variable {p : TablePair} {explicit : List ExplicitMapping} {applied : Dictionary String}
variable {r : Resolution} {warnings : List MappingWarning} {fault : Fault}

/-! ## Warnings -/

/-- There is one warning for each required column that stays empty, in the order of the table. -/
theorem sinkColumn_warnings (p : TablePair) (applied : Dictionary String) :
    (ofApplied p applied).warnings.map (·.sinkColumn) = (ofApplied p applied).unmapped := by
  simp [ofApplied, Resolution.warnings, TablePair.sinkColumn_guidanceFor]

theorem sinkColumn_warnings_of_resolve (h : resolve p explicit = .ok r) :
    r.warnings.map (·.sinkColumn) = r.unmapped := by
  rcases resolve_eq_ok_iff.1 h with ⟨applied, -, rfl⟩
  exact sinkColumn_warnings p applied

/-- A resolution is valid if there is nothing to warn of. -/
theorem valid_iff_warnings_eq_nil (h : resolve p explicit = .ok r) :
    r.valid = true ↔ r.warnings = [] := by
  have hcolumns := sinkColumn_warnings_of_resolve h
  rcases resolve_eq_ok_iff.1 h with ⟨applied, -, rfl⟩
  calc
    (ofApplied p applied).valid = true
        ↔ (ofApplied p applied).unmapped = [] := valid_iff_unmapped_eq_nil
    _ ↔ (ofApplied p applied).warnings = [] := by simp [← hcolumns]

theorem message_warnings (r : Resolution) :
    r.warnings.map (·.message) = r.guidance.map Guidance.message := by
  simp [Resolution.warnings]

/-! ## The two policies -/

theorem resolveForAttach_of_resolve (h : resolve p explicit = .ok r) :
    resolveForAttach p explicit =
      if r.valid then .ok (r, [])
      else .error (.incompatible (.unpopulated p.sourceTable r.unmapped r.guidance)) := by
  unfold resolveForAttach
  rw [h]
  rfl

/-- An attachment is accepted if its resolution is valid, and then there are no warnings. -/
theorem resolveForAttach_eq_ok_iff :
    resolveForAttach p explicit = .ok (r, warnings) ↔
      resolve p explicit = .ok r ∧ r.valid = true ∧ warnings = [] := by
  constructor
  · intro h
    have hresolve := resolveForAttach_eq_ok h
    rw [resolveForAttach_of_resolve hresolve] at h
    cases hvalid : r.valid with
    | false => simp [hvalid] at h
    | true =>
        have hnone : [] = warnings := by
          simpa [hvalid] using h
        exact ⟨hresolve, rfl, hnone.symm⟩
  · rintro ⟨hresolve, hvalid, rfl⟩
    rw [resolveForAttach_of_resolve hresolve, if_pos hvalid]

/-- Where a modification warns, the attachment is refused, and the warnings are the guidance. -/
theorem resolveForAttach_of_warnings (h : resolve p explicit = .ok r) (hwarns : r.warnings ≠ []) :
    ∃ cause, resolveForAttach p explicit = .error (.incompatible cause) ∧
      cause.suggestions = r.warnings.map (·.message) := by
  have hvalid : ¬ r.valid = true := fun hvalid => hwarns ((valid_iff_warnings_eq_nil h).1 hvalid)
  refine ⟨.unpopulated p.sourceTable r.unmapped r.guidance, ?_, ?_⟩
  · rw [resolveForAttach_of_resolve h, if_neg hvalid]
  · exact (message_warnings r).symm

theorem exists_violations_of_resolve (h : resolve p explicit = .error fault) :
    ∃ found, found ≠ [] ∧ fault = .violations found := by
  rcases resolve_eq_error_iff.1 h with ⟨hne, hfault⟩
  exact ⟨p.report explicit, hne, hfault⟩

/-! ## What one policy says of the other -/

/-- What attaching and modifying say of the resolution of two tables, and of each other. -/
structure PoliciesAgree (p : TablePair) (explicit : List ExplicitMapping) : Prop where
  -- a modification
  modify_iff : ∀ r, (∃ warnings, resolveForModify p explicit = .ok (r, warnings)) ↔
    resolve p explicit = .ok r
  modify_warns : ∀ r warnings, resolveForModify p explicit = .ok (r, warnings) →
    warnings.map (·.sinkColumn) = r.unmapped
  -- an attachment
  attach_iff : ∀ r warnings, resolveForAttach p explicit = .ok (r, warnings) ↔
    resolve p explicit = .ok r ∧ r.valid = true ∧ warnings = []
  -- both
  modify_of_attach : ∀ outcome, resolveForAttach p explicit = .ok outcome →
    resolveForModify p explicit = .ok outcome
  attach_refused : ∀ r warnings, resolveForModify p explicit = .ok (r, warnings) →
    warnings ≠ [] → ∃ cause, resolveForAttach p explicit = .error (.incompatible cause) ∧
      cause.suggestions = warnings.map (·.message)
  both_refused : ∀ fault, resolve p explicit = .error fault →
    (∃ found, found ≠ [] ∧ fault = .violations found) ∧
      resolveForAttach p explicit = .error fault ∧ resolveForModify p explicit = .error fault

/-- Attaching and modifying are two readings of one resolution: an attachment is accepted without
warnings where a modification has none to give, and is refused with those that it gives. -/
theorem attach_and_modify_agree (p : TablePair) (explicit : List ExplicitMapping) :
    PoliciesAgree p explicit where
  modify_iff := by
    intro r
    constructor
    · rintro ⟨warnings, hmodify⟩
      exact (resolveForModify_eq_ok_iff.1 hmodify).1
    · intro hresolve
      exact ⟨r.warnings, resolveForModify_eq_ok_iff.2 ⟨hresolve, rfl⟩⟩
  modify_warns := by
    intro r warnings hmodify
    rcases resolveForModify_eq_ok_iff.1 hmodify with ⟨hresolve, rfl⟩
    exact sinkColumn_warnings_of_resolve hresolve
  attach_iff := by
    intro r warnings
    exact resolveForAttach_eq_ok_iff
  modify_of_attach := by
    rintro ⟨r, warnings⟩ hattach
    rcases resolveForAttach_eq_ok_iff.1 hattach with ⟨hresolve, hvalid, rfl⟩
    have hnone := (valid_iff_warnings_eq_nil hresolve).1 hvalid
    exact resolveForModify_eq_ok_iff.2 ⟨hresolve, hnone.symm⟩
  attach_refused := by
    intro r warnings hmodify hwarns
    rcases resolveForModify_eq_ok_iff.1 hmodify with ⟨hresolve, rfl⟩
    exact resolveForAttach_of_warnings hresolve hwarns
  both_refused := by
    intro fault hresolve
    refine ⟨exists_violations_of_resolve hresolve, ?_, ?_⟩
    · simp [resolveForAttach, hresolve, Bind.bind, Except.bind]
    · simp [resolveForModify, hresolve, Bind.bind, Except.bind]

/-- The note of an order is missing at the source: a modification warns of it. -/
example : (resolveForModify orderTables []).toOption.map (fun o => o.2.map (·.sinkColumn)) =
    some ["note"] := by
  decide +kernel

end Resolution

end SchemaCrosswalk
