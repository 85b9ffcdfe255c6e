import SchemaCrosswalk.Proofs.Resolution.Extension
import SchemaCrosswalk.Proofs.Resolution.Reports

/-!
# Reordering — the order of explicit mappings plays no part

What is applied, and which sink columns have several source columns, depends on the mappings of a
list but not on their order or number. The order shows only in reports: what is wrong with single
mappings is listed as they are, and source columns are listed as they are mentioned.

* `TablePair.explicitMappings_of_mem_iff`: lists with the same mappings are accepted alike
* `TablePair.overMapped_of_mem_iff`, `TablePair.perm_mentionedInto`: they have the same sink columns
  with several source columns, and the same source columns for these
* `Resolution.OrderIrrelevant`: what a resolution keeps under another order of the mappings
* `Resolution.order_irrelevant`: it does so for all tables and mappings
-/

namespace SchemaCrosswalk

/-! ## Violations that several mappings cause together -/

/-- Whether a violation is about a sink column with several source columns. -/
def Violation.isDuplicate : Violation → Bool
  | .duplicateSinkColumn _ _ => true
  | _ => false

/-- Two violations name the same sink column with the same source columns. -/
inductive Violation.SameDuplicate : Violation → Violation → Prop
  | intro {sink : String} {sources sources' : List String} :
      sources.Perm sources' →
        SameDuplicate (.duplicateSinkColumn sink sources) (.duplicateSinkColumn sink sources')

/-- Two reports list the same faults of single mappings in some order, and in one order the same
sink columns with several source columns. -/
structure SameFindings (found found' : List Violation) : Prop where
  faults : (found.filter (!·.isDuplicate)).Perm (found'.filter (!·.isDuplicate))
  duplicates : List.Forall₂ Violation.SameDuplicate
    (found.filter (·.isDuplicate)) (found'.filter (·.isDuplicate))

namespace TablePair

variable {p : TablePair} {explicit other : List ExplicitMapping} {m : ExplicitMapping}
variable {applied : Dictionary String} {source sink : String} {v : Violation}

/-! ## Lists with the same mappings -/

theorem mem_sourcesInto_of_mem_iff (hsame : ∀ m, m ∈ explicit ↔ m ∈ other) :
    source ∈ p.sourcesInto explicit sink ↔ source ∈ p.sourcesInto other sink :=
  ⟨mem_sourcesInto_of_subset fun m => (hsame m).1, mem_sourcesInto_of_subset fun m => (hsame m).2⟩

/-- Lists with the same mappings are accepted alike, and the same is applied. -/
theorem explicitMappings_of_mem_iff (hsame : ∀ m, m ∈ explicit ↔ m ∈ other)
    (h : p.explicitMappings explicit = .ok applied) : p.explicitMappings other = .ok applied := by
  refine explicitMappings_eq_ok_of_get?_iff ?_ ?_
  · intro m hm
    exact (explicitMappings_eq_ok_iff.1 h).1 m ((hsame m).2 hm)
  · intro sink source
    calc applied.get? sink = some source
        ↔ source ∈ p.sourcesInto explicit sink := get?_applied_iff h
      _ ↔ source ∈ p.sourcesInto other sink := mem_sourcesInto_of_mem_iff hsame

theorem IsOverMapped.of_subset (hsub : explicit ⊆ other) (h : p.IsOverMapped explicit sink) :
    p.IsOverMapped other sink := by
  rcases h with ⟨m, hm, m', hm', hdiffer⟩
  exact ⟨m, hsub hm, m', hsub hm', hdiffer⟩

/-- The sink columns with several source columns are sorted by name, so they are the same lists. -/
theorem overMapped_of_mem_iff (hsame : ∀ m, m ∈ explicit ↔ m ∈ other) :
    p.overMapped explicit = p.overMapped other := by
  have hmem : ∀ sink, sink ∈ p.overMapped explicit ↔ sink ∈ p.overMapped other := by
    intro sink
    rw [mem_overMapped, mem_overMapped]
    exact ⟨.of_subset fun m => (hsame m).1, .of_subset fun m => (hsame m).2⟩
  have hsorted := p.pairwise_overMapped explicit
  have hsorted' := p.pairwise_overMapped other
  have hperm : (p.overMapped explicit).Perm (p.overMapped other) :=
    (List.perm_ext_iff_of_nodup (hsorted.imp String.ne_of_lt) (hsorted'.imp String.ne_of_lt)).2 hmem
  exact hperm.eq_of_pairwise (fun a b _ _ hab hba => absurd hba (String.lt_asymm hab))
    hsorted hsorted'

theorem perm_mentionedInto (hsame : ∀ m, m ∈ explicit ↔ m ∈ other) (sink : String) :
    (p.mentionedInto explicit sink).Perm (p.mentionedInto other sink) := by
  refine (List.perm_ext_iff_of_nodup (nodup_eraseDups _) (nodup_eraseDups _)).2 fun source => ?_
  simpa [mentionedInto, List.mem_eraseDups] using mem_sourcesInto_of_mem_iff hsame

/-! ## Reports in another order -/

theorem isDuplicate_of_mem_violationsOf (hv : v ∈ p.violationsOf m) : v.isDuplicate = false := by
  have hfaults := p.faults_violationsOf m
  generalize p.violationsOf m = found at hv hfaults
  cases hfaults with
  | none => cases hv
  | typeMismatch => simp [List.mem_singleton.1 hv, Violation.isDuplicate]
  | unknownSource => simp [List.mem_singleton.1 hv, Violation.isDuplicate]
  | unknownSink => simp [List.mem_singleton.1 hv, Violation.isDuplicate]
  | bothUnknown => rcases List.mem_pair.1 hv with rfl | rfl <;> rfl

theorem isDuplicate_of_mem_flatMap (hv : v ∈ explicit.flatMap p.violationsOf) :
    v.isDuplicate = false := by
  rcases List.mem_flatMap.1 hv with ⟨m, -, hm⟩
  exact isDuplicate_of_mem_violationsOf hm

theorem isDuplicate_of_mem_duplicates (hv : v ∈ duplicates (p.sourcesBySink explicit)) :
    v.isDuplicate = true := by
  rw [duplicates_sourcesBySink] at hv
  rcases List.mem_map.1 hv with ⟨sink, -, rfl⟩
  rfl

theorem filter_not_isDuplicate_report (p : TablePair) (explicit : List ExplicitMapping) :
    (p.report explicit).filter (!·.isDuplicate) = explicit.flatMap p.violationsOf := by
  have hfaults : (explicit.flatMap p.violationsOf).filter (!·.isDuplicate) =
      explicit.flatMap p.violationsOf :=
    List.filter_eq_self.2 fun v hv => by simp [isDuplicate_of_mem_flatMap hv]
  have hnone : (duplicates (p.sourcesBySink explicit)).filter (!·.isDuplicate) = [] :=
    List.filter_eq_nil_iff.2 fun v hv => by simp [isDuplicate_of_mem_duplicates hv]
  simp [report, hfaults, hnone]

theorem filter_isDuplicate_report (p : TablePair) (explicit : List ExplicitMapping) :
    (p.report explicit).filter (·.isDuplicate) = duplicates (p.sourcesBySink explicit) := by
  have hnone : (explicit.flatMap p.violationsOf).filter (·.isDuplicate) = [] :=
    List.filter_eq_nil_iff.2 fun v hv => by simp [isDuplicate_of_mem_flatMap hv]
  have hall : (duplicates (p.sourcesBySink explicit)).filter (·.isDuplicate) =
      duplicates (p.sourcesBySink explicit) :=
    List.filter_eq_self.2 fun v hv => isDuplicate_of_mem_duplicates hv
  simp [report, hnone, hall]

theorem sameFindings_report (hperm : explicit.Perm other) :
    SameFindings (p.report explicit) (p.report other) := by
  have hsame : ∀ m, m ∈ explicit ↔ m ∈ other := fun m => hperm.mem_iff
  constructor
  · rw [filter_not_isDuplicate_report, filter_not_isDuplicate_report]
    exact hperm.flatMap_right _
  · rw [filter_isDuplicate_report, filter_isDuplicate_report, duplicates_sourcesBySink,
      duplicates_sourcesBySink, overMapped_of_mem_iff hsame]
    rw [List.forall₂_map_left_iff, List.forall₂_map_right_iff, List.forall₂_same]
    intro sink _
    exact .intro (perm_mentionedInto hsame sink)

end TablePair

namespace Resolution

variable {p : TablePair} {explicit other : List ExplicitMapping} {r : Resolution}

theorem resolve_of_mem_iff (hsame : ∀ m, m ∈ explicit ↔ m ∈ other)
    (h : resolve p explicit = .ok r) : resolve p other = .ok r := by
  rcases resolve_eq_ok_iff.1 h with ⟨applied, happlied, rfl⟩
  exact resolve_eq_ok_iff.2
    ⟨applied, TablePair.explicitMappings_of_mem_iff hsame happlied, rfl⟩

/-- What the resolutions of two tables with two lists of explicit mappings have in common if only
the order of the mappings differs. -/
structure OrderIrrelevant (p : TablePair) (explicit other : List ExplicitMapping) : Prop where
  accepted_iff : ∀ r, resolve p explicit = .ok r ↔ resolve p other = .ok r
  refused : ∀ fault fault', resolve p explicit = .error fault → resolve p other = .error fault' →
    ∃ found found', fault = .violations found ∧ fault' = .violations found' ∧
      SameFindings found found'

/-- Explicit mappings in another order are accepted with the same resolution, or refused with the
same findings. -/
theorem order_irrelevant (hperm : explicit.Perm other) : OrderIrrelevant p explicit other := by
  constructor
  · intro r
    constructor
    · exact resolve_of_mem_iff fun m => hperm.mem_iff
    · exact resolve_of_mem_iff fun m => hperm.mem_iff.symm
  · intro fault fault' h h'
    rcases resolve_eq_error_iff.1 h with ⟨-, rfl⟩
    rcases resolve_eq_error_iff.1 h' with ⟨-, rfl⟩
    exact ⟨_, _, rfl, rfl, TablePair.sameFindings_report hperm⟩

/-- Mappings that send two source columns to one sink column, with an unknown name between. -/
def crossedMappings : List ExplicitMapping :=
  [⟨"Code", "ext_code"⟩, ⟨"Nr", "id"⟩, ⟨"ID", "EXT_CODE"⟩]

theorem order_irrelevant_crossedMappings :
    crossedMappings.Perm crossedMappings.reverse ∧ orderTables.report crossedMappings ≠ [] ∧
      OrderIrrelevant orderTables crossedMappings crossedMappings.reverse := by
  have hperm : crossedMappings.Perm crossedMappings.reverse := (List.reverse_perm _).symm
  exact ⟨hperm, by decide +kernel, order_irrelevant hperm⟩

end Resolution

end SchemaCrosswalk
