import SchemaCrosswalk.Proofs.Resolution.Partition

/-!
# Reports — all that is wrong with a list of explicit mappings

Mappings that are refused are refused with a report. What is wrong with each mapping by itself
comes first, in the order of the list: names that no column has, or types that do not fit. Then
come the sink columns into which different source columns are sent, in the order of their names.

* `TablePair.Faults`: what is wrong with one mapping
* `TablePair.IsOverMapped`: a sink column gets several source columns
* `TablePair.duplicates_sourcesBySink`: such columns are listed by name, with their source columns
* `TablePair.IsReport`: what a report holds, and in which order
* `TablePair.explicitMappings_eq_error_iff`: when mappings are refused, and with which report
* `Resolution.validates_exactly`: mappings are refused exactly if they are not consistent, with all
  that is wrong with them, and else exactly the pairs that they name are applied
-/

namespace SchemaCrosswalk

namespace TablePair

variable {p : TablePair} {explicit : List ExplicitMapping} {m : ExplicitMapping}
variable {fault : Fault} {source sink : String}

/-! ## What is wrong with one mapping -/

/-- What is wrong with one mapping. Every name that no column has is reported, the one at the
source first; types are compared if both columns are there. -/
inductive Faults (p : TablePair) (m : ExplicitMapping) : List Violation → Prop
  | none {s k : Column} :
      p.source.get? m.sourceColumn = some s → p.sink.get? m.sinkColumn = some k →
        p.canPopulate s k = true → Faults p m []
  | typeMismatch {s k : Column} :
      p.source.get? m.sourceColumn = some s → p.sink.get? m.sinkColumn = some k →
        p.canPopulate s k = false →
          Faults p m [.typeMismatch s.name (p.effectiveType s) k.name k.type]
  | unknownSource {k : Column} :
      p.source.get? m.sourceColumn = none → p.sink.get? m.sinkColumn = some k →
        Faults p m [.unknownSourceColumn m.sourceColumn p.source.names]
  | unknownSink {s : Column} :
      p.source.get? m.sourceColumn = some s → p.sink.get? m.sinkColumn = none →
        Faults p m [.unknownSinkColumn m.sinkColumn p.sink.names]
  | bothUnknown :
      p.source.get? m.sourceColumn = none → p.sink.get? m.sinkColumn = none →
        Faults p m [.unknownSourceColumn m.sourceColumn p.source.names,
          .unknownSinkColumn m.sinkColumn p.sink.names]

/-- A mapping by itself is wrong if a name is unknown or the types do not fit. -/
def IsFaulty (p : TablePair) (m : ExplicitMapping) : Prop :=
  p.source.get? m.sourceColumn = none ∨ p.sink.get? m.sinkColumn = none ∨
    ∃ s k, p.columnsOf m = some (s, k) ∧ p.canPopulate s k = false

theorem faults_violationsOf (p : TablePair) (m : ExplicitMapping) :
    p.Faults m (p.violationsOf m) := by
  cases hs : p.source.get? m.sourceColumn with
  | none =>
      cases hk : p.sink.get? m.sinkColumn with
      | none => simpa [violationsOf, hs, hk] using Faults.bothUnknown hs hk
      | some k => simpa [violationsOf, hs, hk] using Faults.unknownSource hs hk
  | some s =>
      cases hk : p.sink.get? m.sinkColumn with
      | none => simpa [violationsOf, hs, hk] using Faults.unknownSink hs hk
      | some k =>
          cases hfits : p.canPopulate s k with
          | true => simpa [violationsOf, hs, hk, hfits] using Faults.none hs hk hfits
          | false => simpa [violationsOf, hs, hk, hfits] using Faults.typeMismatch hs hk hfits

theorem violationsOf_ne_nil_iff : p.violationsOf m ≠ [] ↔ p.IsFaulty m := by
  constructor
  · intro hne
    generalize hfound : p.violationsOf m = found at hne
    have hfaults : p.Faults m found := hfound ▸ p.faults_violationsOf m
    cases hfaults with
    | none => exact absurd rfl hne
    | typeMismatch hs hk hclash =>
        exact Or.inr (Or.inr ⟨_, _, columnsOf_eq_some_iff.2 ⟨hs, hk⟩, hclash⟩)
    | unknownSource hs => exact Or.inl hs
    | unknownSink _ hk => exact Or.inr (Or.inl hk)
    | bothUnknown hs => exact Or.inl hs
  · intro hfaulty hnil
    rcases violationsOf_eq_nil_iff.1 hnil with ⟨s, k, hcols, hfits⟩
    rcases columnsOf_eq_some_iff.1 hcols with ⟨hs, hk⟩
    rcases hfaulty with hnone | hnone | ⟨s', k', hcols', hclash⟩
    · simp [hnone] at hs
    · simp [hnone] at hk
    · have hsame : s = s' ∧ k = k' := by
        simpa [hcols] using hcols'
      simp [← hsame.1, ← hsame.2, hfits] at hclash

/-! ## Sink columns with several source columns -/

theorem mem_keys_sourcesBySink :
    sink ∈ (p.sourcesBySink explicit).keys ↔ ∃ source, source ∈ p.sourcesInto explicit sink := by
  rw [← Dictionary.contains_iff_mem_keys, Dictionary.contains, get?_sourcesBySink]
  cases p.sourcesInto explicit sink <;> simp

/-- Two mappings send different source columns to a sink column. -/
def IsOverMapped (p : TablePair) (explicit : List ExplicitMapping) (sink : String) : Prop :=
  ∃ m ∈ explicit, ∃ m' ∈ explicit, ∃ s s' k,
    p.columnsOf m = some (s, k) ∧ p.columnsOf m' = some (s', k) ∧ k.name = sink ∧ s ≠ s'

theorem one_lt_length_mentionedInto_iff :
    1 < (p.mentionedInto explicit sink).length ↔ p.IsOverMapped explicit sink := by
  rw [mentionedInto, one_lt_length_eraseDups_iff]
  constructor
  · rintro ⟨name, hname, other, hother, hne⟩
    rcases mem_sourcesInto.1 hname with ⟨m, hm, s, k, hcols, rfl, hk⟩
    rcases mem_sourcesInto.1 hother with ⟨m', hm', s', k', hcols', rfl, hk'⟩
    -- Both mappings lead into the one column that has the name.
    have hsame : k' = k := ColumnSet.eq_of_name_eq
      (ColumnSet.mem_of_get? (columnsOf_eq_some_iff.1 hcols').2)
      (ColumnSet.mem_of_get? (columnsOf_eq_some_iff.1 hcols).2) (hk'.trans hk.symm)
    subst hsame
    exact ⟨m, hm, m', hm', s, s', k', hcols, hcols', hk, fun heq => hne (congrArg _ heq)⟩
  · rintro ⟨m, hm, m', hm', s, s', k, hcols, hcols', hk, hne⟩
    refine ⟨s.name, mem_sourcesInto.2 ⟨m, hm, s, k, hcols, rfl, hk⟩,
      s'.name, mem_sourcesInto.2 ⟨m', hm', s', k, hcols', rfl, hk⟩, fun hname => hne ?_⟩
    exact ColumnSet.eq_of_name_eq (ColumnSet.mem_of_get? (columnsOf_eq_some_iff.1 hcols).1)
      (ColumnSet.mem_of_get? (columnsOf_eq_some_iff.1 hcols').1) hname

/-- The sink columns with several source columns, in the order of their names. -/
def overMapped (p : TablePair) (explicit : List ExplicitMapping) : List String :=
  (p.sourcesBySink explicit).keys.filter fun sink => 1 < (p.mentionedInto explicit sink).length

theorem mem_overMapped : sink ∈ p.overMapped explicit ↔ p.IsOverMapped explicit sink := by
  rw [overMapped, List.mem_filter, decide_eq_true_iff, ← one_lt_length_mentionedInto_iff]
  refine and_iff_right_of_imp fun hseveral => mem_keys_sourcesBySink.2 ?_
  rcases List.exists_mem_of_length_pos (Nat.zero_lt_of_lt hseveral) with ⟨source, hsource⟩
  exact ⟨source, mem_mentionedInto.1 hsource⟩

theorem pairwise_overMapped (p : TablePair) (explicit : List ExplicitMapping) :
    (p.overMapped explicit).Pairwise (· < ·) := by
  have hkeys : (p.sourcesBySink explicit).keys.Pairwise (· < ·) :=
    List.pairwise_map.2 (p.sourcesBySink explicit).ascending
  exact hkeys.filter _

theorem duplicates_sourcesBySink (p : TablePair) (explicit : List ExplicitMapping) :
    duplicates (p.sourcesBySink explicit) =
      (p.overMapped explicit).map fun sink =>
        .duplicateSinkColumn sink (p.mentionedInto explicit sink) := by
  have hentry : ∀ e ∈ (p.sourcesBySink explicit).entries,
      e.2 = p.mentionedInto explicit e.1 := fun e he =>
    eq_mentionedInto (Dictionary.get?_eq_some_iff.2 he)
  unfold duplicates overMapped Dictionary.keys
  rw [List.filter_map, List.map_map]
  have hfilter : (p.sourcesBySink explicit).entries.filter (fun e => 1 < e.2.length) =
      (p.sourcesBySink explicit).entries.filter
        ((fun sink => 1 < (p.mentionedInto explicit sink).length) ∘ fun e => e.1) :=
    List.filter_congr fun e he => by simp [hentry e he]
  rw [hfilter]
  exact List.map_congr_left fun e he => by simp [hentry e (List.mem_of_mem_filter he)]

/-! ## Reports -/

/-- A report holds what is wrong with each mapping, in the order of the list, and then the sink
columns with several source columns, in the order of their names. -/
def IsReport (p : TablePair) (explicit : List ExplicitMapping) (found : List Violation) : Prop :=
  ∃ (faults : List (List Violation)) (sinks : List String),
    List.Forall₂ p.Faults explicit faults ∧
      sinks.Pairwise (· < ·) ∧ (∀ sink, sink ∈ sinks ↔ p.IsOverMapped explicit sink) ∧
        found = faults.flatten ++
          sinks.map fun sink => .duplicateSinkColumn sink (p.mentionedInto explicit sink)

/-- All that is wrong with a list of explicit mappings. -/
def report (p : TablePair) (explicit : List ExplicitMapping) : List Violation :=
  explicit.flatMap p.violationsOf ++ duplicates (p.sourcesBySink explicit)

theorem isReport_report (p : TablePair) (explicit : List ExplicitMapping) :
    p.IsReport explicit (p.report explicit) := by
  refine ⟨explicit.map p.violationsOf, p.overMapped explicit, ?_, p.pairwise_overMapped explicit,
    fun sink => mem_overMapped, ?_⟩
  · exact List.forall₂_map_right_iff.2 (List.forall₂_same.2 fun m _ => p.faults_violationsOf m)
  · rw [report, duplicates_sourcesBySink, List.flatMap_def]

/-- There is something to report if a mapping is wrong by itself or two do not go together. -/
theorem report_ne_nil_iff :
    p.report explicit ≠ [] ↔
      (∃ m ∈ explicit, p.IsFaulty m) ∨ ∃ sink, p.IsOverMapped explicit sink := by
  have hfaults : explicit.flatMap p.violationsOf ≠ [] ↔ ∃ m ∈ explicit, p.IsFaulty m := by
    simp [List.flatMap_eq_nil_iff, ← violationsOf_ne_nil_iff]
  have hsinks : duplicates (p.sourcesBySink explicit) ≠ [] ↔
      ∃ sink, p.IsOverMapped explicit sink := by
    simp [duplicates_sourcesBySink, List.eq_nil_iff_forall_not_mem, mem_overMapped]
  calc p.report explicit ≠ []
      ↔ explicit.flatMap p.violationsOf ≠ [] ∨ duplicates (p.sourcesBySink explicit) ≠ [] := by
        simp only [report, ne_eq, List.append_eq_nil_iff, not_and_or]
    _ ↔ _ := or_congr hfaults hsinks

/-- Mappings are refused if there is something to report, and with that report. -/
theorem explicitMappings_eq_error_iff :
    p.explicitMappings explicit = .error fault ↔
      p.report explicit ≠ [] ∧ fault = .violations (p.report explicit) := by
  unfold explicitMappings report
  cases hfound : explicit.flatMap p.violationsOf ++ duplicates (p.sourcesBySink explicit) with
  | nil => simp [hfound]
  | cons violation rest => simp [hfound, eq_comm]

end TablePair

namespace Resolution

variable {p : TablePair} {explicit : List ExplicitMapping} {r : Resolution} {fault : Fault}

theorem resolve_eq_error_iff :
    resolve p explicit = .error fault ↔
      p.report explicit ≠ [] ∧ fault = .violations (p.report explicit) := by
  rw [← TablePair.explicitMappings_eq_error_iff]
  unfold resolve
  cases p.explicitMappings explicit <;> simp [Bind.bind, Except.bind, Pure.pure, Except.pure]

/-- What the resolution of two tables makes of explicit mappings. -/
structure ValidatesExactly (p : TablePair) (explicit : List ExplicitMapping) : Prop where
  refused_iff : (∃ found, resolve p explicit = .error (.violations found)) ↔
    (∃ m ∈ explicit, p.IsFaulty m) ∨ ∃ sink, p.IsOverMapped explicit sink
  reported : ∀ fault, resolve p explicit = .error fault →
    ∃ found, fault = .violations found ∧ p.IsReport explicit found
  applied_iff : ∀ r, resolve p explicit = .ok r → ∀ sink source,
    r.applied.get? sink = some source ↔
      ∃ m ∈ explicit, ∃ s k, p.columnsOf m = some (s, k) ∧ s.name = source ∧ k.name = sink

/-- Mappings are refused exactly if one of them is wrong by itself or two do not go together, and
the report holds all that is wrong; mappings that are accepted are applied, and nothing else is. -/
theorem validates_exactly (p : TablePair) (explicit : List ExplicitMapping) :
    ValidatesExactly p explicit where
  refused_iff := by
    rw [← TablePair.report_ne_nil_iff]
    constructor
    · rintro ⟨found, hfound⟩
      exact (resolve_eq_error_iff.1 hfound).1
    · intro hne
      exact ⟨p.report explicit, resolve_eq_error_iff.2 ⟨hne, rfl⟩⟩
  reported := by
    intro fault hfault
    rcases resolve_eq_error_iff.1 hfault with ⟨-, rfl⟩
    exact ⟨p.report explicit, rfl, p.isReport_report explicit⟩
  applied_iff := by
    intro r hr sink source
    rcases resolve_eq_ok_iff.1 hr with ⟨applied, happlied, rfl⟩
    calc applied.get? sink = some source
        ↔ source ∈ p.sourcesInto explicit sink := TablePair.get?_applied_iff happlied
      _ ↔ _ := TablePair.mem_sourcesInto

/-- What is wrong with each mapping, and then the sink column that two of them fill. -/
example :
    orderTables.report [⟨"Code", "EXT_CODE"⟩, ⟨"Nr", "item"⟩, ⟨"Amount", "amount"⟩,
        ⟨"ID", "ext_code"⟩] =
      [.unknownSourceColumn "Nr" ["ID", "id", "Code", "Amount"],
        .unknownSinkColumn "item" ["id", "ext_code", "amount", "note"],
        .typeMismatch "Amount" "varchar(9)" "amount" "integer",
        .typeMismatch "ID" "varchar(8)" "ext_code" "varchar(5)",
        .duplicateSinkColumn "ext_code" ["Code", "ID"]] := by
  decide +kernel

end Resolution

end SchemaCrosswalk
