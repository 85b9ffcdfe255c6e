import SchemaCrosswalk.Proofs.Checker
import SchemaCrosswalk.Proofs.Overrides.Registry
import SchemaCrosswalk.Proofs.Resolution.Partition

/-!
# Substitution — overrides are replaced types

Resolving two tables under overrides is resolving them without overrides once the types of the
source columns are those in effect. All that is read of a source column is its name and this
type, so the overrides of other columns play no part.

* `ColumnSet.retyped`: the same columns with other types
* `TablePair.substituted`: the tables without overrides, with the types in effect
* `Resolution.resolve_substituted`: both have the same resolution or the same violations
* `Resolution.resolve_overrides_eq_retyped`: the same for every kind of resolution, and for other
  overrides of the same columns
-/

namespace SchemaCrosswalk

/-! ## Types replaced -/

/-- The column with another type. -/
def Column.withType (c : Column) (type : String) : Column := { c with type }

namespace ColumnSet

/-- The same columns, each with a type that is found for it. -/
def retyped (s : ColumnSet) (type : Column → String) : ColumnSet where
  columns := s.columns.map fun c => c.withType (type c)
  distinct := by
    rw [List.map_map]
    exact s.distinct

variable (s : ColumnSet) (type : Column → String)

theorem names_retyped : (s.retyped type).names = s.names := by
  unfold names retyped
  rw [List.map_map]
  rfl

theorem get?_retyped (name : String) :
    (s.retyped type).get? name = (s.get? name).map fun c => c.withType (type c) := by
  unfold get? retyped
  rw [List.find?_map, List.find?_map]
  cases hexact : s.columns.find? (·.name == name) with
  | some c =>
      have h : s.columns.find? ((·.name == name) ∘ fun c => c.withType (type c)) = some c := hexact
      rw [h]
      rfl
  | none =>
      have h : s.columns.find? ((·.name == name) ∘ fun c => c.withType (type c)) = none := hexact
      rw [h]
      rfl

end ColumnSet

namespace TablePair

/-- The tables without overrides, the source columns having the types in effect. -/
def substituted (p : TablePair) : TablePair :=
  { p with checker := p.checker.plain, source := p.source.retyped p.effectiveType }

variable (p : TablePair)

/-- A source column with its type in effect. -/
def effective (c : Column) : Column := c.withType (p.effectiveType c)

/-! ## What is read of a source column -/

theorem canPopulate_substituted (s k : Column) :
    p.substituted.canPopulate (p.effective s) k = p.canPopulate s k :=
  p.checker.isCompatible_plain s.type k.type (p.place s) _

theorem effectiveType_substituted (s : Column) :
    p.substituted.effectiveType (p.effective s) = p.effectiveType s :=
  p.checker.effectiveType_plain _ _

theorem get?_source_substituted (name : String) :
    p.substituted.source.get? name = (p.source.get? name).map p.effective :=
  p.source.get?_retyped _ name

theorem names_source_substituted : p.substituted.source.names = p.source.names :=
  p.source.names_retyped _

/-! ## Explicit mappings -/

theorem columnsOf_substituted (m : ExplicitMapping) :
    p.substituted.columnsOf m = (p.columnsOf m).map fun c => (p.effective c.1, c.2) := by
  unfold columnsOf
  have hsink : p.substituted.sink = p.sink := rfl
  rw [get?_source_substituted, hsink]
  cases p.source.get? m.sourceColumn <;> cases p.sink.get? m.sinkColumn <;> rfl

theorem violationsOf_substituted (m : ExplicitMapping) :
    p.substituted.violationsOf m = p.violationsOf m := by
  have hsink : p.substituted.sink = p.sink := rfl
  unfold violationsOf
  rw [get?_source_substituted, names_source_substituted, hsink]
  cases p.source.get? m.sourceColumn with
  | none => cases p.sink.get? m.sinkColumn <;> rfl
  | some s =>
      cases p.sink.get? m.sinkColumn with
      | none => rfl
      | some k =>
          simp only [Option.map_some, canPopulate_substituted, effectiveType_substituted]
          rfl

theorem sourcesBySink_substituted (explicit : List ExplicitMapping) :
    p.substituted.sourcesBySink explicit = p.sourcesBySink explicit := by
  have hpairs : explicit.filterMap p.substituted.columnsOf =
      (explicit.filterMap p.columnsOf).map fun c => (p.effective c.1, c.2) := by
    rw [List.map_filterMap]
    exact List.filterMap_congr fun m _ => p.columnsOf_substituted m
  unfold sourcesBySink
  rw [hpairs, List.foldl_map]
  rfl

theorem explicitMappings_substituted (explicit : List ExplicitMapping) :
    p.substituted.explicitMappings explicit = p.explicitMappings explicit := by
  have hviolations :
      explicit.flatMap p.substituted.violationsOf = explicit.flatMap p.violationsOf :=
    congrArg (explicit.flatMap ·) (funext p.violationsOf_substituted)
  unfold explicitMappings
  rw [sourcesBySink_substituted, hviolations]

/-! ## Columns of the same name and guidance -/

variable (applied : Dictionary String)

theorem namesake?_substituted (k : Column) :
    p.substituted.namesake? applied k = (p.namesake? applied k).map p.effective := by
  unfold namesake?
  rw [get?_source_substituted]
  cases applied.contains k.name <;> rfl

theorem covered_substituted : p.substituted.covered applied = p.covered applied := by
  have hsink : p.substituted.sink = p.sink := rfl
  have hfits : ∀ k : Column,
      (p.substituted.namesake? applied k).any (fun s => p.substituted.canPopulate s k) =
        (p.namesake? applied k).any fun s => p.canPopulate s k := by
    intro k
    rw [namesake?_substituted]
    cases p.namesake? applied k with
    | none => rfl
    | some s => exact p.canPopulate_substituted s k
  unfold covered
  rw [hsink]
  simp only [hfits]

theorem clashes_substituted : p.substituted.clashes applied = p.clashes applied := by
  have hsink : p.substituted.sink = p.sink := rfl
  unfold clashes
  rw [hsink]
  refine List.filterMap_congr fun k _ => ?_
  rw [namesake?_substituted]
  cases p.namesake? applied k with
  | none => rfl
  | some s => simp only [Option.map_some, canPopulate_substituted, effectiveType_substituted]

theorem suggestions_substituted (k : Column) :
    p.substituted.suggestions k = p.suggestions k := by
  have hfilter : p.substituted.source.columns.filter (p.substituted.canPopulate · k) =
      (p.source.columns.filter (p.canPopulate · k)).map p.effective := by
    show (p.source.columns.map p.effective).filter _ = _
    rw [List.filter_map]
    exact congrArg _ (List.filter_congr fun s _ => p.canPopulate_substituted s k)
  unfold suggestions
  rw [hfilter, List.map_map]
  rfl

theorem guidanceFor_substituted (incompatible : List IncompatibleIdentity) :
    p.substituted.guidanceFor incompatible = p.guidanceFor incompatible := by
  funext k
  unfold guidanceFor
  rw [suggestions_substituted, names_source_substituted]

end TablePair

/-! ## Overrides that matter -/

/-- Whether an entry is the override of a column of a source table. -/
def OverrideEntry.affects (e : OverrideEntry) (table : String) (source : ColumnSet) : Bool :=
  source.columns.any fun c => e.concerns table c.name

/-- The override of a column depends only on the entries for the columns of its table. -/
theorem OverrideRegistry.get?_eq_of_filter_affects {r r' : OverrideRegistry} {table : String}
    {source : ColumnSet}
    (h : r'.entries.filter (·.affects table source) = r.entries.filter (·.affects table source))
    {c : Column} (hc : c ∈ source.columns) : r'.get? table c.name = r.get? table c.name := by
  have hlast : ∀ r : OverrideRegistry, OverrideEntry.lastOf r.entries table c.name =
      OverrideEntry.lastOf (r.entries.filter (·.affects table source)) table c.name := by
    intro r
    unfold OverrideEntry.lastOf
    rw [List.filter_filter]
    congr 1
    refine List.filter_congr fun e _ => ?_
    -- An entry for the column is one for a column of the table.
    cases hconcerns : e.concerns table c.name with
    | false => rfl
    | true =>
        have haffects : e.affects table source = true := List.any_eq_true.2 ⟨c, hc, hconcerns⟩
        simp [haffects]
  rw [get?_eq, get?_eq, hlast r', hlast r, h]

theorem ColumnSet.retyped_congr {s : ColumnSet} {type type' : Column → String}
    (h : ∀ c ∈ s.columns, type c = type' c) : s.retyped type = s.retyped type' := by
  have hcolumns : s.columns.map (fun c => c.withType (type c)) =
      s.columns.map fun c => c.withType (type' c) :=
    List.map_congr_left fun c hc => by rw [h c hc]
  unfold retyped
  simp only [hcolumns]

namespace Resolution

/-! ## Resolutions -/

theorem ofApplied_substituted (p : TablePair) (applied : Dictionary String) :
    ofApplied p.substituted applied = ofApplied p applied := by
  unfold ofApplied
  rw [p.covered_substituted, p.clashes_substituted]
  simp only [p.guidanceFor_substituted]
  rfl

theorem resolve_substituted (p : TablePair) (explicit : List ExplicitMapping) :
    resolve p.substituted explicit = resolve p explicit := by
  unfold resolve
  rw [p.explicitMappings_substituted]
  simp only [ofApplied_substituted]

theorem resolveForAttach_substituted (p : TablePair) (explicit : List ExplicitMapping) :
    resolveForAttach p.substituted explicit = resolveForAttach p explicit := by
  unfold resolveForAttach
  rw [resolve_substituted]
  rfl

theorem resolveForModify_substituted (p : TablePair) (explicit : List ExplicitMapping) :
    resolveForModify p.substituted explicit = resolveForModify p explicit := by
  unfold resolveForModify
  rw [resolve_substituted]

/-- Two pairs of tables have the same resolutions: as such, for an attachment and for a change. -/
structure SameOutcomes (p q : TablePair) (explicit : List ExplicitMapping) : Prop where
  resolve_eq : resolve p explicit = resolve q explicit
  attach_eq : resolveForAttach p explicit = resolveForAttach q explicit
  modify_eq : resolveForModify p explicit = resolveForModify q explicit

theorem sameOutcomes_substituted (p : TablePair) (explicit : List ExplicitMapping) :
    SameOutcomes p p.substituted explicit where
  resolve_eq := (resolve_substituted p explicit).symm
  attach_eq := (resolveForAttach_substituted p explicit).symm
  modify_eq := (resolveForModify_substituted p explicit).symm

theorem SameOutcomes.symm {p q : TablePair} {explicit : List ExplicitMapping}
    (h : SameOutcomes p q explicit) : SameOutcomes q p explicit :=
  ⟨h.resolve_eq.symm, h.attach_eq.symm, h.modify_eq.symm⟩

theorem SameOutcomes.trans {p q s : TablePair} {explicit : List ExplicitMapping}
    (h : SameOutcomes p q explicit) (h' : SameOutcomes q s explicit) :
    SameOutcomes p s explicit :=
  ⟨h.resolve_eq.trans h'.resolve_eq, h.attach_eq.trans h'.attach_eq,
    h.modify_eq.trans h'.modify_eq⟩

/-- Resolving under overrides is resolving without them once they replace the types of the source
columns; overrides of other tables and of columns that the source table does not have change
nothing. -/
theorem resolve_overrides_eq_retyped (m : CompatibilityMap) (r : OverrideRegistry)
    (table : String) (source sink : ColumnSet) (explicit : List ExplicitMapping) :
    SameOutcomes ⟨⟨m, some r⟩, table, source, sink⟩
        ⟨⟨m, none⟩, table, source.retyped fun c => r.effectiveType table c.name c.type, sink⟩
        explicit ∧
      ∀ r' : OverrideRegistry,
        r'.entries.filter (·.affects table source) = r.entries.filter (·.affects table source) →
          SameOutcomes ⟨⟨m, some r'⟩, table, source, sink⟩ ⟨⟨m, some r⟩, table, source, sink⟩
            explicit := by
  have hsubstituted : ∀ r : OverrideRegistry, SameOutcomes ⟨⟨m, some r⟩, table, source, sink⟩
      ⟨⟨m, none⟩, table, source.retyped fun c => r.effectiveType table c.name c.type, sink⟩
      explicit := fun r => sameOutcomes_substituted ⟨⟨m, some r⟩, table, source, sink⟩ explicit
  refine ⟨hsubstituted r, fun r' hfilter => ?_⟩
  have htypes : source.retyped (fun c => r'.effectiveType table c.name c.type) =
      source.retyped fun c => r.effectiveType table c.name c.type := by
    refine ColumnSet.retyped_congr fun c hc => ?_
    unfold OverrideRegistry.effectiveType
    rw [OverrideRegistry.get?_eq_of_filter_affects hfilter hc]
  have hother := hsubstituted r'
  rw [htypes] at hother
  exact hother.trans (hsubstituted r).symm

/-- An override for an order table, beside those for other tables. -/
def orderOverrides (others : List (String × Dictionary String)) : OverrideRegistry :=
  .ofDocument "erp" "mssql" {
    overrides := Dictionary.ofList
      ([("DBO.ORDERS", Dictionary.ofList [("amount", "int")])] ++ others) }

theorem resolve_overrides_eq_retyped_orders :
    SameOutcomes
      ⟨⟨orderTables.checker.map, some (orderOverrides
        [("dbo.Customers", Dictionary.ofList [("Amount", "text")])])⟩,
        "dbo.Orders", orderTables.source, orderTables.sink⟩
      ⟨⟨orderTables.checker.map, some (orderOverrides [])⟩,
        "dbo.Orders", orderTables.source, orderTables.sink⟩ [⟨"Amount", "amount"⟩] := by
  refine (resolve_overrides_eq_retyped orderTables.checker.map (orderOverrides []) "dbo.Orders"
    orderTables.source orderTables.sink [⟨"Amount", "amount"⟩]).2 _ ?_
  decide +kernel

end Resolution

end SchemaCrosswalk
