import SchemaCrosswalk.Proofs.Resolution.Modification

/-!
# Extension — more explicit mappings never populate less

A mapping that is added takes its sink column from the namesake that may have populated it, or
from the columns that clash. So what is covered is handed over, and never lost.

* `TablePair.get?_applied_of_subset`: what is applied stays applied
* `TablePair.emptyColumns_of_subset`: which columns no longer stay empty
* `Resolution.Extends`: what a resolution with more mappings says of one with fewer
* `Resolution.extends_of_subset`: it says so for all tables and mappings
-/

namespace SchemaCrosswalk

namespace TablePair

variable {p : TablePair} {explicit more : List ExplicitMapping}
variable {applied extended : Dictionary String} {source sink : String}

/-! ## What is applied -/

theorem mem_sourcesInto_of_subset (hsub : explicit ⊆ more)
    (h : source ∈ p.sourcesInto explicit sink) : source ∈ p.sourcesInto more sink := by
  rcases mem_sourcesInto.1 h with ⟨m, hm, hnames⟩
  exact mem_sourcesInto.2 ⟨m, hsub hm, hnames⟩

theorem get?_applied_of_subset (hsub : explicit ⊆ more)
    (h : p.explicitMappings explicit = .ok applied) (h' : p.explicitMappings more = .ok extended)
    (hget : applied.get? sink = some source) : extended.get? sink = some source :=
  (get?_applied_iff h').2 (mem_sourcesInto_of_subset hsub ((get?_applied_iff h).1 hget))

theorem contains_applied_of_subset (hsub : explicit ⊆ more)
    (h : p.explicitMappings explicit = .ok applied) (h' : p.explicitMappings more = .ok extended)
    (hcontains : applied.contains sink = true) : extended.contains sink = true := by
  rcases Option.isSome_iff_exists.1 hcontains with ⟨source, hsource⟩
  exact Option.isSome_iff_exists.2 ⟨source, get?_applied_of_subset hsub h h' hsource⟩

/-! ## Columns that stay empty -/

/-- Of the columns that stay empty those no longer do that have a mapping now. -/
theorem emptyColumns_of_subset (hsub : explicit ⊆ more)
    (h : p.explicitMappings explicit = .ok applied) (h' : p.explicitMappings more = .ok extended) :
    p.emptyColumns extended =
      (p.emptyColumns applied).filter fun k =>
        !(extended.contains k.name && !applied.contains k.name) := by
  unfold emptyColumns
  rw [List.filter_filter]
  refine List.filter_congr fun k _ => ?_
  cases happlied : applied.contains k.name with
  | true => simp [contains_applied_of_subset hsub h h' happlied]
  | false => simp [Bool.and_comm]

end TablePair

namespace Resolution

variable {p : TablePair} {explicit more : List ExplicitMapping} {r r' : Resolution}

/-- The sink columns that a resolution populates, by a mapping or by their namesakes. -/
def populated (r : Resolution) : List String := r.applied.keys ++ r.identityCovered.toList

/-- Whether a sink column has a mapping that it did not have before. -/
def newlyApplied (r r' : Resolution) (sink : String) : Bool :=
  r'.applied.contains sink && !r.applied.contains sink

/-- What a resolution with more mappings says of one with fewer. -/
structure Extends (r r' : Resolution) : Prop where
  applied : ∀ sink source, r.applied.get? sink = some source →
    r'.applied.get? sink = some source
  populated : ∀ sink ∈ r.populated, sink ∈ r'.populated
  unmapped : r'.unmapped = r.unmapped.filter fun sink => !newlyApplied r r' sink
  valid : r.valid = true → r'.valid = true

theorem populated_of_subset (hsub : explicit ⊆ more) {applied extended : Dictionary String}
    (h : p.explicitMappings explicit = .ok applied) (h' : p.explicitMappings more = .ok extended) :
    ∀ sink ∈ (ofApplied p applied).populated, sink ∈ (ofApplied p extended).populated := by
  intro sink hsink
  rcases List.mem_append.1 hsink with hmapped | hcovered
  · have hcontains := Dictionary.contains_iff_mem_keys.2 hmapped
    have hstays := TablePair.contains_applied_of_subset hsub h h' hcontains
    exact List.mem_append_left _ (Dictionary.contains_iff_mem_keys.1 hstays)
  · -- A covered column is handed over to the mapping that is added for it, if there is one.
    rcases TablePair.mem_covered.1 (mem_identityCovered.1 hcovered) with ⟨k, hk, rfl, -, hfits⟩
    by_cases hnow : k.name ∈ extended.keys
    · exact List.mem_append_left _ hnow
    · exact List.mem_append_right _ ((name_mem_identityCovered hk).2 ⟨hnow, hfits⟩)

theorem unmapped_of_subset (hsub : explicit ⊆ more) {applied extended : Dictionary String}
    (h : p.explicitMappings explicit = .ok applied) (h' : p.explicitMappings more = .ok extended) :
    (ofApplied p extended).unmapped = (ofApplied p applied).unmapped.filter fun sink =>
      !newlyApplied (ofApplied p applied) (ofApplied p extended) sink := by
  rw [unmapped_eq_map_emptyColumns, unmapped_eq_map_emptyColumns, List.filter_map,
    TablePair.emptyColumns_of_subset hsub h h']
  rfl

/-- More explicit mappings apply what fewer apply, populate what fewer populate, leave empty no
column but those that fewer leave empty, and keep a resolution valid. -/
theorem extends_of_subset (hsub : explicit ⊆ more) (h : resolve p explicit = .ok r)
    (h' : resolve p more = .ok r') : Extends r r' := by
  rcases resolve_eq_ok_iff.1 h with ⟨applied, happlied, rfl⟩
  rcases resolve_eq_ok_iff.1 h' with ⟨extended, hextended, rfl⟩
  have hunmapped := unmapped_of_subset hsub happlied hextended
  constructor
  · intro sink source hget
    exact TablePair.get?_applied_of_subset hsub happlied hextended hget
  · exact populated_of_subset hsub happlied hextended
  · exact hunmapped
  · intro hvalid
    have hnone := valid_iff_unmapped_eq_nil.1 hvalid
    exact valid_iff_unmapped_eq_nil.2 (by simp [hunmapped, hnone])

/-- The note of an order is filled by a mapping that is added. -/
theorem extends_of_subset_orderTables :
    ∃ r r', resolve orderTables [⟨"CODE", "EXT_CODE"⟩] = .ok r ∧
      resolve orderTables [⟨"Code", "note"⟩, ⟨"CODE", "EXT_CODE"⟩] = .ok r' ∧
        r.unmapped = ["note"] ∧ r'.unmapped = [] ∧ Extends r r' := by
  have h : resolve orderTables [⟨"CODE", "EXT_CODE"⟩] =
      .ok (ofApplied orderTables (Dictionary.ofList [("ext_code", "Code")])) :=
    resolve_of_toOption (by decide +kernel)
  have h' : resolve orderTables [⟨"Code", "note"⟩, ⟨"CODE", "EXT_CODE"⟩] =
      .ok (ofApplied orderTables (Dictionary.ofList [("ext_code", "Code"), ("note", "Code")])) :=
    resolve_of_toOption (by decide +kernel)
  exact ⟨_, _, h, h', by decide +kernel, by decide +kernel,
    extends_of_subset (List.subset_cons_self _ _) h h'⟩

end Resolution

end SchemaCrosswalk
