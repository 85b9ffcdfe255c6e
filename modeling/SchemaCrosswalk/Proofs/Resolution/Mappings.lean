import SchemaCrosswalk.Proofs.Dictionary
import SchemaCrosswalk.Proofs.Distinct
import SchemaCrosswalk.Resolution

/-!
# Mappings — what accepted explicit mappings apply

A list of explicit mappings is accepted if each of them names two columns that fit, and no sink
column gets more than one source column.

* `ColumnSet.get?_self`, `ColumnSet.eq_of_name_eq`: a column is known by its name
* `TablePair.mentionedInto`: the source columns that mappings send to a sink column, each once
* `TablePair.explicitMappings_eq_ok_iff`: which lists are accepted, and what is applied then
* `TablePair.get?_applied_iff`: the applied pairs are those that some mapping of the list names
-/

namespace SchemaCrosswalk

/-! ## Columns by name -/

namespace ColumnSet

variable {s : ColumnSet} {c c' : Column} {name : String}

theorem nodup_names (s : ColumnSet) : s.names.Nodup := s.distinct

theorem mem_names (h : c ∈ s.columns) : c.name ∈ s.names := List.mem_map_of_mem h

theorem mem_of_get? (h : s.get? name = some c) : c ∈ s.columns := by
  rcases Option.or_eq_some_iff.1 h with hexact | ⟨_, hfolded⟩
  · exact List.mem_of_find?_eq_some hexact
  · exact List.mem_of_find?_eq_some hfolded

theorem eq_of_name_eq (hc : c ∈ s.columns) (hc' : c' ∈ s.columns) (h : c.name = c'.name) :
    c = c' :=
  List.inj_on_of_nodup_map s.distinct hc hc' h

/-- Looking for the name of a column finds that column, whatever other spellings there are. -/
theorem get?_self (h : c ∈ s.columns) : s.get? c.name = some c := by
  -- The exact match is looked for first, and names are distinct.
  have hexact : s.columns.find? (·.name == c.name) = some c := by
    cases hfind : s.columns.find? (·.name == c.name) with
    | none =>
        have hno := List.find?_eq_none.1 hfind c h
        simp at hno
    | some found =>
        have hname : found.name = c.name := by
          simpa using List.find?_some hfind
        rw [eq_of_name_eq (List.mem_of_find?_eq_some hfind) h hname]
  rw [get?, hexact, Option.some_or]

end ColumnSet

namespace TablePair

variable {p : TablePair} {explicit : List ExplicitMapping} {applied : Dictionary String}

/-! ## Source columns by sink column -/

/-- The source columns that pairs of columns send to a sink column, in the order of the pairs. -/
def sourcesOf (pairs : List (Column × Column)) (sink : String) : List String :=
  (pairs.filter fun c => c.2.name == sink).map fun c => c.1.name

theorem sourcesOf_cons_self (c : Column × Column) (pairs : List (Column × Column)) :
    sourcesOf (c :: pairs) c.2.name = c.1.name :: sourcesOf pairs c.2.name := by
  simp [sourcesOf]

theorem sourcesOf_cons_of_ne {c : Column × Column} {sink : String} (h : c.2.name ≠ sink)
    (pairs : List (Column × Column)) : sourcesOf (c :: pairs) sink = sourcesOf pairs sink := by
  simp [sourcesOf, h]

/-- Collecting pairs adds the source columns of every sink column to those known before. -/
theorem get?_foldl_collect (sink : String) :
    ∀ (pairs : List (Column × Column)) (d : Dictionary (List String)),
      (pairs.foldl
          (fun d c => d.insert c.2.name (addOnce ((d.get? c.2.name).getD []) c.1.name)) d).get?
            sink =
        if sourcesOf pairs sink = [] then d.get? sink
        else some ((sourcesOf pairs sink).foldl addOnce ((d.get? sink).getD []))
  | [], d => by simp [sourcesOf]
  | c :: pairs, d => by
      -- The rest is collected into the dictionary that has the first pair already.
      rw [List.foldl_cons, get?_foldl_collect sink pairs, Dictionary.get?_insert]
      by_cases hsink : c.2.name = sink
      · subst hsink
        rw [sourcesOf_cons_self]
        cases sourcesOf pairs c.2.name <;> simp
      · simp [sourcesOf_cons_of_ne hsink, Ne.symm hsink]

/-- The source columns that explicit mappings send to a sink column, in the order of the list. -/
def sourcesInto (p : TablePair) (explicit : List ExplicitMapping) (sink : String) : List String :=
  sourcesOf (explicit.filterMap p.columnsOf) sink

theorem mem_sourcesInto {source sink : String} :
    source ∈ p.sourcesInto explicit sink ↔
      ∃ m ∈ explicit, ∃ s k, p.columnsOf m = some (s, k) ∧ s.name = source ∧ k.name = sink := by
  unfold sourcesInto sourcesOf
  simp only [List.mem_map, List.mem_filter, List.mem_filterMap, beq_iff_eq]
  constructor
  · rintro ⟨⟨s, k⟩, ⟨⟨m, hm, hcols⟩, hk⟩, hs⟩
    exact ⟨m, hm, s, k, hcols, hs, hk⟩
  · rintro ⟨m, hm, s, k, hcols, hs, hk⟩
    exact ⟨(s, k), ⟨⟨m, hm, hcols⟩, hk⟩, hs⟩

/-- The source columns that explicit mappings send to a sink column, each where it is mentioned
first. -/
def mentionedInto (p : TablePair) (explicit : List ExplicitMapping) (sink : String) :
    List String :=
  (p.sourcesInto explicit sink).eraseDups

theorem mem_mentionedInto {source sink : String} :
    source ∈ p.mentionedInto explicit sink ↔ source ∈ p.sourcesInto explicit sink :=
  List.mem_eraseDups

theorem get?_sourcesBySink (p : TablePair) (explicit : List ExplicitMapping) (sink : String) :
    (p.sourcesBySink explicit).get? sink =
      if p.sourcesInto explicit sink = [] then none else some (p.mentionedInto explicit sink) := by
  have hcollected : (p.sourcesInto explicit sink).foldl addOnce [] =
      p.mentionedInto explicit sink :=
    foldl_addOnce_eraseDups _ []
  rw [sourcesBySink, get?_foldl_collect, ← hcollected]
  rfl

theorem eq_mentionedInto {sink : String} {sources : List String}
    (h : (p.sourcesBySink explicit).get? sink = some sources) :
    sources = p.mentionedInto explicit sink := by
  rw [get?_sourcesBySink] at h
  split at h
  · cases h
  · exact (Option.some_inj.1 h).symm

/-! ## Accepted lists -/

theorem columnsOf_eq_some_iff {m : ExplicitMapping} {s k : Column} :
    p.columnsOf m = some (s, k) ↔
      p.source.get? m.sourceColumn = some s ∧ p.sink.get? m.sinkColumn = some k := by
  unfold columnsOf
  cases p.source.get? m.sourceColumn <;> cases p.sink.get? m.sinkColumn <;> simp

theorem violationsOf_eq_nil_iff {m : ExplicitMapping} :
    p.violationsOf m = [] ↔
      ∃ s k, p.columnsOf m = some (s, k) ∧ p.canPopulate s k = true := by
  unfold violationsOf columnsOf
  cases p.source.get? m.sourceColumn <;> cases p.sink.get? m.sinkColumn <;> simp

theorem duplicates_eq_nil_iff {bySink : Dictionary (List String)} :
    duplicates bySink = [] ↔
      ∀ sink sources, bySink.get? sink = some sources → sources.length ≤ 1 := by
  unfold duplicates
  rw [List.map_eq_nil_iff, List.filter_eq_nil_iff]
  constructor
  · intro h sink sources hget
    simpa using h (sink, sources) (Dictionary.get?_eq_some_iff.1 hget)
  · rintro h ⟨sink, sources⟩ hmem
    simpa using h sink sources (Dictionary.get?_eq_some_iff.2 hmem)

/-- Mappings are accepted if each of them names two columns that fit and no sink column has two
source columns. -/
theorem explicitMappings_eq_ok_iff :
    p.explicitMappings explicit = .ok applied ↔
      (∀ m ∈ explicit, ∃ s k, p.columnsOf m = some (s, k) ∧ p.canPopulate s k = true) ∧
        (∀ sink sources, (p.sourcesBySink explicit).get? sink = some sources →
          sources.length ≤ 1) ∧
        applied = (p.sourcesBySink explicit).map fun _ sources => sources.getLastD "" := by
  rw [← duplicates_eq_nil_iff]
  have hviolations :
      explicit.flatMap p.violationsOf = [] ↔
        ∀ m ∈ explicit, ∃ s k, p.columnsOf m = some (s, k) ∧ p.canPopulate s k = true := by
    rw [List.flatMap_eq_nil_iff]
    exact forall₂_congr fun m _ => violationsOf_eq_nil_iff
  rw [← hviolations, ← and_assoc, ← List.append_eq_nil_iff]
  -- Both conditions together say that the list of all violations is empty.
  unfold explicitMappings
  cases hfound : explicit.flatMap p.violationsOf ++ duplicates (p.sourcesBySink explicit) with
  | nil => simp [hfound, eq_comm]
  | cons violation rest => simp [hfound]

/-- The applied pairs are those that the mappings of the list name. -/
theorem get?_applied_iff (h : p.explicitMappings explicit = .ok applied) {source sink : String} :
    applied.get? sink = some source ↔ source ∈ p.sourcesInto explicit sink := by
  obtain ⟨-, hsingle, rfl⟩ := explicitMappings_eq_ok_iff.1 h
  rw [Dictionary.get?_map, get?_sourcesBySink]
  have hsingle' := hsingle sink
  rw [get?_sourcesBySink] at hsingle'
  split at hsingle'
  · next hnone => simp [hnone]
  · next hsome =>
    rw [if_neg hsome]
    have hlength := hsingle' _ rfl
    rw [← mem_mentionedInto]
    -- The collected list has the same members, hence exactly one.
    cases hcollected : p.mentionedInto explicit sink with
    | nil =>
        obtain ⟨name, hname⟩ := List.exists_mem_of_ne_nil _ hsome
        have hin := mem_mentionedInto.2 hname
        rw [hcollected] at hin
        cases hin
    | cons name names =>
        rw [hcollected] at hlength
        have hnames : names = [] := by
          simpa using hlength
        subst hnames
        simp [eq_comm]

theorem contains_applied_iff (h : p.explicitMappings explicit = .ok applied) {sink : String} :
    applied.contains sink = true ↔ ∃ source, source ∈ p.sourcesInto explicit sink := by
  unfold Dictionary.contains
  rw [Option.isSome_iff_exists]
  exact exists_congr fun source => get?_applied_iff h

end TablePair

end SchemaCrosswalk
