import SchemaCrosswalk.Proofs.Overrides.Document

/-!
# Override registries — what the index finds

The index of a registry holds, for a column in any spelling, the last override of it among the
entries; in a document without a flaw there is at most one.

* `OverrideRegistry.get?_eq`: the index as a search of the entries
* `OverrideRegistry.get?_eq_some_iff`, `OverrideRegistry.size_eq`: where no column has two
  overrides, the index has all of them
-/

namespace SchemaCrosswalk

open Text

/-- The last override of a column among some entries. -/
def OverrideEntry.lastOf (entries : List OverrideEntry) (table column : String) :
    Option OverrideEntry :=
  (entries.filter (·.concerns table column)).getLast?

theorem OverrideEntry.lastAt_key (entries : List OverrideEntry) (table column : String) :
    PairTable.lastAt OverrideEntry.key entries (toLowercase table) (toLowercase column) =
      lastOf entries table column := by
  have hconcerns : ∀ e : OverrideEntry,
      (e.key == (toLowercase table, toLowercase column)) = e.concerns table column := by
    intro e
    rw [Bool.eq_iff_iff, beq_iff_eq, concerns_iff]
    rfl
  unfold PairTable.lastAt lastOf
  simp only [hconcerns]

namespace OverrideRegistry

variable {r : OverrideRegistry} {e : OverrideEntry} {table column : String}

theorem index_eq_putAll (r : OverrideRegistry) :
    r.index = PairTable.putAll OverrideEntry.key OverrideEntry.type r.entries PairTable.empty :=
  r.index_eq

theorem get?_eq (r : OverrideRegistry) (table column : String) :
    r.get? table column = (OverrideEntry.lastOf r.entries table column).map (·.type) := by
  unfold get?
  rw [index_eq_putAll, PairTable.get?_putAll, OverrideEntry.lastAt_key, PairTable.get?_empty,
    Option.or_none]

theorem get?_eq_none_iff :
    r.get? table column = none ↔ ∀ e ∈ r.entries, e.concerns table column = false := by
  rw [get?_eq, OverrideEntry.lastOf, Option.map_eq_none_iff, List.getLast?_eq_none_iff,
    List.filter_eq_nil_iff]
  simp only [Bool.not_eq_true]

/-- What is found is the type of an override of the column. -/
theorem exists_mem_of_get? {type : String} (h : r.get? table column = some type) :
    ∃ e ∈ r.entries, e.concerns table column = true ∧ e.type = type := by
  rw [get?_eq, OverrideEntry.lastOf] at h
  obtain ⟨e, hlast, htype⟩ := Option.map_eq_some_iff.1 h
  obtain ⟨hmem, hconcerns⟩ := List.mem_filter.1 (List.mem_of_getLast? hlast)
  exact ⟨e, hmem, hconcerns, htype⟩

/-- Two columns that match have the same override. -/
theorem get?_congr {table' column' : String}
    (h : OverrideDocument.foldedKey table column = OverrideDocument.foldedKey table' column') :
    r.get? table column = r.get? table' column' := by
  have hnames := Prod.mk.inj h
  unfold get?
  rw [hnames.1, hnames.2]

/-- Where no column has two overrides, any override of a column is the one that is found. -/
theorem get?_eq_some_iff (hdistinct : (r.entries.map (·.key)).Nodup) {type : String} :
    r.get? table column = some type ↔
      ∃ e ∈ r.entries, e.concerns table column = true ∧ e.type = type := by
  constructor
  · exact exists_mem_of_get?
  · rintro ⟨e, hmem, hconcerns, rfl⟩
    cases hget : r.get? table column with
    | none =>
        have hnot := get?_eq_none_iff.1 hget e hmem
        rw [hconcerns] at hnot
        cases hnot
    | some type =>
        rcases exists_mem_of_get? hget with ⟨found, hfound, hfoundConcerns, rfl⟩
        rw [OverrideEntry.eq_of_nodup_keys hdistinct hfound hmem hfoundConcerns hconcerns]

/-- In a document without a flaw an entry is the override of its column. -/
theorem get?_of_mem (hvalid : r.document.flaw? = none) (hmem : e ∈ r.entries) :
    r.get? e.table e.column = some e.type := by
  obtain ⟨-, -, hdistinct⟩ := OverrideDocument.flaw?_eq_none_iff.1 hvalid
  exact (get?_eq_some_iff hdistinct).2 ⟨e, hmem, e.concerns_self, rfl⟩

/-- Where no column has two overrides, the index has as many entries as the document. -/
theorem size_eq (hdistinct : (r.entries.map (·.key)).Nodup) : r.size = r.entries.length := by
  unfold size
  rw [index_eq_putAll]
  exact PairTable.size_putAll_eq_length_iff.2 hdistinct

end OverrideRegistry

end SchemaCrosswalk
