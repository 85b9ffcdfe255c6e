import SchemaCrosswalk.Proofs.Overrides.Lookup
import SchemaCrosswalk.Proofs.Overrides.Registry

/-!
# Editing — documents that come about by setting and removing overrides

Setting an override goes to the first spelling of its table that is there, so a document that is
made by setting and removing overrides alone spells every table in one way. In such a document every
override stands under the first spelling of its table, and no column gets a second override. A
document that is read from a text may spell a table in several ways, but it is refused if a column
has two overrides. Either way the index of a registry, in which later overrides replace earlier
ones, has the same overrides as a search of the document, which finds the first one.

* `OverrideDocument.Edited`: the documents that are made by setting and removing overrides
* `OverrideDocument.SpelledOnce`: every table has one spelling and every column one override at most
* `OverrideDocument.Edited.spelledOnce`: what editing preserves
* `OverrideRegistry.Mirrors`: a registry finds and counts what its document has
* `OverrideRegistry.mirrors_document`: registries of accepted and of edited documents do
-/

namespace SchemaCrosswalk

open Text

namespace OverrideDocument

variable {d d' : OverrideDocument} {table column type : String}

/-! ## Setting and removing -/

/-- A document that is made from the empty one by setting and removing overrides. Where there is
nothing to be removed, a document stays as it is. -/
inductive Edited : OverrideDocument → Prop
  | empty : Edited OverrideDocument.empty
  | insert {d : OverrideDocument} (table column type : String) (h : Edited d) :
      Edited (d.insert table column type)
  | remove {d d' : OverrideDocument} {table column type : String} (h : Edited d)
      (hremove : d.remove table column = some (type, d')) : Edited d'

/-- Every table is spelled in one way, and no column has two overrides. -/
structure SpelledOnce (d : OverrideDocument) : Prop where
  tables : ∀ key ∈ Dictionary.keys d.overrides, ∀ other ∈ Dictionary.keys d.overrides,
    toLowercase key = toLowercase other → key = other
  columns : (d.entries.map (·.key)).Nodup

theorem spelledOnce_empty : SpelledOnce OverrideDocument.empty where
  tables := fun _ hkey => absurd hkey List.not_mem_nil
  columns := List.nodup_nil

/-- Whatever is an override of a column stands under the one spelling of its table. -/
theorem SpelledOnce.standsFirst (h : d.SpelledOnce) (table column : String) :
    d.StandsFirst table column := by
  intro e hmem hconcerns
  obtain ⟨columns, hcolumns, -⟩ := exists_columns_of_mem hmem
  have hkey : e.table ∈ Dictionary.keys d.overrides :=
    Dictionary.contains_iff_mem_keys.1 (by simp [Dictionary.contains, hcolumns])
  have hmatch : namesMatch e.table table = true := (Bool.and_eq_true_iff.1 hconcerns).1
  refine matchingKey?_eq_some_iff.2 ⟨hkey, hmatch, ?_⟩
  intro other hother hotherMatch
  have hsame : toLowercase e.table = toLowercase other :=
    (namesMatch_iff.1 hmatch).trans (namesMatch_iff.1 hotherMatch).symm
  exact (h.tables e.table hkey other hother hsame) ▸ String.le_refl _

/-- A table gets a new spelling only if there was none. -/
theorem SpelledOnce.eq_placeOf (h : d.SpelledOnce) {other : String}
    (hother : other ∈ Dictionary.keys d.overrides)
    (hsame : toLowercase other = toLowercase (d.placeOf table column).1) :
    other = (d.placeOf table column).1 := by
  have hmatch : toLowercase other = toLowercase table :=
    hsame.trans (toLowercase_matchingKey? d.overrides table)
  cases hfound : matchingKey? d.overrides table with
  | none =>
      have hnot := List.find?_eq_none.1 hfound other hother
      exact absurd (namesMatch_iff.2 hmatch) hnot
  | some key =>
      have hplace : (d.placeOf table column).1 = key := by simp [placeOf, hfound]
      have hkey : key ∈ Dictionary.keys d.overrides := (matchingKey?_eq_some_iff.1 hfound).1
      exact h.tables other hother _ (hplace ▸ hkey) hsame

theorem SpelledOnce.insert (h : d.SpelledOnce) (table column type : String) :
    (d.insert table column type).SpelledOnce where
  tables := by
    intro key hkey other hother hsame
    rcases mem_keys_insert.1 hkey with rfl | hkey
    · rcases mem_keys_insert.1 hother with rfl | hother
      · rfl
      · exact (h.eq_placeOf hother hsame.symm).symm
    · rcases mem_keys_insert.1 hother with rfl | hother
      · exact h.eq_placeOf hkey hsame
      · exact h.tables key hkey other hother hsame
  columns := nodup_keys_insert h.columns (h.standsFirst table column) type

/-- Removing an override adds no spelling of a table. -/
theorem mem_keys_of_remove (hremove : d.remove table column = some (type, d')) {key : String}
    (hkey : key ∈ Dictionary.keys d'.overrides) : key ∈ Dictionary.keys d.overrides := by
  unfold remove at hremove
  simp only [Option.bind_eq_bind, Option.bind_eq_some_iff, Option.some.injEq, Prod.mk.injEq]
    at hremove
  obtain ⟨tableKey, htable, columns, hcolumns, columnKey, -, -, -, -, rfl⟩ := hremove
  rw [← Dictionary.contains_iff_mem_keys] at hkey ⊢
  -- The table itself was there before, and all others are as they were.
  have hold : d.overrides.contains tableKey = true := by simp [Dictionary.contains, hcolumns]
  split at hkey
  · simp only [Dictionary.contains, Dictionary.get?_erase] at hkey ⊢
    split at hkey
    · cases hkey
    · exact hkey
  · rcases (Dictionary.contains_insert _ _ _ _).1 hkey with rfl | hkey
    · exact hold
    · exact hkey

theorem SpelledOnce.of_remove (h : d.SpelledOnce)
    (hremove : d.remove table column = some (type, d')) : d'.SpelledOnce where
  tables := fun key hkey other hother =>
    h.tables key (mem_keys_of_remove hremove hkey) other (mem_keys_of_remove hremove hother)
  columns := by
    obtain ⟨-, e, -, -, hperm⟩ := remove_entries_perm hremove
    have hkeys : (e.key :: d'.entries.map (·.key)).Nodup :=
      (hperm.map OverrideEntry.key).nodup_iff.1 h.columns
    exact (List.nodup_cons.1 hkeys).2

/-- However a document is edited, it spells every table in one way and has at most one override of a
column. -/
theorem Edited.spelledOnce (h : d.Edited) : d.SpelledOnce := by
  induction h with
  | empty => exact spelledOnce_empty
  | insert table column type _ ih => exact ih.insert table column type
  | remove _ hremove ih => exact ih.of_remove hremove

end OverrideDocument

namespace OverrideRegistry

/-- A registry finds what a search of its document finds, namely the overrides of a column up to
case, and it has as many of them. -/
structure Mirrors (r : OverrideRegistry) : Prop where
  get?_eq : ∀ table column, r.get? table column = r.document.get? table column
  get?_eq_some_iff : ∀ table column type, r.document.get? table column = some type ↔
    ∃ e ∈ r.document.entries, namesMatch e.table table = true ∧
      namesMatch e.column column = true ∧ e.type = type
  size_eq : r.size = r.document.size

/-- The index of a document in which no column has two overrides mirrors it. -/
theorem mirrors_of_nodup_keys {r : OverrideRegistry}
    (hdistinct : (r.document.entries.map (·.key)).Nodup) : r.Mirrors where
  get?_eq := by
    intro table column
    apply Option.ext
    intro type
    calc r.get? table column = some type
        ↔ ∃ e ∈ r.document.entries, e.concerns table column = true ∧ e.type = type :=
          get?_eq_some_iff hdistinct
      _ ↔ r.document.get? table column = some type :=
          (OverrideEntry.typeIn_eq_some_iff hdistinct).symm
  get?_eq_some_iff := by
    intro table column type
    have hfound : r.document.get? table column = some type ↔
        ∃ e ∈ r.document.entries, e.concerns table column = true ∧ e.type = type :=
      OverrideEntry.typeIn_eq_some_iff hdistinct
    simpa [OverrideEntry.concerns, and_assoc] using hfound
  size_eq := (size_eq hdistinct).trans r.document.size_eq_length_entries.symm

/-- The registry of a document that was accepted, or that was made by setting and removing
overrides, mirrors it. -/
theorem mirrors_document (group engine : String) {d : OverrideDocument}
    (h : (∃ text origin, OverrideDocument.ofText text origin = .ok d) ∨ d.Edited) :
    (ofDocument group engine d).Mirrors := by
  apply mirrors_of_nodup_keys
  rcases h with ⟨text, origin, hread⟩ | hedited
  · exact OverrideDocument.nodup_keys_of_flaw? (OverrideDocument.flaw?_of_ofText hread)
  · exact hedited.spelledOnce.columns

/-- What is left of the overrides of two columns once one of them has been set again in another
spelling and the other one has been removed. -/
def editedOrders : OverrideDocument where
  overrides := Dictionary.ofList [("dbo.Orders", Dictionary.ofList [("Amount", "bigint")])]

/-- The registry of a document with two spellings of a table, and the one of an edited document. -/
theorem mirrors_document_orders :
    (ofDocument "erp" "mssql" OverrideDocument.twoSpellings).Mirrors ∧
      (ofDocument "erp" "mssql" OverrideDocument.twoSpellings).get? "dbo.orders" "AMOUNT" =
        some "int" ∧
      editedOrders.Edited ∧ (ofDocument "erp" "mssql" editedOrders).Mirrors ∧
      (ofDocument "erp" "mssql" editedOrders).get? "Dbo.Orders" "amount" = some "bigint" := by
  have hread : OverrideDocument.ofText
      "overrides:\n  DBO.ORDERS:\n    Code: int\n  dbo.Orders:\n    Amount: int\n" "erp.yaml" =
        .ok OverrideDocument.twoSpellings := by
    apply eq_ok_of_toOption
    decide +kernel
  have hremove : (((OverrideDocument.empty.insert "dbo.Orders" "Amount" "int").insert
      "dbo.Orders" "Code" "char(3)").insert "DBO.ORDERS" "AMOUNT" " bigint").remove
        "Dbo.Orders" "code" = some ("char(3)", editedOrders) := by
    decide +kernel
  have hedited : editedOrders.Edited :=
    .remove (.insert _ _ _ (.insert _ _ _ (.insert _ _ _ .empty))) hremove
  exact ⟨mirrors_document "erp" "mssql" (Or.inl ⟨_, _, hread⟩), by decide +kernel, hedited,
    mirrors_document "erp" "mssql" (Or.inr hedited), by decide +kernel⟩

end OverrideRegistry

end SchemaCrosswalk
