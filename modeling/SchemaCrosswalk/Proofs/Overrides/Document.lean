import Mathlib.Data.List.Perm.Basic
import SchemaCrosswalk.Overrides.Registry
import SchemaCrosswalk.Proofs.Dictionary
import SchemaCrosswalk.Proofs.Names

/-!
# Override documents — what changes do to the entries

A document may spell one table in several ways. What counts is that no column has two overrides
and that nothing is blank; then an entry that is added under any spelling keeps the document
without a flaw, and so does the removal of one.

* `OverrideEntry.concerns`: whether an entry is the override of a column, up to case
* `OverrideDocument.flaw?_eq_none_iff`: which documents have no flaw
* `OverrideDocument.insert_entries_perm`: setting an override that is new adds one entry
* `OverrideDocument.remove_entries_perm`: removing an override drops one entry
-/

namespace SchemaCrosswalk

open Text

/-! ## Single entries -/

namespace OverrideEntry

/-- Whether an entry is the override of a column, whose names match up to case. -/
def concerns (e : OverrideEntry) (table column : String) : Bool :=
  namesMatch e.table table && namesMatch e.column column

/-- The table and the column of an entry up to case. -/
def key (e : OverrideEntry) : String × String := OverrideDocument.foldedKey e.table e.column

/-- Whether a name or the type of an entry is blank. -/
def hasBlank (e : OverrideEntry) : Bool :=
  isBlankText e.table || isBlankText e.column || isBlankText e.type

variable {e : OverrideEntry} {table column : String}

theorem concerns_iff :
    e.concerns table column = true ↔ e.key = OverrideDocument.foldedKey table column := by
  unfold concerns key OverrideDocument.foldedKey
  rw [Bool.and_eq_true, namesMatch_iff, namesMatch_iff, Prod.mk.injEq]

theorem concerns_self (e : OverrideEntry) : e.concerns e.table e.column = true :=
  concerns_iff.2 rfl

/-- Where no column has two overrides, those of one column are the same one. -/
theorem eq_of_nodup_keys {entries : List OverrideEntry} {e' : OverrideEntry}
    (hdistinct : (entries.map (·.key)).Nodup) (hmem : e ∈ entries) (hmem' : e' ∈ entries)
    (hconcerns : e.concerns table column = true)
    (hconcerns' : e'.concerns table column = true) : e = e' := by
  have hkey : e.key = e'.key := (concerns_iff.1 hconcerns).trans (concerns_iff.1 hconcerns').symm
  exact List.inj_on_of_nodup_map hdistinct hmem hmem' hkey

end OverrideEntry

namespace OverrideDocument

deriving instance DecidableEq for OverrideDocument

variable {d : OverrideDocument} {e : OverrideEntry} {table column type : String}

/-! ## Entries and look-ups -/

theorem mem_entries_iff :
    e ∈ d.entries ↔ PairTable.get? d.overrides e.table e.column = some e.type := by
  rw [← PairTable.mem_toList_iff]
  unfold entries
  rw [List.mem_map]
  constructor
  · rintro ⟨⟨t, c, ty⟩, hmem, rfl⟩
    exact hmem
  · intro hmem
    exact ⟨_, hmem, rfl⟩

theorem nodup_entries (d : OverrideDocument) : d.entries.Nodup := by
  unfold entries
  refine (PairTable.nodup_toList d.overrides).map ?_
  rintro ⟨t, c, ty⟩ ⟨t', c', ty'⟩ h
  cases h
  rfl

/-- The overrides of a document are in order, so that documents with the same ones list them
alike. -/
theorem entries_eq_of_perm {d' : OverrideDocument} (h : d.entries.Perm d'.entries) :
    d.entries = d'.entries := by
  have hordered : ∀ d : OverrideDocument, d.entries.Pairwise fun e f =>
      PairTable.Before (e.table, e.column, e.type) (f.table, f.column, f.type) := fun d =>
    List.pairwise_map.2 d.overrides.pairwise_toList
  exact h.eq_of_pairwise (fun e f _ _ hbefore hafter => absurd hafter hbefore.asymm) (hordered d)
    (hordered d')

/-- Every column of a table in the document has an override. -/
theorem exists_mem_of_mem_keys {columns : Dictionary String} {key : String}
    (hcolumns : Dictionary.get? d.overrides table = some columns) (hkey : key ∈ columns.keys) :
    ∃ type, (⟨table, key, type⟩ : OverrideEntry) ∈ d.entries := by
  obtain ⟨type, htype⟩ := Option.isSome_iff_exists.1 (Dictionary.contains_iff_mem_keys.2 hkey)
  refine ⟨type, mem_entries_iff.2 ?_⟩
  rw [PairTable.get?, hcolumns]
  exact htype

/-! ## Flaws -/

theorem firstFlaw_eq_none_iff :
    ∀ {entries : List OverrideEntry} {seen : List ((String × String) × String)},
      firstFlaw seen entries = none ↔
        (∀ e ∈ entries, e.hasBlank = false) ∧ (entries.map (·.key)).Nodup ∧
          ∀ e ∈ entries, seen.lookup e.key = none
  | [], seen => by simp [firstFlaw]
  | e :: es, seen => by
      unfold firstFlaw
      split
      · next hblank =>
        have h : e.hasBlank = true := hblank
        simp [h]
      · next hblank =>
        have h : e.hasBlank = false := by
          simpa [OverrideEntry.hasBlank] using hblank
        rw [show foldedKey e.table e.column = e.key from rfl]
        cases hseen : seen.lookup e.key with
        | some previous =>
            refine iff_of_false (by simp) fun hall => ?_
            have hnone := hall.2.2 e List.mem_cons_self
            rw [hseen] at hnone
            cases hnone
        | none =>
            -- The key of the first entry is among those seen by the rest.
            have hrest : ∀ e' : OverrideEntry, List.lookup e'.key ((e.key, e.type) :: seen) = none ↔
                e'.key ≠ e.key ∧ seen.lookup e'.key = none := by
              intro e'
              rw [List.lookup_cons]
              by_cases heq : e'.key = e.key
              · simp [heq]
              · simp [heq, beq_eq_false_iff_ne.2 heq]
            simp only [firstFlaw_eq_none_iff, List.forall_mem_cons, List.map_cons,
              List.nodup_cons, List.mem_map, hrest, h, hseen, true_and, forall_and, not_exists,
              not_and]
            tauto

/-- A document has no flaw if its version is understood, nothing is blank and no column has two
overrides. -/
theorem flaw?_eq_none_iff :
    d.flaw? = none ↔
      d.version = currentVersion ∧ (∀ e ∈ d.entries, e.hasBlank = false) ∧
        (d.entries.map (·.key)).Nodup := by
  unfold flaw?
  by_cases hversion : d.version = currentVersion
  · simp [hversion, firstFlaw_eq_none_iff]
  · simp [hversion]

/-- What is read from a text has no flaw. -/
theorem flaw?_of_ofText {text origin : String} (h : ofText text origin = .ok d) :
    d.flaw? = none := by
  unfold ofText at h
  split at h
  · cases h
  · next found _ =>
    split at h
    · cases h
    · next hnone =>
      cases h
      exact hnone

/-! ## Setting an override -/

theorem namesMatch_of_matchingKey? {α : Type} {names : Dictionary α} {name key : String}
    (h : matchingKey? names name = some key) : namesMatch key name = true :=
  List.find?_some (p := fun key => namesMatch key name) h

theorem toLowercase_matchingKey? {α : Type} (names : Dictionary α) (name : String) :
    toLowercase ((matchingKey? names name).getD name) = toLowercase name := by
  cases h : matchingKey? names name with
  | none => rfl
  | some key => exact namesMatch_iff.1 (namesMatch_of_matchingKey? h)

/-- The spellings under which an override of a column is put. -/
def placeOf (d : OverrideDocument) (table column : String) : String × String :=
  let tableKey := (matchingKey? d.overrides table).getD table
  let columns := (Dictionary.get? d.overrides tableKey).getD Dictionary.empty
  (tableKey, (matchingKey? columns column).getD column)

theorem foldedKey_placeOf (d : OverrideDocument) (table column : String) :
    foldedKey (d.placeOf table column).1 (d.placeOf table column).2 = foldedKey table column :=
  Prod.ext (toLowercase_matchingKey? _ table) (toLowercase_matchingKey? _ column)

/-- Where there is no override of a column, it is put under the spelling that is asked for. -/
theorem placeOf_of_new (hnew : ∀ e ∈ d.entries, e.concerns table column = false) :
    d.placeOf table column = ((matchingKey? d.overrides table).getD table, column) := by
  have hcolumn : matchingKey? ((Dictionary.get? d.overrides
      ((matchingKey? d.overrides table).getD table)).getD Dictionary.empty) column = none := by
    refine List.find?_eq_none.2 fun key hkey hmatch => ?_
    cases hcolumns : Dictionary.get? d.overrides
        ((matchingKey? d.overrides table).getD table) with
    | none =>
        rw [hcolumns] at hkey
        exact absurd hkey List.not_mem_nil
    | some columns =>
        rw [hcolumns] at hkey
        obtain ⟨type, hmem⟩ := exists_mem_of_mem_keys hcolumns hkey
        -- A column that matches would be one of an override that there is not.
        have hconcerns := hnew _ hmem
        rw [OverrideEntry.concerns, namesMatch_iff.2 (toLowercase_matchingKey? _ _), hmatch]
          at hconcerns
        cases hconcerns
  unfold placeOf
  simp only [hcolumn, Option.getD_none]

/-- The entry that setting an override adds. -/
def added (d : OverrideDocument) (table column type : String) : OverrideEntry :=
  ⟨(d.placeOf table column).1, (d.placeOf table column).2, trim type⟩

theorem key_added : (d.added table column type).key = foldedKey table column :=
  d.foldedKey_placeOf table column

theorem insert_overrides (d : OverrideDocument) (table column type : String) :
    (d.insert table column type).overrides =
      PairTable.put d.overrides (d.placeOf table column).1 (d.placeOf table column).2 (trim type) :=
  rfl

/-- Setting an override where there is none adds one entry, under spellings that match. -/
theorem insert_entries_perm (type : String)
    (hnew : ∀ e ∈ d.entries, e.concerns table column = false) :
    (d.insert table column type).entries.Perm (d.added table column type :: d.entries) := by
  have hconcerns : (d.added table column type).concerns table column = true :=
    OverrideEntry.concerns_iff.2 key_added
  have hfresh : d.added table column type ∉ d.entries := by
    intro hmem
    rw [hnew _ hmem] at hconcerns
    cases hconcerns
  -- No entry is there twice on either side, so only membership has to be compared.
  rw [List.perm_ext_iff_of_nodup (nodup_entries _) (List.nodup_cons.2 ⟨hfresh, d.nodup_entries⟩)]
  intro e
  rw [mem_entries_iff, insert_overrides, PairTable.get?_put, List.mem_cons]
  by_cases hplace : e.table = (d.placeOf table column).1 ∧ e.column = (d.placeOf table column).2
  · rw [if_pos hplace]
    constructor
    · intro htype
      left
      obtain ⟨t, c, ty⟩ := e
      obtain ⟨rfl, rfl⟩ := hplace
      cases htype
      rfl
    · rintro (rfl | hmem)
      · rfl
      · -- An entry at that place would be an override of the column.
        have hsame : e.concerns table column = true := by
          rw [OverrideEntry.concerns_iff, OverrideEntry.key, hplace.1, hplace.2, foldedKey_placeOf]
        rw [hnew e hmem] at hsame
        cases hsame
  · rw [if_neg hplace, ← mem_entries_iff]
    constructor
    · exact Or.inr
    · rintro (rfl | hmem)
      · exact absurd ⟨rfl, rfl⟩ hplace
      · exact hmem

theorem hasBlank_added :
    (d.added table column type).hasBlank = (⟨table, column, type⟩ : OverrideEntry).hasBlank := by
  have hnames := Prod.mk.inj (d.foldedKey_placeOf table column)
  unfold OverrideEntry.hasBlank added
  rw [isBlankText_congr hnames.1, isBlankText_congr hnames.2, isBlankText_trim]

/-- A new override leaves every column with one override at most. -/
theorem nodup_keys_insert_of_new (hdistinct : (d.entries.map (·.key)).Nodup)
    (hnew : ∀ e ∈ d.entries, e.concerns table column = false) (type : String) :
    ((d.insert table column type).entries.map (·.key)).Nodup := by
  have hfresh : (d.added table column type).key ∉ d.entries.map (·.key) := by
    intro hmem
    rcases List.mem_map.1 hmem with ⟨e, he, hkey⟩
    have hconcerns : e.concerns table column = true := by
      rw [OverrideEntry.concerns_iff, hkey, key_added]
    rw [hnew e he] at hconcerns
    cases hconcerns
  rw [((insert_entries_perm type hnew).map _).nodup_iff]
  exact List.nodup_cons.2 ⟨hfresh, hdistinct⟩

/-- A new override with names and a type that are not blank leaves a document without a flaw. -/
theorem flaw?_insert (hd : d.flaw? = none)
    (hnew : ∀ e ∈ d.entries, e.concerns table column = false)
    (hfull : (⟨table, column, type⟩ : OverrideEntry).hasBlank = false) :
    (d.insert table column type).flaw? = none := by
  obtain ⟨hversion, hfilled, hdistinct⟩ := flaw?_eq_none_iff.1 hd
  refine flaw?_eq_none_iff.2 ⟨hversion, ?_, nodup_keys_insert_of_new hdistinct hnew type⟩
  intro e hmem
  rcases List.mem_cons.1 ((insert_entries_perm type hnew).subset hmem) with rfl | hmem
  · rw [hasBlank_added, hfull]
  · exact hfilled e hmem

/-! ## Removing an override -/

/-- Dropping a column, and its table if that was the last one, drops one pair. -/
theorem get?_erase_pair {t : PairTable String} {columns : Dictionary String} {first : String}
    (hfirst : Dictionary.get? t first = some columns) (second other another : String) :
    PairTable.get?
        (if (columns.erase second).isEmpty then Dictionary.erase t first
          else Dictionary.insert t first (columns.erase second)) other another =
      if other = first ∧ another = second then none else t.get? other another := by
  unfold PairTable.get?
  by_cases hother : other = first
  · subst hother
    -- Dropping the whole table is the same as keeping one without columns.
    have hrest : (columns.erase second).get? another =
        if other = other ∧ another = second then none else columns.get? another := by
      rw [Dictionary.get?_erase]
      simp
    rw [hfirst, Option.bind_some, ← hrest]
    cases hempty : (columns.erase second).isEmpty with
    | false => simp [Dictionary.get?_insert]
    | true =>
        have hnone : (columns.erase second).get? another = none := by
          have hentries : (columns.erase second).entries = [] := List.isEmpty_iff.1 hempty
          simp [Dictionary.get?, hentries, Dictionary.find]
        simp [Dictionary.get?_erase, hnone]
  · cases (columns.erase second).isEmpty <;>
      simp [hother, Dictionary.get?_erase, Dictionary.get?_insert]

/-- Removing an override drops one entry that is an override of the column. -/
theorem remove_entries_perm {d' : OverrideDocument} (h : d.remove table column = some (type, d')) :
    d'.version = d.version ∧ ∃ e, e.concerns table column = true ∧ e.type = type ∧
      d.entries.Perm (e :: d'.entries) := by
  unfold remove at h
  simp only [Option.bind_eq_bind, Option.bind_eq_some_iff, Option.some.injEq, Prod.mk.injEq] at h
  obtain ⟨tableKey, htable, columns, hcolumns, columnKey, hcolumn, ty, htype, rfl, rfl⟩ := h
  have hmatch : (⟨tableKey, columnKey, ty⟩ : OverrideEntry).concerns table column = true := by
    unfold OverrideEntry.concerns
    rw [namesMatch_of_matchingKey? htable, namesMatch_of_matchingKey? hcolumn, Bool.and_self]
  refine ⟨rfl, ⟨tableKey, columnKey, ty⟩, hmatch, rfl, ?_⟩
  have hget : PairTable.get? d.overrides tableKey columnKey = some ty := by
    rw [PairTable.get?, hcolumns, Option.bind_some, htype]
  have hgone := get?_erase_pair hcolumns columnKey
  rw [List.perm_ext_iff_of_nodup d.nodup_entries (List.nodup_cons.2 ⟨?_, nodup_entries _⟩)]
  · intro e
    rw [List.mem_cons, mem_entries_iff, mem_entries_iff, hgone]
    by_cases hplace : e.table = tableKey ∧ e.column = columnKey
    · obtain ⟨t, c, ty'⟩ := e
      obtain ⟨rfl, rfl⟩ := hplace
      simp [hget, eq_comm]
    · have hne : e ≠ ⟨tableKey, columnKey, ty⟩ := by
        rintro rfl
        exact hplace ⟨rfl, rfl⟩
      simp [hplace, hne]
  · rw [mem_entries_iff, hgone]
    simp

/-- What is left after a removal has no flaw either. -/
theorem flaw?_remove {d' : OverrideDocument} (hd : d.flaw? = none)
    (h : d.remove table column = some (type, d')) : d'.flaw? = none := by
  obtain ⟨hversion, e, -, -, hperm⟩ := remove_entries_perm h
  obtain ⟨hcurrent, hfilled, hdistinct⟩ := flaw?_eq_none_iff.1 hd
  rw [(hperm.map _).nodup_iff, List.map_cons, List.nodup_cons] at hdistinct
  exact flaw?_eq_none_iff.2 ⟨hversion.trans hcurrent,
    fun e' hmem => hfilled e' (hperm.symm.subset (List.mem_cons_of_mem _ hmem)), hdistinct.2⟩

end OverrideDocument

end SchemaCrosswalk
