import SchemaCrosswalk.Proofs.Overrides.Document

/-!
# Override look-ups — documents as finite maps from columns

A document without a flaw has at most one override for a column, whatever its spelling, so it is a
finite map from columns up to case. Setting an override updates this map and removing one takes it
out as long as the override stands under the first spelling of its table. Under a later spelling it
is still found, but it is neither replaced nor removed.

* `OverrideDocument.ActsAsMap`: what setting and removing should do to look-ups
* `OverrideDocument.StandsFirst`: the override of a column is under the first spelling of its table
* `OverrideDocument.actsAsMap_iff_standsFirst`: the former holds exactly if the latter does
* `OverrideDocument.remove_insert_of_new`: removing what was set brings back the overrides
-/

namespace SchemaCrosswalk

open Text

/-! ## Searching entries -/

namespace OverrideEntry

/-- The type of the first override of a column among some entries. -/
def typeIn (entries : List OverrideEntry) (table column : String) : Option String :=
  (entries.find? (·.concerns table column)).map (·.type)

variable {e : OverrideEntry} {entries rest : List OverrideEntry}
variable {table column other another type : String}

theorem typeIn_cons (e : OverrideEntry) (rest : List OverrideEntry) (table column : String) :
    typeIn (e :: rest) table column =
      if e.concerns table column then some e.type else typeIn rest table column := by
  unfold typeIn
  rw [List.find?_cons]
  cases e.concerns table column <;> rfl

theorem typeIn_eq_none_iff :
    typeIn entries table column = none ↔ ∀ e ∈ entries, e.concerns table column = false := by
  unfold typeIn
  rw [Option.map_eq_none_iff, List.find?_eq_none]
  simp only [Bool.not_eq_true]

/-- Where no column has two overrides, any override of a column is the one that is found. -/
theorem typeIn_eq_some_iff (hdistinct : (entries.map (·.key)).Nodup) :
    typeIn entries table column = some type ↔
      ∃ e ∈ entries, e.concerns table column = true ∧ e.type = type := by
  unfold typeIn
  rw [Option.map_eq_some_iff]
  constructor
  · rintro ⟨e, hfound, htype⟩
    have hmem : e ∈ entries := List.mem_of_find?_eq_some hfound
    have hconcerns : e.concerns table column = true :=
      List.find?_some (p := fun e : OverrideEntry => e.concerns table column) hfound
    exact ⟨e, hmem, hconcerns, htype⟩
  · rintro ⟨e, hmem, hconcerns, htype⟩
    cases hfound : entries.find? (·.concerns table column) with
    | none =>
        have hnot := List.find?_eq_none.1 hfound e hmem
        exact absurd hconcerns hnot
    | some found =>
        have hfoundConcerns : found.concerns table column = true :=
          List.find?_some (p := fun e : OverrideEntry => e.concerns table column) hfound
        have hsame : found = e :=
          eq_of_nodup_keys hdistinct (List.mem_of_find?_eq_some hfound) hmem hfoundConcerns
            hconcerns
        exact ⟨found, rfl, hsame ▸ htype⟩

/-- The order of the entries does not matter where no column has two overrides. -/
theorem typeIn_perm (hdistinct : (entries.map (·.key)).Nodup) (hperm : entries.Perm rest)
    (table column : String) : typeIn entries table column = typeIn rest table column := by
  have hdistinct' : (rest.map (·.key)).Nodup := (hperm.map _).nodup_iff.1 hdistinct
  apply Option.ext
  intro type
  rw [typeIn_eq_some_iff hdistinct, typeIn_eq_some_iff hdistinct']
  exact exists_congr fun e => and_congr_left fun _ => hperm.mem_iff

/-- An override of a column is one of another column if both have the same names up to case. -/
theorem concerns_iff_of_concerns (hconcerns : e.concerns table column = true) :
    e.concerns other another = true ↔
      OverrideDocument.foldedKey other another = OverrideDocument.foldedKey table column := by
  rw [concerns_iff, concerns_iff.1 hconcerns]
  exact eq_comm

theorem typeIn_cons_of_concerns (hconcerns : e.concerns table column = true)
    (rest : List OverrideEntry) (other another : String) :
    typeIn (e :: rest) other another =
      if OverrideDocument.foldedKey other another = OverrideDocument.foldedKey table column
      then some e.type else typeIn rest other another := by
  rw [typeIn_cons]
  exact if_congr (concerns_iff_of_concerns hconcerns) rfl rfl

theorem typeIn_congr
    (h : OverrideDocument.foldedKey other another = OverrideDocument.foldedKey table column)
    (entries : List OverrideEntry) :
    typeIn entries other another = typeIn entries table column := by
  have hconcerns : ∀ e : OverrideEntry, e.concerns other another = e.concerns table column := by
    intro e
    rw [Bool.eq_iff_iff, concerns_iff, concerns_iff, h]
  unfold typeIn
  simp only [hconcerns]

end OverrideEntry

namespace OverrideDocument

variable {d : OverrideDocument} {e : OverrideEntry} {table column type : String}

theorem get?_eq_typeIn (d : OverrideDocument) (table column : String) :
    d.get? table column = OverrideEntry.typeIn d.entries table column :=
  rfl

theorem size_eq_length_entries (d : OverrideDocument) : d.size = d.entries.length := by
  unfold size entries PairTable.size
  rw [List.length_map]

theorem nodup_keys_of_flaw? (hd : d.flaw? = none) : (d.entries.map (·.key)).Nodup :=
  (flaw?_eq_none_iff.1 hd).2.2

theorem get?_of_mem (hd : d.flaw? = none) (hmem : e ∈ d.entries)
    (hconcerns : e.concerns table column = true) : d.get? table column = some e.type := by
  rw [get?_eq_typeIn]
  exact (OverrideEntry.typeIn_eq_some_iff (nodup_keys_of_flaw? hd)).2 ⟨e, hmem, hconcerns, rfl⟩

theorem eq_of_concerns {e' : OverrideEntry} (hd : d.flaw? = none) (hmem : e ∈ d.entries)
    (hmem' : e' ∈ d.entries) (hconcerns : e.concerns table column = true)
    (hconcerns' : e'.concerns table column = true) : e = e' :=
  OverrideEntry.eq_of_nodup_keys (nodup_keys_of_flaw? hd) hmem hmem' hconcerns hconcerns'

/-! ## The first spelling of a table -/

theorem le_of_matchingKey? {α : Type} {names : Dictionary α} {name key other : String}
    (hfound : matchingKey? names name = some key) (hmem : other ∈ names.keys)
    (hmatch : namesMatch other name = true) : key ≤ other := by
  have hordered : names.keys.Pairwise (· < ·) := List.pairwise_map.2 names.ascending
  obtain ⟨-, before, after, hkeys, hbefore⟩ := List.find?_eq_some_iff_append.1 hfound
  rw [hkeys, List.mem_append, List.mem_cons] at hmem
  rw [hkeys, List.pairwise_append, List.pairwise_cons] at hordered
  rcases hmem with hin | rfl | hin
  · -- None of the keys before the first one matches.
    have hnot := hbefore other hin
    rw [hmatch] at hnot
    cases hnot
  · exact String.le_refl _
  · exact String.not_lt.1 (String.lt_asymm (hordered.2.1.1 other hin))

/-- The first key that matches a name is the least one that does. -/
theorem matchingKey?_eq_some_iff {α : Type} {names : Dictionary α} {name key : String} :
    matchingKey? names name = some key ↔
      key ∈ names.keys ∧ namesMatch key name = true ∧
        ∀ other ∈ names.keys, namesMatch other name = true → key ≤ other := by
  constructor
  · intro hfound
    exact ⟨List.mem_of_find?_eq_some hfound, namesMatch_of_matchingKey? hfound,
      fun other => le_of_matchingKey? hfound⟩
  · rintro ⟨hmem, hmatch, hleast⟩
    cases hfound : matchingKey? names name with
    | none => exact absurd hmatch (List.find?_eq_none.1 hfound key hmem)
    | some first =>
        have hle := hleast first (List.mem_of_find?_eq_some hfound)
          (namesMatch_of_matchingKey? hfound)
        rw [String.le_antisymm (le_of_matchingKey? hfound hmem hmatch) hle]

theorem mem_keys_insert {key : String} :
    key ∈ (d.insert table column type).overrides.keys ↔
      key = (d.placeOf table column).1 ∨ key ∈ Dictionary.keys d.overrides := by
  rw [insert_overrides, PairTable.put, ← Dictionary.contains_iff_mem_keys,
    Dictionary.contains_insert, Dictionary.contains_iff_mem_keys]

/-- Once an override is set, its place is under the first spelling of its table. -/
theorem matchingKey?_insert {table' : String}
    (hcase : toLowercase table' = toLowercase table) (column type : String) :
    matchingKey? (d.insert table column type).overrides table' =
      some (d.placeOf table column).1 := by
  refine matchingKey?_eq_some_iff.2
    ⟨mem_keys_insert.2 (Or.inl rfl), ?_, fun other hmem hmatch => ?_⟩
  · rw [namesMatch_iff, hcase]
    exact toLowercase_matchingKey? d.overrides table
  · rcases mem_keys_insert.1 hmem with rfl | hin
    · exact String.le_refl _
    · -- Another spelling was there before, so the place is under the first one that was.
      rw [namesMatch_congr hcase] at hmatch
      have hplace : (d.placeOf table column).1 = (matchingKey? d.overrides table).getD table := rfl
      cases hfound : matchingKey? d.overrides table with
      | none => exact absurd hmatch (List.find?_eq_none.1 hfound other hin)
      | some first =>
          rw [hplace, hfound]
          exact le_of_matchingKey? hfound hin hmatch

/-- Whatever is an override of a column stands under the first spelling of its table. -/
def StandsFirst (d : OverrideDocument) (table column : String) : Prop :=
  ∀ e ∈ d.entries, e.concerns table column = true →
    matchingKey? d.overrides table = some e.table

instance (d : OverrideDocument) (table column : String) : Decidable (d.StandsFirst table column) :=
  inferInstanceAs (Decidable (∀ e ∈ d.entries, e.concerns table column = true →
    matchingKey? d.overrides table = some e.table))

theorem exists_columns_of_mem (hmem : e ∈ d.entries) :
    ∃ columns, Dictionary.get? d.overrides e.table = some columns ∧
      columns.get? e.column = some e.type := by
  have hget := mem_entries_iff.1 hmem
  unfold PairTable.get? at hget
  exact Option.bind_eq_some_iff.1 hget

/-- Among the columns of the table of an override, that of the override is the only one that
matches. -/
theorem matchingKey?_column (hdistinct : (d.entries.map (·.key)).Nodup) (hmem : e ∈ d.entries)
    (hconcerns : e.concerns table column = true) {columns : Dictionary String}
    (hcolumns : Dictionary.get? d.overrides e.table = some columns) :
    matchingKey? columns column = some e.column := by
  have hmatches := Bool.and_eq_true_iff.1 hconcerns
  cases hfound : matchingKey? columns column with
  | none =>
      -- The column of the override itself is among those that are searched.
      rcases exists_columns_of_mem hmem with ⟨columns', hcolumns', htype⟩
      rw [hcolumns, Option.some_inj] at hcolumns'
      subst hcolumns'
      have hkey : e.column ∈ columns.keys :=
        Dictionary.contains_iff_mem_keys.1 (by rw [Dictionary.contains, htype]; rfl)
      have hnot := List.find?_eq_none.1 hfound e.column hkey
      exact absurd hmatches.2 hnot
  | some key =>
      have hkey : key ∈ columns.keys := List.mem_of_find?_eq_some hfound
      -- The column that was found is one of an override of the same column.
      rcases exists_mem_of_mem_keys hcolumns hkey with ⟨type, hfoundMem⟩
      have hfoundConcerns :
          (⟨e.table, key, type⟩ : OverrideEntry).concerns table column = true :=
        Bool.and_eq_true_iff.2 ⟨hmatches.1, namesMatch_of_matchingKey? hfound⟩
      have hsame :=
        OverrideEntry.eq_of_nodup_keys hdistinct hfoundMem hmem hfoundConcerns hconcerns
      rw [← hsame]

/-! ## Setting an override -/

/-- An override under the first spelling of its table is set in its own place. -/
theorem placeOf_of_standsFirst (hdistinct : (d.entries.map (·.key)).Nodup) (hmem : e ∈ d.entries)
    (hconcerns : e.concerns table column = true) (hfirst : d.StandsFirst table column) :
    d.placeOf table column = (e.table, e.column) := by
  rcases exists_columns_of_mem hmem with ⟨columns, hcolumns, -⟩
  have htable : matchingKey? d.overrides table = some e.table := hfirst e hmem hconcerns
  have hcolumn : matchingKey? columns column = some e.column :=
    matchingKey?_column hdistinct hmem hconcerns hcolumns
  unfold placeOf
  simp only [htable, Option.getD_some, hcolumns, hcolumn]

/-- Setting an override over one that is in its place replaces that entry. -/
theorem insert_entries_perm_erase (hmem : e ∈ d.entries)
    (hplace : d.placeOf table column = (e.table, e.column)) (type : String) :
    (d.insert table column type).entries.Perm (d.added table column type :: d.entries.erase e) := by
  have htable : (d.placeOf table column).1 = e.table := congrArg Prod.fst hplace
  have hcolumn : (d.placeOf table column).2 = e.column := congrArg Prod.snd hplace
  -- An entry in the place of the override is the override.
  have hat : ∀ x ∈ d.entries, x.table = e.table → x.column = e.column → x = e := by
    intro x hx hxtable hxcolumn
    have hxget := mem_entries_iff.1 hx
    rw [hxtable, hxcolumn, mem_entries_iff.1 hmem, Option.some_inj] at hxget
    rcases x with ⟨t, c, ty⟩
    rcases e with ⟨t', c', ty'⟩
    cases hxtable
    cases hxcolumn
    cases hxget
    rfl
  have hfresh : d.added table column type ∉ d.entries.erase e := by
    intro hin
    have hin' := d.nodup_entries.mem_erase_iff.1 hin
    exact hin'.1 (hat _ hin'.2 htable hcolumn)
  -- No entry is there twice on either side, so only membership has to be compared.
  rw [List.perm_ext_iff_of_nodup (nodup_entries _)
    (List.nodup_cons.2 ⟨hfresh, d.nodup_entries.erase e⟩)]
  intro x
  rw [mem_entries_iff, insert_overrides, PairTable.get?_put, List.mem_cons,
    d.nodup_entries.mem_erase_iff, htable, hcolumn]
  by_cases hplaced : x.table = e.table ∧ x.column = e.column
  · rw [if_pos hplaced]
    constructor
    · intro htype
      left
      rcases x with ⟨t, c, ty⟩
      have hty : trim type = ty := Option.some_inj.1 htype
      unfold added
      rw [htable, hcolumn, hty, ← hplaced.1, ← hplaced.2]
    · rintro (rfl | ⟨hne, hin⟩)
      · rfl
      · exact absurd (hat x hin hplaced.1 hplaced.2) hne
  · rw [if_neg hplaced, ← mem_entries_iff]
    constructor
    · intro hin
      exact Or.inr ⟨fun heq => hplaced (heq ▸ ⟨rfl, rfl⟩), hin⟩
    · rintro (rfl | ⟨-, hin⟩)
      · exact absurd ⟨htable, hcolumn⟩ hplaced
      · exact hin

/-- What setting an override does: it adds an entry where there was none for the column, or replaces
the entry of the column. -/
theorem insert_entries_cases (hdistinct : (d.entries.map (·.key)).Nodup)
    (hfirst : d.StandsFirst table column) (type : String) :
    d.get? table column = none ∧
        (d.insert table column type).entries.Perm (d.added table column type :: d.entries) ∨
      ∃ e rest, e.concerns table column = true ∧ d.entries.Perm (e :: rest) ∧
        (d.insert table column type).entries.Perm (d.added table column type :: rest) := by
  cases hget : d.get? table column with
  | none =>
      left
      exact ⟨rfl, insert_entries_perm type (OverrideEntry.typeIn_eq_none_iff.1 hget)⟩
  | some old =>
      right
      rcases (OverrideEntry.typeIn_eq_some_iff hdistinct).1 hget with ⟨e, hmem, hconcerns, -⟩
      have hplace := placeOf_of_standsFirst hdistinct hmem hconcerns hfirst
      exact ⟨e, d.entries.erase e, hconcerns, List.perm_cons_erase hmem,
        insert_entries_perm_erase hmem hplace type⟩

/-- Setting an override under the first spelling of its table leaves every column with one override
at most. -/
theorem nodup_keys_insert (hdistinct : (d.entries.map (·.key)).Nodup)
    (hfirst : d.StandsFirst table column) (type : String) :
    ((d.insert table column type).entries.map (·.key)).Nodup := by
  rcases insert_entries_cases hdistinct hfirst type with
    ⟨hnone, -⟩ | ⟨e, rest, hconcerns, hold, hnew⟩
  · exact nodup_keys_insert_of_new hdistinct (OverrideEntry.typeIn_eq_none_iff.1 hnone) type
  · -- The new entry has the key of the one that it replaces.
    have hkey : (d.added table column type).key = e.key :=
      key_added.trans (OverrideEntry.concerns_iff.1 hconcerns).symm
    have hnewKeys := hnew.map OverrideEntry.key
    have holdKeys := hold.map OverrideEntry.key
    rw [List.map_cons, hkey] at hnewKeys
    exact (hnewKeys.trans holdKeys.symm).nodup_iff.2 hdistinct

/-- A name and a type that are not blank leave no flaw, also where an entry is replaced. -/
theorem flaw?_insert_of_standsFirst (hd : d.flaw? = none)
    (hfull : (⟨table, column, type⟩ : OverrideEntry).hasBlank = false)
    (hfirst : d.StandsFirst table column) : (d.insert table column type).flaw? = none := by
  rcases flaw?_eq_none_iff.1 hd with ⟨hversion, hfilled, hdistinct⟩
  refine flaw?_eq_none_iff.2 ⟨hversion, ?_, nodup_keys_insert hdistinct hfirst type⟩
  intro x hx
  have hadded : (d.added table column type).hasBlank = false := by rw [hasBlank_added, hfull]
  rcases insert_entries_cases hdistinct hfirst type with ⟨-, hnew⟩ | ⟨e, rest, -, hold, hnew⟩
  · rcases List.mem_cons.1 (hnew.subset hx) with rfl | hx
    · exact hadded
    · exact hfilled x hx
  · rcases List.mem_cons.1 (hnew.subset hx) with rfl | hx
    · exact hadded
    · exact hfilled x (hold.symm.subset (List.mem_cons_of_mem e hx))

theorem concerns_added : (d.added table column type).concerns table column = true :=
  OverrideEntry.concerns_iff.2 key_added

/-- Setting an override updates look-ups at one column. -/
theorem get?_insert_of_standsFirst (hd : d.flaw? = none)
    (hfull : (⟨table, column, type⟩ : OverrideEntry).hasBlank = false)
    (hfirst : d.StandsFirst table column) (other another : String) :
    (d.insert table column type).get? other another =
      if foldedKey other another = foldedKey table column then some (trim type)
      else d.get? other another := by
  have hdistinct := nodup_keys_of_flaw? (flaw?_insert_of_standsFirst hd hfull hfirst)
  rcases insert_entries_cases (nodup_keys_of_flaw? hd) hfirst type with
    ⟨-, hnew⟩ | ⟨e, rest, hconcerns, hold, hnew⟩
  · calc (d.insert table column type).get? other another
        = OverrideEntry.typeIn (d.added table column type :: d.entries) other another :=
          OverrideEntry.typeIn_perm hdistinct hnew other another
      _ = _ := OverrideEntry.typeIn_cons_of_concerns concerns_added d.entries other another
  · -- Look-ups at other columns are those in the entries that both documents share.
    have hbefore : d.get? other another = OverrideEntry.typeIn (e :: rest) other another :=
      OverrideEntry.typeIn_perm (nodup_keys_of_flaw? hd) hold other another
    have hafter : (d.insert table column type).get? other another =
        OverrideEntry.typeIn (d.added table column type :: rest) other another :=
      OverrideEntry.typeIn_perm hdistinct hnew other another
    rw [hbefore, hafter, OverrideEntry.typeIn_cons_of_concerns hconcerns,
      OverrideEntry.typeIn_cons_of_concerns concerns_added]
    split
    · rfl
    · rfl

theorem size_insert_of_standsFirst (hd : d.flaw? = none) (hfirst : d.StandsFirst table column)
    (type : String) :
    (d.insert table column type).size =
      if d.get? table column = none then d.size + 1 else d.size := by
  rw [size_eq_length_entries, size_eq_length_entries]
  rcases insert_entries_cases (nodup_keys_of_flaw? hd) hfirst type with
    ⟨hnone, hnew⟩ | ⟨e, rest, hconcerns, hold, hnew⟩
  · rw [if_pos hnone, hnew.length_eq, List.length_cons]
  · have hsome : d.get? table column = some e.type :=
      get?_of_mem hd (hold.symm.subset List.mem_cons_self) hconcerns
    rw [if_neg (by simp [hsome]), hnew.length_eq, hold.length_eq, List.length_cons,
      List.length_cons]

/-! ## Removing an override -/

/-- The document once the override of a column has been removed, if there is one to be removed. -/
def without (d : OverrideDocument) (table column : String) : OverrideDocument :=
  ((d.remove table column).map Prod.snd).getD d

/-- An override under the first spelling of its table is removed. -/
theorem remove_of_matchingKey? (hd : d.flaw? = none) (hmem : e ∈ d.entries)
    (hconcerns : e.concerns table column = true)
    (hfirst : matchingKey? d.overrides table = some e.table) :
    ∃ rest, d.remove table column = some (e.type, rest) := by
  rcases exists_columns_of_mem hmem with ⟨columns, hcolumns, htype⟩
  have hcolumn := matchingKey?_column (nodup_keys_of_flaw? hd) hmem hconcerns hcolumns
  unfold remove
  simp only [hfirst, hcolumns, hcolumn, htype, Option.bind_eq_bind, Option.bind_some]
  exact ⟨_, rfl⟩

/-- Removing an override that was set where there was none brings back the overrides as they were,
whichever spelling of the column is used. -/
theorem remove_insert_of_new {table' column' : String} (hd : d.flaw? = none)
    (hnew : ∀ e ∈ d.entries, e.concerns table column = false)
    (hfull : (⟨table, column, type⟩ : OverrideEntry).hasBlank = false)
    (hcase : foldedKey table' column' = foldedKey table column) :
    ∃ removed rest, (d.insert table column type).remove table' column' = some (removed, rest) ∧
      rest.entries = d.entries := by
  have hvalid := flaw?_insert hd hnew hfull
  have hperm := insert_entries_perm type hnew
  have hadded : (d.added table column type).concerns table' column' = true := by
    rw [OverrideEntry.concerns_iff, key_added, hcase]
  have hmem : d.added table column type ∈ (d.insert table column type).entries :=
    hperm.symm.subset List.mem_cons_self
  have hfirst := matchingKey?_insert (d := d) (Prod.mk.inj hcase).1 column type
  obtain ⟨rest, hremove⟩ := remove_of_matchingKey? hvalid hmem hadded hfirst
  refine ⟨_, rest, hremove, entries_eq_of_perm ?_⟩
  -- What is removed can only be the override that was set.
  obtain ⟨-, e, hconcerns, -, hrest⟩ := remove_entries_perm hremove
  have hsame := eq_of_concerns hvalid (hrest.symm.subset List.mem_cons_self) hmem hconcerns hadded
  rw [hsame] at hrest
  exact (hrest.symm.trans hperm).cons_inv

/-- What is removed stands under the first spelling of its table. -/
theorem exists_mem_of_remove {d' : OverrideDocument}
    (h : d.remove table column = some (type, d')) :
    ∃ e ∈ d.entries, e.concerns table column = true ∧
      matchingKey? d.overrides table = some e.table := by
  unfold remove at h
  simp only [Option.bind_eq_bind, Option.bind_eq_some_iff, Option.some.injEq] at h
  rcases h with ⟨tableKey, htable, columns, hcolumns, columnKey, hcolumn, ty, htype, -⟩
  refine ⟨⟨tableKey, columnKey, ty⟩, ?_, ?_, htable⟩
  · rw [mem_entries_iff, PairTable.get?, hcolumns, Option.bind_some, htype]
  · exact Bool.and_eq_true_iff.2
      ⟨namesMatch_of_matchingKey? htable, namesMatch_of_matchingKey? hcolumn⟩

theorem get?_of_remove {d' : OverrideDocument} (hd : d.flaw? = none)
    (h : d.remove table column = some (type, d')) : d.get? table column = some type := by
  rcases remove_entries_perm h with ⟨-, e, hconcerns, htype, hperm⟩
  rw [← htype]
  exact get?_of_mem hd (hperm.symm.subset List.mem_cons_self) hconcerns

/-- Where nothing is removed there is no override, unless one stands under a later spelling. -/
theorem get?_eq_none_of_remove (hd : d.flaw? = none) (hfirst : d.StandsFirst table column)
    (h : d.remove table column = none) : d.get? table column = none := by
  rw [get?_eq_typeIn]
  refine OverrideEntry.typeIn_eq_none_iff.2 fun e hmem => ?_
  rw [← Bool.not_eq_true]
  intro hconcerns
  rcases remove_of_matchingKey? hd hmem hconcerns (hfirst e hmem hconcerns) with ⟨rest, hrest⟩
  rw [h] at hrest
  cases hrest

/-- Removing an override takes one column out of look-ups. -/
theorem get?_without_of_standsFirst (hd : d.flaw? = none) (hfirst : d.StandsFirst table column)
    (other another : String) :
    (d.without table column).get? other another =
      if foldedKey other another = foldedKey table column then none
      else d.get? other another := by
  unfold without
  cases hremove : d.remove table column with
  | none =>
      have hnone := get?_eq_none_of_remove hd hfirst hremove
      split
      · next heq => exact (OverrideEntry.typeIn_congr heq d.entries).trans hnone
      · rfl
  | some removed =>
      rcases removed with ⟨type, d'⟩
      rcases remove_entries_perm hremove with ⟨-, e, hconcerns, -, hperm⟩
      have hbefore : d.get? other another = OverrideEntry.typeIn (e :: d'.entries) other another :=
        OverrideEntry.typeIn_perm (nodup_keys_of_flaw? hd) hperm other another
      rw [OverrideEntry.typeIn_cons_of_concerns hconcerns] at hbefore
      split
      · next heq =>
        -- Another override of the column would have the key of the one that was removed.
        have hdistinct := (hperm.map OverrideEntry.key).nodup_iff.1 (nodup_keys_of_flaw? hd)
        have hfresh := (List.nodup_cons.1 hdistinct).1
        refine OverrideEntry.typeIn_eq_none_iff.2 fun x hx => ?_
        rw [← Bool.not_eq_true]
        intro hother
        have hkey : x.key = e.key := by
          rw [OverrideEntry.concerns_iff.1 hother, heq, OverrideEntry.concerns_iff.1 hconcerns]
        exact hfresh (List.mem_map.2 ⟨x, hx, hkey⟩)
      · next hne =>
        rw [if_neg hne] at hbefore
        exact hbefore.symm

/-! ## Finite maps -/

/-- Setting and removing the override of a column change look-ups as they change a finite map from
columns up to case, and leave a document without a flaw. -/
structure ActsAsMap (d : OverrideDocument) (table column type : String) : Prop where
  get?_insert : ∀ other another, (d.insert table column type).get? other another =
    if foldedKey other another = foldedKey table column then some (trim type)
    else d.get? other another
  size_insert : (d.insert table column type).size =
    if d.get? table column = none then d.size + 1 else d.size
  flaw?_insert : (d.insert table column type).flaw? = none
  removed : (d.remove table column).map Prod.fst = d.get? table column
  get?_without : ∀ other another, (d.without table column).get? other another =
    if foldedKey other another = foldedKey table column then none else d.get? other another

/-- A document without a flaw is a finite map from columns up to case exactly where no override of
the column stands under a later spelling of its table. -/
theorem actsAsMap_iff_standsFirst (hd : d.flaw? = none)
    (hfull : (⟨table, column, type⟩ : OverrideEntry).hasBlank = false) :
    d.ActsAsMap table column type ↔ d.StandsFirst table column := by
  constructor
  · intro h e hmem hconcerns
    have hget : d.get? table column = some e.type := get?_of_mem hd hmem hconcerns
    have hremoved := h.removed
    rw [hget] at hremoved
    rcases Option.map_eq_some_iff.1 hremoved with ⟨⟨type, d'⟩, hremove, -⟩
    -- What is removed is the one override of the column that there is.
    rcases exists_mem_of_remove hremove with ⟨x, hx, hxconcerns, hfirst⟩
    rw [eq_of_concerns hd hmem hx hconcerns hxconcerns]
    exact hfirst
  · intro hfirst
    refine ⟨get?_insert_of_standsFirst hd hfull hfirst, size_insert_of_standsFirst hd hfirst type,
      flaw?_insert_of_standsFirst hd hfull hfirst, ?_, get?_without_of_standsFirst hd hfirst⟩
    cases hremove : d.remove table column with
    | none => exact (get?_eq_none_of_remove hd hfirst hremove).symm
    | some removed => exact (get?_of_remove hd hremove).symm

/-- Overrides of the columns of an order table, in two spellings of its name. -/
def twoSpellings : OverrideDocument where
  overrides := Dictionary.ofList [("DBO.ORDERS", Dictionary.ofList [("Code", "int")]),
    ("dbo.Orders", Dictionary.ofList [("Amount", "int")])]

theorem actsAsMap_iff_standsFirst_code :
    twoSpellings.flaw? = none ∧ twoSpellings.StandsFirst "dbo.orders" "CODE" ∧
      twoSpellings.ActsAsMap "dbo.orders" "CODE" " bigint " := by
  have hvalid : twoSpellings.flaw? = none := by decide +kernel
  have hfirst : twoSpellings.StandsFirst "dbo.orders" "CODE" := by decide +kernel
  exact ⟨hvalid, hfirst, (actsAsMap_iff_standsFirst hvalid (by decide +kernel)).2 hfirst⟩

/-- The override under the later spelling of the table is found, but it is not removed, and setting
it leaves two overrides of one column. -/
theorem second_spelling_stays :
    (ofText "overrides:\n  DBO.ORDERS:\n    Code: int\n  dbo.Orders:\n    Amount: int\n"
        "erp.yaml").toOption = some twoSpellings ∧
      twoSpellings.get? "dbo.Orders" "Amount" = some "int" ∧
      twoSpellings.remove "dbo.Orders" "Amount" = none ∧
      (twoSpellings.without "dbo.Orders" "Amount").get? "dbo.Orders" "Amount" = some "int" ∧
      (twoSpellings.insert "dbo.Orders" "Amount" "bigint").size = 3 ∧
      (twoSpellings.insert "dbo.Orders" "Amount" "bigint").flaw? ≠ none ∧
      ¬ twoSpellings.ActsAsMap "dbo.Orders" "Amount" "bigint" := by
  have hget : twoSpellings.get? "dbo.Orders" "Amount" = some "int" := by decide +kernel
  have hremove : twoSpellings.remove "dbo.Orders" "Amount" = none := by decide +kernel
  refine ⟨by decide +kernel, hget, hremove, by decide +kernel, by decide +kernel, ?_, ?_⟩
  · apply Option.isSome_iff_ne_none.1
    decide +kernel
  · intro h
    have hremoved := h.removed
    rw [hremove, hget] at hremoved
    cases hremoved

end OverrideDocument

end SchemaCrosswalk
