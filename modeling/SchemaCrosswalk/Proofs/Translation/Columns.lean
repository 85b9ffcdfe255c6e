import Mathlib.Data.List.Forall2
import SchemaCrosswalk.Proofs.Translation.Inversion

/-!
# Columns — what the columns of a cloned table look like

A translation that has been accepted names no blank types: neither in its entries, on either side,
nor as one of its fallbacks. Inverting it makes source types of sink types and the one fallback of
the other, so it still names none. Hence every column with a name and a type is cloned to such a
column, whatever its type is, and the clones make up a table unless two of them have one name.

* `IsFilled`: a translation names no blank type
* `isFilled_of_ofDocument`, `isFilled_iterate_invert`: an accepted one does not, however often it
  has been inverted
* `ColumnSet.ofList_eq_ok_iff`: which columns make up a table
* `Clones`: the cloned columns of a list of columns, and when they make up a table
* `clones_columns`: this is what accepted translations yield
-/

namespace SchemaCrosswalk

/-! ## Column sets -/

theorem firstRepeated_eq_none {names : List String} :
    ∀ {seen : List String}, names.Nodup → (∀ name ∈ names, name ∉ seen) →
      firstRepeated seen names = none := by
  induction names with
  | nil => simp [firstRepeated]
  | cons name names ih =>
      intro seen hnodup hfresh
      have hname : name ∉ seen := hfresh name List.mem_cons_self
      have hrest : ∀ other ∈ names, other ∉ name :: seen := by
        intro other hother
        have hne : other ≠ name := by
          rintro rfl
          exact (List.nodup_cons.1 hnodup).1 hother
        simp [hne, hfresh other (List.mem_cons_of_mem name hother)]
      simpa [firstRepeated, hname] using ih (List.nodup_cons.1 hnodup).2 hrest

/-- A column set is made of its columns, and of no others. -/
theorem ColumnSet.ofList_eq_ok_iff {columns : List Column} {s : ColumnSet} :
    ofList columns = .ok s ↔ s.columns = columns := by
  constructor
  · intro h
    unfold ofList at h
    split at h
    · cases h
    · rw [← Except.ok.inj h]
  · rintro rfl
    have hnone : firstRepeated [] (s.columns.map (·.name)) = none :=
      firstRepeated_eq_none s.distinct fun _ _ => List.not_mem_nil
    unfold ofList
    split
    · next name hname => simp [hnone] at hname
    · rfl

namespace Translation

variable {t : Translation} {d : Document} {sourceEngine sinkEngine origin : String}

/-! ## Types that are not blank -/

/-- A translation names no blank type. -/
structure IsFilled (t : Translation) : Prop where
  entries : ∀ e ∈ t.entries, Text.isBlankText e.1 = false ∧ Text.isBlankText e.2 = false
  fallback : Text.isBlankText t.fallback = false
  reverseFallback : Text.isBlankText t.reverseFallback = false

/-- The translation of an accepted document names no blank type. -/
theorem isFilled_of_ofDocument (h : ofDocument d sourceEngine sinkEngine origin = .ok t) :
    t.IsFilled := by
  obtain ⟨hfallback, hreverse, entries, hentries, rfl⟩ := exists_entries_of_ofDocument h
  refine ⟨?_, hfallback, ?_⟩
  · intro e he
    rcases exists_mem_of_mem_mapM hentries he with ⟨p, -, hp⟩
    obtain ⟨-, -, hfilled⟩ := entry_eq_ok_iff.1 hp
    exact hfilled
  · -- The fallback of the other direction is that of this one unless another one is declared.
    cases hdeclared : d.reverseFallback with
    | none => simpa [ofEntries, hdeclared] using hfallback
    | some fallback => simpa [ofEntries, hdeclared] using hreverse

/-- Inverting exchanges the sides of the entries and the fallbacks. -/
theorem IsFilled.invert (h : t.IsFilled) : t.invert.IsFilled where
  entries := by
    intro e he
    rcases List.mem_map.1 ((swapped_sublist t.entries []).mem he) with ⟨f, hf, rfl⟩
    exact (h.entries f hf).symm
  fallback := h.reverseFallback
  reverseFallback := h.fallback

theorem isFilled_iterate_invert (h : t.IsFilled) (n : ℕ) : (Translation.invert^[n] t).IsFilled := by
  induction n with
  | zero => exact h
  | succ n ih =>
      rw [Function.iterate_succ_apply']
      exact ih.invert

/-- The sink type of any type is that of an entry or the fallback. -/
theorem IsFilled.isBlankText_target (h : t.IsFilled) (x : String) :
    Text.isBlankText (t.mapType x).target = false := by
  rcases t.mapType_cases x with ⟨e, hmem, -, htarget⟩ | hfallback
  · rw [htarget]
    exact (h.entries e hmem).2
  · rw [hfallback]
    exact h.fallback

/-! ## Cloned columns -/

/-- A column is the clone of another one: it has its name and its flags, the sink type of its type,
which is not blank, and no default value. -/
structure IsClone (t : Translation) (c k : Column) : Prop where
  name : k.name = c.name
  nullable : k.nullable = c.nullable
  primaryKey : k.primaryKey = c.primaryKey
  hasDefault : k.hasDefault = false
  type : k.type = (t.mapType c.type).target
  filled : Text.isBlankText k.type = false

theorem IsFilled.isClone_mapColumn (h : t.IsFilled) (c : Column) : t.IsClone c (t.mapColumn c) where
  name := rfl
  nullable := rfl
  primaryKey := rfl
  hasDefault := rfl
  type := rfl
  filled := h.isBlankText_target c.type

theorem map_name_mapColumns (t : Translation) (columns : List Column) :
    (t.mapColumns columns).map (·.name) = (columns.filter isUsable).map (·.name) := by
  simp [mapColumns, mapColumn, Function.comp_def]

/-! ## Cloned tables -/

variable {columns : List Column}

theorem cloneTable_eq_ok_iff {clone : ColumnSet} :
    t.cloneTable columns = .ok clone ↔ clone.columns = t.mapColumns columns := by
  unfold cloneTable
  rw [mapError_eq_ok_iff, ColumnSet.ofList_eq_ok_iff]

/-- Columns can be cloned to a table if those that can be used have distinct names. -/
theorem exists_cloneTable_iff :
    (∃ clone, t.cloneTable columns = .ok clone) ↔
      ((columns.filter isUsable).map (·.name)).Nodup := by
  rw [← map_name_mapColumns t]
  constructor
  · rintro ⟨clone, hclone⟩
    rw [← cloneTable_eq_ok_iff.1 hclone]
    exact clone.distinct
  · intro hdistinct
    exact ⟨⟨t.mapColumns columns, hdistinct⟩, cloneTable_eq_ok_iff.2 rfl⟩

/-- A source table can always be cloned, and the clone has all of its columns that can be used. -/
theorem exists_cloneTable (t : Translation) (source : ColumnSet) :
    ∃ clone, t.cloneTable source.columns = .ok clone ∧
      clone.columns = t.mapColumns source.columns := by
  have hdistinct : ((source.columns.filter isUsable).map (·.name)).Nodup :=
    source.distinct.sublist (List.filter_sublist.map _)
  rcases exists_cloneTable_iff.2 hdistinct with ⟨clone, hclone⟩
  exact ⟨clone, hclone, cloneTable_eq_ok_iff.1 hclone⟩

/-- Two columns of a list can be used and have one name. -/
def SharesName (columns : List Column) : Prop :=
  ∃ c k, [c, k].Sublist columns ∧ isUsable c = true ∧ isUsable k = true ∧ c.name = k.name

theorem nodup_names_iff_not_sharesName :
    ((columns.filter isUsable).map (·.name)).Nodup ↔ ¬ SharesName columns := by
  have hpairwise : ((columns.filter isUsable).map (·.name)).Nodup ↔ columns.Pairwise fun c k =>
      isUsable c = true → isUsable k = true → c.name ≠ k.name := by
    unfold List.Nodup
    rw [List.pairwise_map, List.pairwise_filter]
  rw [hpairwise, List.pairwise_iff_forall_sublist]
  unfold SharesName
  push Not
  rfl

/-- A table cannot be cloned exactly if two columns that can be used have one name. -/
theorem exists_error_cloneTable_iff :
    (∃ fault, t.cloneTable columns = .error fault) ↔ SharesName columns := by
  have hsucceeds : (∃ clone, t.cloneTable columns = .ok clone) ↔ ¬ SharesName columns :=
    exists_cloneTable_iff.trans nodup_names_iff_not_sharesName
  cases hclone : t.cloneTable columns with
  | error fault => simpa [hclone] using hsucceeds
  | ok clone => simpa [hclone] using hsucceeds

/-- What a translation makes of a list of columns: every column that can be used is cloned, in
order, and the clones make up a table unless two of them have one name. -/
structure Clones (t : Translation) (columns : List Column) : Prop where
  columns_cloned : List.Forall₂ t.IsClone (columns.filter isUsable) (t.mapColumns columns)
  fails_iff : (∃ fault, t.cloneTable columns = .error fault) ↔ SharesName columns
  table_iff : ∀ clone, t.cloneTable columns = .ok clone ↔ clone.columns = t.mapColumns columns
  succeeds : ∀ source : ColumnSet, source.columns = columns →
    ∃ clone, t.cloneTable columns = .ok clone

theorem IsFilled.clones (h : t.IsFilled) (columns : List Column) : t.Clones columns where
  columns_cloned := by
    unfold mapColumns
    rw [List.forall₂_map_right_iff]
    exact List.forall₂_same.2 fun c _ => h.isClone_mapColumn c
  fails_iff := exists_error_cloneTable_iff
  table_iff := fun _ => cloneTable_eq_ok_iff
  succeeds := by
    rintro source rfl
    rcases t.exists_cloneTable source with ⟨clone, hclone, -⟩
    exact ⟨clone, hclone⟩

/-- Whatever an accepted translation or an inversion of it is given, it clones all columns that can
be used to columns that can be used. -/
theorem clones_columns (h : ofDocument d sourceEngine sinkEngine origin = .ok t) (n : ℕ)
    (columns : List Column) : (Translation.invert^[n] t).Clones columns :=
  (isFilled_iterate_invert (isFilled_of_ofDocument h) n).clones columns

/-- Columns of which two have no name or no type, and two have one name. -/
def contactColumns : List Column :=
  [⟨"Name", "text(100)", false, true, true⟩, ⟨"", "text", true, false, false⟩,
    ⟨"Note", " ", true, false, false⟩, ⟨"Place", "geometry", true, false, true⟩,
    ⟨"Name", "TEXT", true, false, false⟩]

/-- An inverted translation clones a column of an unknown type to one of the type that its document
declares for that direction. -/
theorem clones_columns_contactColumns :
    ∃ d t, Document.ofText namesDocument "names.yaml" = .ok d ∧
      ofDocument d "mssql" "postgres" "names.yaml" = .ok t ∧
        (Translation.invert^[1] t).Clones contactColumns ∧
          t.invert.mapColumns contactColumns =
            [⟨"Name", "nvarchar", false, true, false⟩, ⟨"Place", "sql_variant", true, false, false⟩,
              ⟨"Name", "varchar", true, false, false⟩] ∧
            ∃ fault, t.invert.cloneTable contactColumns = .error fault := by
  have hread : ((Document.ofText namesDocument "names.yaml").toOption.bind fun d =>
      (ofDocument d "mssql" "postgres" "names.yaml").toOption.map fun t =>
        t.invert.mapColumns contactColumns) =
      some [⟨"Name", "nvarchar", false, true, false⟩, ⟨"Place", "sql_variant", true, false, false⟩,
        ⟨"Name", "varchar", true, false, false⟩] := by
    decide +kernel
  rcases Option.bind_eq_some_iff.1 hread with ⟨d, hd, hmapped⟩
  rcases Option.map_eq_some_iff.1 hmapped with ⟨t, ht, hcolumns⟩
  have hok : ofDocument d "mssql" "postgres" "names.yaml" = .ok t := eq_ok_of_toOption ht
  have hclones : (Translation.invert^[1] t).Clones contactColumns :=
    clones_columns hok 1 contactColumns
  have hshares : SharesName contactColumns :=
    ⟨⟨"Name", "text(100)", false, true, true⟩, ⟨"Name", "TEXT", true, false, false⟩,
      by decide, by decide +kernel, by decide +kernel, rfl⟩
  exact ⟨d, t, eq_ok_of_toOption hd, hok, hclones, hcolumns, hclones.fails_iff.2 hshares⟩

end Translation

end SchemaCrosswalk
