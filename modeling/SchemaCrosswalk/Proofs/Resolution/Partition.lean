import SchemaCrosswalk.Proofs.Resolution.Mappings

/-!
# Partition — every sink column is accounted for once

A resolution sorts the columns of the sink table into those with an explicit mapping, those that
their namesakes populate and those that their namesakes cannot populate. What is left over has
no source column at all, and the required columns that stay empty decide on validity.

* `Resolution.accounted`: the sink columns of the three kinds
* `TablePair.emptyColumns`: the required sink columns that stay empty
* `Resolution.Sound`: what a resolution says of its tables and mappings
* `Resolution.resolve_sound`: every resolution says so
-/

namespace SchemaCrosswalk

namespace TablePair

variable {p : TablePair} {explicit : List ExplicitMapping} {applied : Dictionary String}

/-- Some explicit mapping leads into a sink column. -/
def IsMapped (p : TablePair) (explicit : List ExplicitMapping) (sink : Column) : Prop :=
  ∃ m ∈ explicit, p.sink.get? m.sinkColumn = some sink

/-! ## The three kinds of sink columns -/

theorem contains_applied_iff_isMapped (h : p.explicitMappings explicit = .ok applied) {k : Column}
    (hk : k ∈ p.sink.columns) : applied.contains k.name = true ↔ p.IsMapped explicit k := by
  rw [contains_applied_iff h]
  constructor
  · rintro ⟨source, hsource⟩
    obtain ⟨m, hm, s, k', hcols, -, hname⟩ := mem_sourcesInto.1 hsource
    have hk' := (columnsOf_eq_some_iff.1 hcols).2
    -- The mapping finds a sink column of that name, which is the only one.
    rw [ColumnSet.eq_of_name_eq (ColumnSet.mem_of_get? hk') hk hname] at hk'
    exact ⟨m, hm, hk'⟩
  · rintro ⟨m, hm, hget⟩
    obtain ⟨s, k', hcols, -⟩ := (explicitMappings_eq_ok_iff.1 h).1 m hm
    have hk' := (columnsOf_eq_some_iff.1 hcols).2
    rw [hget, Option.some_inj] at hk'
    exact ⟨s.name, mem_sourcesInto.2 ⟨m, hm, s, k', hcols, rfl, by rw [hk']⟩⟩

/-- An applied pair consists of two columns that fit. -/
theorem fits_of_get?_applied (h : p.explicitMappings explicit = .ok applied) {source sink : String}
    (hget : applied.get? sink = some source) :
    ∃ s ∈ p.source.columns, ∃ k ∈ p.sink.columns,
      s.name = source ∧ k.name = sink ∧ p.canPopulate s k = true := by
  obtain ⟨m, hm, s, k, hcols, hs, hk⟩ := mem_sourcesInto.1 ((get?_applied_iff h).1 hget)
  obtain ⟨s', k', hcols', hfits⟩ := (explicitMappings_eq_ok_iff.1 h).1 m hm
  rw [hcols] at hcols'
  cases hcols'
  obtain ⟨hsource, hsink⟩ := columnsOf_eq_some_iff.1 hcols
  exact ⟨s, ColumnSet.mem_of_get? hsource, k, ColumnSet.mem_of_get? hsink, hs, hk, hfits⟩

theorem namesake?_eq_some_iff {k s : Column} :
    p.namesake? applied k = some s ↔
      applied.contains k.name = false ∧ p.source.get? k.name = some s := by
  unfold namesake?
  cases applied.contains k.name <;> simp

theorem mem_covered {name : String} :
    name ∈ p.covered applied ↔
      ∃ k ∈ p.sink.columns, k.name = name ∧ applied.contains k.name = false ∧
        ∃ s, p.source.get? k.name = some s ∧ p.canPopulate s k = true := by
  unfold covered
  simp only [List.mem_map, List.mem_filter, Option.any_eq_true, namesake?_eq_some_iff]
  constructor
  · rintro ⟨k, ⟨hk, s, ⟨hfree, hs⟩, hfits⟩, hname⟩
    exact ⟨k, hk, hname, hfree, s, hs, hfits⟩
  · rintro ⟨k, hk, hname, hfree, s, hs, hfits⟩
    exact ⟨k, ⟨hk, s, ⟨hfree, hs⟩, hfits⟩, hname⟩

theorem mem_clashes {i : IncompatibleIdentity} :
    i ∈ p.clashes applied ↔
      ∃ k ∈ p.sink.columns, applied.contains k.name = false ∧
        ∃ s, p.source.get? k.name = some s ∧ p.canPopulate s k = false ∧
          i = ⟨k.name, p.effectiveType s, k.type⟩ := by
  unfold clashes
  rw [List.mem_filterMap]
  refine exists_congr fun k => and_congr_right fun _ => ?_
  cases hn : p.namesake? applied k with
  | none =>
      -- Either the column is mapped or no source column has its name.
      constructor
      · intro h
        cases h
      · rintro ⟨hfree, s, hs, -, -⟩
        rw [namesake?_eq_some_iff.2 ⟨hfree, hs⟩] at hn
        cases hn
  | some s =>
      obtain ⟨hfree, hs⟩ := namesake?_eq_some_iff.1 hn
      cases hfits : p.canPopulate s k with
      | false =>
          constructor
          · intro h
            have hi : ⟨k.name, p.effectiveType s, k.type⟩ = i := by
              simpa [hfits] using h
            exact ⟨hfree, s, hs, hfits, hi.symm⟩
          · rintro ⟨-, s', hs', -, rfl⟩
            rw [hs, Option.some_inj] at hs'
            subst hs'
            simp [hfits]
      | true =>
          constructor
          · intro h
            simp [hfits] at h
          · rintro ⟨-, s', hs', hclash, -⟩
            rw [hs, Option.some_inj] at hs'
            rw [← hs', hfits] at hclash
            cases hclash

/-- The sink columns that clash, in the order of the sink table and each once. -/
theorem clashes_sublist (p : TablePair) (applied : Dictionary String) :
    ((p.clashes applied).map (·.sinkColumn)).Sublist p.sink.names := by
  unfold clashes ColumnSet.names
  -- A sink column yields one clash under its own name, or none.
  induction p.sink.columns with
  | nil => exact List.Sublist.refl _
  | cons k ks ih =>
      rw [List.filterMap_cons]
      split
      · exact ih.cons k.name
      · next i hi =>
        have hname : i.sinkColumn = k.name := by
          split at hi
          · split at hi
            · cases hi
            · cases hi
              rfl
          · cases hi
        rw [List.map_cons, List.map_cons, hname]
        exact ih.cons_cons k.name

/-! ## Columns that stay empty -/

/-- Whether the source column of the same name may populate a sink column. -/
def hasFittingNamesake (p : TablePair) (k : Column) : Bool :=
  (p.source.get? k.name).any fun s => p.canPopulate s k

theorem hasFittingNamesake_iff {k : Column} :
    p.hasFittingNamesake k = true ↔
      ∃ s, p.source.get? k.name = some s ∧ p.canPopulate s k = true := by
  simp [hasFittingNamesake, Option.any_eq_true]

/-- The required sink columns without a mapping and without a namesake that fits. -/
def emptyColumns (p : TablePair) (applied : Dictionary String) : List Column :=
  p.sink.columns.filter fun k =>
    k.isRequired && !p.hasFittingNamesake k && !applied.contains k.name

theorem mem_emptyColumns {k : Column} :
    k ∈ p.emptyColumns applied ↔
      k ∈ p.sink.columns ∧ k.isRequired = true ∧ p.hasFittingNamesake k = false ∧
        applied.contains k.name = false := by
  simp [emptyColumns, and_assoc]

end TablePair

namespace Resolution

variable {p : TablePair} {explicit : List ExplicitMapping} {r : Resolution}

/-! ## What a resolution says -/

/-- The sink columns with an explicit mapping, with a namesake that populates them, and with one
that cannot. -/
def accounted (r : Resolution) : List String :=
  r.applied.keys ++ r.identityCovered.toList ++ r.incompatible.map (·.sinkColumn)

/-- What a resolution says of two tables and a list of explicit mappings. -/
structure Sound (p : TablePair) (explicit : List ExplicitMapping) (r : Resolution) : Prop where
  -- the partition
  accounted_nodup : r.accounted.Nodup
  accounted_subset : ∀ name ∈ r.accounted, name ∈ p.sink.names
  not_accounted_iff : ∀ k ∈ p.sink.columns,
    k.name ∉ r.accounted ↔ ¬ p.IsMapped explicit k ∧ p.source.get? k.name = none
  applied_iff : ∀ k ∈ p.sink.columns, k.name ∈ r.applied.keys ↔ p.IsMapped explicit k
  -- the types
  applied_fits : ∀ sink source, r.applied.get? sink = some source →
    ∃ s ∈ p.source.columns, ∃ k ∈ p.sink.columns,
      s.name = source ∧ k.name = sink ∧ p.canPopulate s k = true
  covered_fits : ∀ name ∈ r.identityCovered.toList, ∃ k ∈ p.sink.columns, k.name = name ∧
    ∃ s, p.source.get? k.name = some s ∧ p.canPopulate s k = true
  incompatible_clashes : ∀ i ∈ r.incompatible, ∃ k ∈ p.sink.columns, ∃ s,
    p.source.get? k.name = some s ∧ p.canPopulate s k = false ∧
      i = ⟨k.name, p.effectiveType s, k.type⟩
  -- validity
  unmapped_sublist : r.unmapped.Sublist p.sink.names
  unmapped_iff : ∀ k ∈ p.sink.columns, k.name ∈ r.unmapped ↔
    ((k.primaryKey = true ∨ k.nullable = false) ∧ k.hasDefault = false) ∧
      k.name ∉ r.applied.keys ∧ k.name ∉ r.identityCovered.toList
  valid_iff : r.valid = true ↔ r.unmapped = []
  valid_of_clash : ∀ i ∈ r.incompatible, ∀ k ∈ p.sink.columns, k.name = i.sinkColumn →
    k.isRequired = true → r.valid = false ∧ k.name ∈ r.unmapped

theorem resolve_eq_ok_iff :
    resolve p explicit = .ok r ↔
      ∃ applied, p.explicitMappings explicit = .ok applied ∧ r = ofApplied p applied := by
  unfold resolve
  cases p.explicitMappings explicit with
  | error fault => simp [Bind.bind, Except.bind]
  | ok applied => simp [Bind.bind, Except.bind, Pure.pure, Except.pure, eq_comm]

variable {applied : Dictionary String}

theorem mem_identityCovered {name : String} :
    name ∈ (ofApplied p applied).identityCovered.toList ↔ name ∈ p.covered applied :=
  NameSet.mem_toList_ofList

/-- A sink column is covered if it has no explicit mapping and its namesake fits. -/
theorem name_mem_identityCovered {k : Column} (hk : k ∈ p.sink.columns) :
    k.name ∈ (ofApplied p applied).identityCovered.toList ↔
      k.name ∉ applied.keys ∧ ∃ s, p.source.get? k.name = some s ∧ p.canPopulate s k = true := by
  rw [mem_identityCovered, TablePair.mem_covered, ← Dictionary.contains_iff_mem_keys,
    Bool.not_eq_true]
  constructor
  · rintro ⟨k', hk', hname, hfree, hs⟩
    cases ColumnSet.eq_of_name_eq hk' hk hname
    exact ⟨hfree, hs⟩
  · rintro ⟨hfree, hs⟩
    exact ⟨k, hk, rfl, hfree, hs⟩

/-- A sink column clashes if it has no explicit mapping and its namesake does not fit. -/
theorem name_mem_incompatible {k : Column} (hk : k ∈ p.sink.columns) :
    k.name ∈ (ofApplied p applied).incompatible.map (·.sinkColumn) ↔
      k.name ∉ applied.keys ∧ ∃ s, p.source.get? k.name = some s ∧ p.canPopulate s k = false := by
  rw [List.mem_map, ← Dictionary.contains_iff_mem_keys, Bool.not_eq_true]
  constructor
  · rintro ⟨i, hi, hname⟩
    obtain ⟨k', hk', hfree, s, hs, hclash, rfl⟩ := TablePair.mem_clashes.1 hi
    cases ColumnSet.eq_of_name_eq hk' hk hname
    exact ⟨hfree, s, hs, hclash⟩
  · rintro ⟨hfree, s, hs, hclash⟩
    exact ⟨_, TablePair.mem_clashes.2 ⟨k, hk, hfree, s, hs, hclash, rfl⟩, rfl⟩

/-- A column that clashes is not covered: its namesake cannot both fit and not fit. -/
theorem name_not_mem_identityCovered {k : Column} (hk : k ∈ p.sink.columns)
    (hclash : k.name ∈ (ofApplied p applied).incompatible.map (·.sinkColumn)) :
    k.name ∉ (ofApplied p applied).identityCovered.toList := by
  intro hcovered
  obtain ⟨-, s, hs, hunfit⟩ := (name_mem_incompatible hk).1 hclash
  obtain ⟨-, s', hs', hfits⟩ := (name_mem_identityCovered hk).1 hcovered
  rw [hs, Option.some_inj] at hs'
  rw [← hs', hunfit] at hfits
  cases hfits

theorem name_mem_accounted {k : Column} (hk : k ∈ p.sink.columns) :
    k.name ∈ (ofApplied p applied).accounted ↔
      k.name ∈ applied.keys ∨ ∃ s, p.source.get? k.name = some s := by
  unfold accounted
  rw [List.mem_append, List.mem_append, name_mem_identityCovered hk, name_mem_incompatible hk]
  by_cases hmapped : k.name ∈ applied.keys
  · simp [ofApplied, hmapped]
  · cases hs : p.source.get? k.name with
    | none => simp [ofApplied, hmapped]
    | some s => cases hfits : p.canPopulate s k <;> simp [ofApplied, hmapped, hfits]

/-! ## Required columns and validity -/

theorem isRequired_iff {k : Column} :
    k.isRequired = true ↔ (k.primaryKey = true ∨ k.nullable = false) ∧ k.hasDefault = false := by
  simp [Column.isRequired]

theorem unmapped_sublist (p : TablePair) (applied : Dictionary String) :
    (ofApplied p applied).unmapped.Sublist p.sink.names :=
  (List.filter_sublist.trans List.filter_sublist).map _

/-- The required columns that stay empty are those without a mapping and a covering namesake. -/
theorem name_mem_unmapped {k : Column} (hk : k ∈ p.sink.columns) :
    k.name ∈ (ofApplied p applied).unmapped ↔
      k.isRequired = true ∧ k.name ∉ applied.keys ∧
        k.name ∉ (ofApplied p applied).identityCovered.toList := by
  unfold NameSet.toList
  rw [← Dictionary.contains_iff_mem_keys, ← Dictionary.contains_iff_mem_keys]
  simp only [ofApplied, ColumnSet.required, List.mem_map, List.mem_filter, Bool.and_eq_true,
    Bool.not_eq_true', Bool.not_eq_true]
  constructor
  · rintro ⟨k', ⟨⟨hk', hrequired⟩, hempty⟩, hname⟩
    cases ColumnSet.eq_of_name_eq hk' hk hname
    exact ⟨hrequired, hempty⟩
  · rintro ⟨hrequired, hempty⟩
    exact ⟨k, ⟨⟨hk, hrequired⟩, hempty⟩, rfl⟩

/-- The required columns that stay empty, in the order of the sink table. -/
theorem required_filter_eq_emptyColumns (p : TablePair) (applied : Dictionary String) :
    p.sink.required.filter (fun k => !applied.contains k.name &&
        !(ofApplied p applied).identityCovered.contains k.name) = p.emptyColumns applied := by
  unfold ColumnSet.required TablePair.emptyColumns
  rw [List.filter_filter]
  refine List.filter_congr fun k hk => ?_
  have hcovered : (ofApplied p applied).identityCovered.contains k.name = true ↔
      applied.contains k.name = false ∧ p.hasFittingNamesake k = true := by
    rw [Dictionary.contains_iff_mem_keys, ← Bool.not_eq_true, Dictionary.contains_iff_mem_keys,
      TablePair.hasFittingNamesake_iff]
    exact name_mem_identityCovered hk
  -- A column that has a mapping is not covered, whatever its namesake is.
  cases happlied : applied.contains k.name with
  | true => simp
  | false =>
      have hsame : (ofApplied p applied).identityCovered.contains k.name =
          p.hasFittingNamesake k := Bool.eq_iff_iff.2 (by simpa [happlied] using hcovered)
      cases k.isRequired <;> simp [hsame]

theorem unmapped_eq_map_emptyColumns (p : TablePair) (applied : Dictionary String) :
    (ofApplied p applied).unmapped = (p.emptyColumns applied).map (·.name) :=
  congrArg (List.map fun k : Column => k.name) (required_filter_eq_emptyColumns p applied)

theorem guidance_eq_map_emptyColumns (p : TablePair) (applied : Dictionary String) :
    (ofApplied p applied).guidance =
      (p.emptyColumns applied).map (p.guidanceFor (p.clashes applied)) :=
  congrArg (List.map (p.guidanceFor (p.clashes applied)))
    (required_filter_eq_emptyColumns p applied)

/-- A required column that clashes stays empty. -/
theorem unmapped_of_clash {i : IncompatibleIdentity} (hi : i ∈ (ofApplied p applied).incompatible)
    {k : Column} (hk : k ∈ p.sink.columns) (hname : k.name = i.sinkColumn)
    (hrequired : k.isRequired = true) : k.name ∈ (ofApplied p applied).unmapped := by
  have hclash : k.name ∈ (ofApplied p applied).incompatible.map (·.sinkColumn) :=
    hname ▸ List.mem_map_of_mem hi
  have hfree := ((name_mem_incompatible hk).1 hclash).1
  exact (name_mem_unmapped hk).2 ⟨hrequired, hfree, name_not_mem_identityCovered hk hclash⟩

/-- Validity is decided by the columns that stay empty: the clashes that count are among them. -/
theorem valid_iff_unmapped_eq_nil :
    (ofApplied p applied).valid = true ↔ (ofApplied p applied).unmapped = [] := by
  have hvalid : (ofApplied p applied).valid =
      ((ofApplied p applied).unmapped.isEmpty &&
        !(ofApplied p applied).incompatible.any fun i =>
          (p.sink.get? i.sinkColumn).any (·.isRequired)) := by
    simp [ofApplied]
  rw [hvalid, Bool.and_eq_true, List.isEmpty_iff, Bool.not_eq_true', List.any_eq_false]
  -- A clash that counts would be among the columns that stay empty.
  refine and_iff_left_of_imp fun hempty i hi hrequired => ?_
  obtain ⟨k, hget, hk⟩ := (Option.any_eq_true ..).1 hrequired
  obtain ⟨k', hk', -, s, -, -, rfl⟩ := TablePair.mem_clashes.1 hi
  rw [ColumnSet.get?_self hk', Option.some_inj] at hget
  subst hget
  have hmem := unmapped_of_clash hi hk' rfl hk
  rw [hempty] at hmem
  cases hmem

/-! ## The partition -/

/-- The columns of the three kinds are distinct: a column has one name, and a name one kind. -/
theorem accounted_nodup_ofApplied (p : TablePair) (applied : Dictionary String) :
    (ofApplied p applied).accounted.Nodup := by
  have hclashes : ((ofApplied p applied).incompatible.map (·.sinkColumn)).Nodup :=
    (p.sink.nodup_names).sublist (TablePair.clashes_sublist p applied)
  refine List.Nodup.append (List.Nodup.append applied.nodup_keys
    (Dictionary.nodup_keys _) ?_) hclashes ?_
  -- Covered and clashing columns have no mapping.
  · intro name happlied hcovered
    obtain ⟨k, hk, rfl, hfree, -⟩ := TablePair.mem_covered.1 (mem_identityCovered.1 hcovered)
    have hcontains : applied.contains k.name = true :=
      Dictionary.contains_iff_mem_keys.2 happlied
    rw [hcontains] at hfree
    cases hfree
  · intro name hother hclash
    obtain ⟨k, hk, rfl⟩ := List.mem_map.1 ((TablePair.clashes_sublist p applied).subset hclash)
    rcases List.mem_append.1 hother with happlied | hcovered
    · exact ((name_mem_incompatible hk).1 hclash).1 happlied
    · exact name_not_mem_identityCovered hk hclash hcovered

/-- A resolution accounts for every sink column at most once, pairs columns that fit only, and is
valid if no required sink column stays empty. -/
theorem resolve_sound (p : TablePair) (explicit : List ExplicitMapping) (r : Resolution)
    (h : resolve p explicit = .ok r) : r.Sound p explicit := by
  obtain ⟨applied, happlied, rfl⟩ := resolve_eq_ok_iff.1 h
  have hmapped : ∀ k ∈ p.sink.columns, k.name ∈ applied.keys ↔ p.IsMapped explicit k :=
    fun k hk => Dictionary.contains_iff_mem_keys.symm.trans
      (TablePair.contains_applied_iff_isMapped happlied hk)
  have hsink : ∀ name ∈ applied.keys, name ∈ p.sink.names := by
    intro name hname
    obtain ⟨source, hsource⟩ :=
      Option.isSome_iff_exists.1 (Dictionary.contains_iff_mem_keys.2 hname)
    obtain ⟨-, -, k, hk, -, rfl, -⟩ := TablePair.fits_of_get?_applied happlied hsource
    exact ColumnSet.mem_names hk
  exact {
    accounted_nodup := accounted_nodup_ofApplied p applied
    accounted_subset := by
      intro name hname
      rcases List.mem_append.1 hname with hname | hclash
      · rcases List.mem_append.1 hname with hname | hcovered
        · exact hsink name hname
        · obtain ⟨k, hk, rfl, -⟩ := TablePair.mem_covered.1 (mem_identityCovered.1 hcovered)
          exact ColumnSet.mem_names hk
      · exact (TablePair.clashes_sublist p applied).subset hclash
    not_accounted_iff := by
      intro k hk
      rw [name_mem_accounted hk, hmapped k hk, not_or, ← Option.isSome_iff_exists,
        Option.not_isSome_iff_eq_none]
    applied_iff := hmapped
    applied_fits := fun sink source => TablePair.fits_of_get?_applied happlied
    covered_fits := by
      intro name hname
      obtain ⟨k, hk, hkname, -, hs⟩ := TablePair.mem_covered.1 (mem_identityCovered.1 hname)
      exact ⟨k, hk, hkname, hs⟩
    incompatible_clashes := by
      intro i hi
      obtain ⟨k, hk, -, s, hs⟩ := TablePair.mem_clashes.1 hi
      exact ⟨k, hk, s, hs⟩
    unmapped_sublist := unmapped_sublist p applied
    unmapped_iff := by
      intro k hk
      rw [name_mem_unmapped hk, isRequired_iff]
      rfl
    valid_iff := valid_iff_unmapped_eq_nil
    valid_of_clash := by
      intro i hi k hk hname hrequired
      have hmem := unmapped_of_clash hi hk hname hrequired
      refine ⟨?_, hmem⟩
      rw [← Bool.not_eq_true, valid_iff_unmapped_eq_nil]
      exact List.ne_nil_of_mem hmem }

/-- An order table and its replica: `ID` and `id` are different source columns, `Code` is renamed,
`amount` clashes and `note` is missing at the source. -/
def orderTables : TablePair where
  checker := { map := {
    sourceEngine := "mssql", sinkEngine := "postgres", origin := "orders.yaml"
    sourceAliases := ⟨Dictionary.empty, true⟩
    sinkAliases := ⟨Dictionary.empty, true⟩
    casts := Dictionary.ofList [("int", "integer"), ("varchar", "varchar")]
    wider := Dictionary.empty
    wildcard := Dictionary.empty
    stripsParameters := true } }
  sourceTable := "dbo.Orders"
  source := ⟨[⟨"ID", "varchar(8)", true, false, false⟩, ⟨"id", "int", false, true, false⟩,
    ⟨"Code", "varchar(5)", true, false, false⟩, ⟨"Amount", "varchar(9)", true, false, false⟩],
    by decide⟩
  sink := ⟨[⟨"id", "integer", false, true, false⟩, ⟨"ext_code", "varchar(5)", true, false, false⟩,
    ⟨"amount", "integer", true, false, false⟩, ⟨"note", "varchar(20)", false, false, false⟩],
    by decide⟩

theorem resolve_sound_orderTables :
    ∃ r, resolve orderTables [⟨"CODE", "EXT_CODE"⟩] = .ok r ∧
      r.accounted = ["ext_code", "id", "amount"] ∧ r.unmapped = ["note"] ∧
        r.Sound orderTables [⟨"CODE", "EXT_CODE"⟩] := by
  have hrun : (resolve orderTables [⟨"CODE", "EXT_CODE"⟩]).toOption.map
      (fun r => (r.accounted, r.unmapped)) = some (["ext_code", "id", "amount"], ["note"]) := by
    decide +kernel
  cases hr : resolve orderTables [⟨"CODE", "EXT_CODE"⟩] with
  | error fault =>
      rw [hr] at hrun
      cases hrun
  | ok r =>
      rw [hr] at hrun
      have hparts : (r.accounted, r.unmapped) = (["ext_code", "id", "amount"], ["note"]) :=
        Option.some_inj.1 hrun
      rw [Prod.mk.injEq] at hparts
      exact ⟨r, rfl, hparts.1, hparts.2, resolve_sound _ _ r hr⟩

end Resolution

end SchemaCrosswalk
