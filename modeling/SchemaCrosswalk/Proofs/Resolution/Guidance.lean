import SchemaCrosswalk.Proofs.Resolution.Modification

/-!
# Guidance — what is suggested for required columns that stay empty

Each required sink column that stays empty gets guidance of its own. Where a source column has its
name, that column clashes, and only source columns that fit are suggested. Where none has its name,
the suggestions are filled up with other source columns. There are never more than five.

* `TablePair.firstFitting`: the first source columns that may populate a sink column
* `TablePair.FillsUp`: suggestions with other source columns after them
* `TablePair.Guides`: what the guidance on a sink column says
* `Resolution.guides_unmapped`: each column that stays empty has such guidance, in order
-/

namespace SchemaCrosswalk

namespace TablePair

variable {p : TablePair} {applied : Dictionary String} {k s : Column}

/-! ## Source columns that fit -/

/-- The first five source columns that may populate a sink column, or all if there are fewer. -/
def firstFitting (p : TablePair) (k : Column) : List String :=
  ((p.source.columns.filter fun s => p.canPopulate s k).take 5).map (·.name)

theorem suggestions_eq_firstFitting (p : TablePair) (k : Column) :
    p.suggestions k = p.firstFitting k :=
  List.map_take.symm

theorem firstFitting_sublist (p : TablePair) (k : Column) :
    (p.firstFitting k).Sublist p.source.names :=
  ((List.take_sublist _ _).trans List.filter_sublist).map _

theorem length_firstFitting_le (p : TablePair) (k : Column) : (p.firstFitting k).length ≤ 5 := by
  rw [firstFitting, List.length_map]
  exact List.length_take_le 5 _

/-! ## Suggestions that are filled up -/

/-- Suggestions with the first other source columns after them, up to five in all. -/
structure FillsUp (p : TablePair) (suggested available : List String) : Prop where
  nodup : available.Nodup
  subset : available ⊆ p.source.names
  length_eq : available.length = min 5 p.source.size
  eq_append : available = suggested ++
    (p.source.names.filter fun name => name ∉ suggested).take (5 - suggested.length)

/-- A name is added if there is room and it is not there yet. -/
theorem fillUp_cons (names others : List String) (name : String) :
    fillUp names (name :: others) =
      if 5 ≤ names.length ∨ name ∈ names then fillUp names others
      else fillUp (names ++ [name]) others := by
  by_cases hfull : 5 ≤ names.length <;> by_cases hseen : name ∈ names <;>
    simp [fillUp, suggestionLimit, hfull, hseen]

/-- Names are filled up with the first others that are not among them. -/
theorem fillUp_eq_append :
    ∀ {others : List String} (names : List String), others.Nodup →
      fillUp names others =
        names ++ (others.filter fun name => name ∉ names).take (5 - names.length)
  | [], names, _ => by simp [fillUp]
  | name :: others, names, hnodup => by
      have hnew := (List.nodup_cons.1 hnodup).1
      have hrest := (List.nodup_cons.1 hnodup).2
      by_cases hfull : 5 ≤ names.length
      · simp [fillUp_cons, hfull, fillUp_eq_append names hrest, Nat.sub_eq_zero_of_le hfull]
      · by_cases hseen : name ∈ names
        · simp [fillUp_cons, hseen, fillUp_eq_append names hrest]
        · -- The name is added, and it is none of those that may follow.
          have hothers : (others.filter fun other => other ∉ names ++ [name]) =
              others.filter fun other => other ∉ names := by
            refine List.filter_congr fun other hother => ?_
            have hne : other ≠ name := fun heq => hnew (heq ▸ hother)
            simp [hne]
          have hroom : 5 - names.length = 5 - (names ++ [name]).length + 1 := by
            rw [List.length_append, List.length_singleton]
            omega
          calc fillUp names (name :: others)
              = fillUp (names ++ [name]) others := by simp [fillUp_cons, hfull, hseen]
            _ = names ++ [name] ++ (others.filter fun other => other ∉ names).take
                  (5 - (names ++ [name]).length) := by
                rw [fillUp_eq_append _ hrest, hothers]
            _ = names ++ ((name :: others).filter fun other => other ∉ names).take
                  (5 - names.length) := by
                rw [hroom, List.filter_cons_of_pos (by simp [hseen]), List.take_succ_cons,
                  List.append_assoc, List.singleton_append]

theorem fillsUp_fillUp {suggested : List String} (hsub : suggested.Sublist p.source.names)
    (hlength : suggested.length ≤ 5) :
    p.FillsUp suggested (fillUp suggested p.source.names) := by
  have hnames := p.source.nodup_names
  have hfill := fillUp_eq_append suggested hnames
  have hdisjoint : suggested.Disjoint (p.source.names.filter fun name => name ∉ suggested) := by
    intro name hname hother
    simp [hname] at hother
  have hnodup : (suggested ++ p.source.names.filter fun name => name ∉ suggested).Nodup :=
    (hnames.sublist hsub).append (hnames.filter _) hdisjoint
  have htaken : (fillUp suggested p.source.names).Sublist
      (suggested ++ p.source.names.filter fun name => name ∉ suggested) := by
    rw [hfill]
    exact (List.Sublist.refl _).append (List.take_sublist _ _)
  -- The suggestions and the other names are all names there are.
  have hall : (suggested ++ p.source.names.filter fun name => name ∉ suggested).Perm
      p.source.names := by
    refine (List.perm_ext_iff_of_nodup hnodup hnames).2 fun name => ?_
    have hin : name ∈ suggested → name ∈ p.source.names := fun hname => hsub.subset hname
    by_cases hname : name ∈ suggested
    · simp [hname, hin hname]
    · simp [hname]
  have hsize : suggested.length +
      (p.source.names.filter fun name => name ∉ suggested).length = p.source.size := by
    have hcount := hall.length_eq
    rw [List.length_append] at hcount
    rw [hcount, ColumnSet.names, List.length_map, ColumnSet.size]
  exact {
    nodup := hnodup.sublist htaken
    subset := fun name hname => hall.subset (htaken.subset hname)
    length_eq := by
      rw [hfill, List.length_append, List.length_take]
      omega
    eq_append := hfill }

/-! ## Guidance on one column -/

/-- What the guidance on a sink column says: a source column has its name but cannot populate it,
or none has its name. -/
inductive Guides (p : TablePair) (k : Column) : Guidance → Prop
  | clash {s : Column} :
      p.source.get? k.name = some s →
        Guides p k (.incompatibleIdentity k.name k.type (p.effectiveType s) (p.firstFitting k))
  | absent {available : List String} :
      p.source.get? k.name = none → p.FillsUp (p.firstFitting k) available →
        Guides p k (.noIdentityCandidate k.name k.type available)

/-- A column without a namesake does not clash. -/
theorem find?_clashes_of_none (hk : k ∈ p.sink.columns) (hs : p.source.get? k.name = none) :
    (p.clashes applied).find? (fun i => i.sinkColumn == k.name) = none := by
  refine List.find?_eq_none.2 fun i hi hname => ?_
  rcases mem_clashes.1 hi with ⟨k', hk', -, s, hs', -, rfl⟩
  have hsame : k' = k := ColumnSet.eq_of_name_eq hk' hk (by simpa using hname)
  rw [hsame, hs] at hs'
  cases hs'

/-- A column without a mapping clashes with its namesake if that does not fit, and with no other
column. -/
theorem find?_clashes_of_some (hk : k ∈ p.sink.columns) (hfree : applied.contains k.name = false)
    (hs : p.source.get? k.name = some s) (hclash : p.canPopulate s k = false) :
    (p.clashes applied).find? (fun i => i.sinkColumn == k.name) =
      some ⟨k.name, p.effectiveType s, k.type⟩ := by
  have hmem : ⟨k.name, p.effectiveType s, k.type⟩ ∈ p.clashes applied :=
    mem_clashes.2 ⟨k, hk, hfree, s, hs, hclash, rfl⟩
  cases hfind : (p.clashes applied).find? (fun i => i.sinkColumn == k.name) with
  | none =>
      have hno := List.find?_eq_none.1 hfind _ hmem
      simp at hno
  | some i =>
      rcases mem_clashes.1 (List.mem_of_find?_eq_some hfind) with ⟨k', hk', -, s', hs', -, rfl⟩
      have hsame : k' = k :=
        ColumnSet.eq_of_name_eq hk' hk (by simpa using List.find?_some hfind)
      subst hsame
      rw [hs, Option.some_inj] at hs'
      rw [hs']

theorem guides_guidanceFor (hk : k ∈ p.emptyColumns applied) :
    p.Guides k (p.guidanceFor (p.clashes applied) k) := by
  rcases mem_emptyColumns.1 hk with ⟨hsink, -, hunfit, hfree⟩
  unfold guidanceFor
  rw [suggestions_eq_firstFitting]
  cases hs : p.source.get? k.name with
  | none =>
      rw [find?_clashes_of_none hsink hs]
      exact .absent hs
        (fillsUp_fillUp (p.firstFitting_sublist k) (p.length_firstFitting_le k))
  | some s =>
      -- The column stays empty, so its namesake does not fit.
      have hclash : p.canPopulate s k = false := by
        simpa [hasFittingNamesake, hs] using hunfit
      rw [find?_clashes_of_some hsink hfree hs hclash]
      exact .clash hs

end TablePair

namespace Resolution

variable {p : TablePair} {explicit : List ExplicitMapping} {r : Resolution}

/-- Each required column that stays empty has guidance of its own, in the order of the columns. -/
theorem guides_unmapped (h : resolve p explicit = .ok r) :
    List.Forall₂ (fun sink guidance => ∃ k ∈ p.sink.columns, k.name = sink ∧ p.Guides k guidance)
      r.unmapped r.guidance := by
  rcases resolve_eq_ok_iff.1 h with ⟨applied, -, rfl⟩
  rw [unmapped_eq_map_emptyColumns, guidance_eq_map_emptyColumns, List.forall₂_map_left_iff,
    List.forall₂_map_right_iff, List.forall₂_same]
  intro k hk
  exact ⟨k, (TablePair.mem_emptyColumns.1 hk).1, rfl, TablePair.guides_guidanceFor hk⟩

/-- The order tables with a replica that has to have an amount and a note. -/
def strictOrderTables : TablePair :=
  { orderTables with
    sink := ⟨[⟨"amount", "integer", false, false, false⟩,
      ⟨"note", "varchar(20)", false, false, false⟩], by decide⟩ }

theorem guides_unmapped_strictOrderTables :
    ∃ r, resolve strictOrderTables [] = .ok r ∧ r.unmapped = ["amount", "note"] ∧
      r.guidance =
        [.incompatibleIdentity "amount" "integer" "varchar(9)" ["id"],
          .noIdentityCandidate "note" "varchar(20)" ["ID", "Code", "Amount", "id"]] ∧
        List.Forall₂ (fun sink guidance =>
            ∃ k ∈ strictOrderTables.sink.columns,
              k.name = sink ∧ strictOrderTables.Guides k guidance) r.unmapped r.guidance := by
  have h : resolve strictOrderTables [] = .ok (ofApplied strictOrderTables Dictionary.empty) :=
    resolve_of_toOption (by decide +kernel)
  exact ⟨_, h, by decide +kernel, by decide +kernel, guides_unmapped h⟩

end Resolution

end SchemaCrosswalk
