import SchemaCrosswalk.Attachment
import SchemaCrosswalk.Proofs.Lookups
import SchemaCrosswalk.Proofs.Names
import SchemaCrosswalk.Proofs.Resolution.Partition

/-!
# Modification — persisted mappings with new ones put over them

What was persisted names the columns as the tables spell them, so it is accepted again and applied
as it was. New mappings are put over it by name, before it is known which sink columns they lead
into. A persisted mapping gives way to every new one whose sink column has its name up to case,
also where the sink table has both spellings and the new mapping leads into the other one.

* `TablePair.IsExact`: mappings that spell their columns as the tables do
* `Resolution.resolve_persisted`: what was persisted is resolved as it was
* `TablePair.get?_modified_iff`: what is applied after a modification
* `Resolution.modify_keeps_iff`: when a modification keeps what it does not replace
-/

namespace SchemaCrosswalk

/-! ## Mappings of a document -/

namespace AttachmentDocument

variable {d : AttachmentDocument} {m : ExplicitMapping}

theorem mem_explicitMappings :
    m ∈ d.explicitMappings ↔ d.mappings.get? m.sinkColumn = some m.sourceColumn := by
  unfold explicitMappings
  rw [Dictionary.get?_eq_some_iff, List.mem_map]
  constructor
  · rintro ⟨e, hmem, rfl⟩
    exact hmem
  · intro hmem
    exact ⟨_, hmem, rfl⟩

end AttachmentDocument

theorem mem_mergeMappings {existing new : List ExplicitMapping} {m : ExplicitMapping} :
    m ∈ mergeMappings existing new ↔
      (m ∈ existing ∧ ∀ n ∈ new, ¬ Text.namesMatch n.sinkColumn m.sinkColumn = true) ∨
        m ∈ new := by
  unfold mergeMappings
  rw [List.mem_append, List.mem_filter, Bool.not_eq_true', List.any_eq_false]

theorem mergeMappings_nil (existing : List ExplicitMapping) :
    mergeMappings existing [] = existing := by
  simp [mergeMappings]

theorem ColumnSet.namesMatch_of_get? {s : ColumnSet} {name : String} {c : Column}
    (h : s.get? name = some c) : Text.namesMatch name c.name = true := by
  rw [Text.namesMatch_iff]
  rcases Option.or_eq_some_iff.1 h with hexact | ⟨-, hfolded⟩
  · have hname : c.name = name := by
      simpa using List.find?_some hexact
    rw [hname]
  · have hmatch : Text.namesMatch c.name name = true :=
      List.find?_some (p := fun k : Column => Text.namesMatch k.name name) hfolded
    exact (Text.namesMatch_iff.1 hmatch).symm

namespace TablePair

variable {p q : TablePair} {explicit new : List ExplicitMapping} {m : ExplicitMapping}
variable {applied persisted : Dictionary String} {source sink : String}

/-! ## Mappings that spell their columns as the tables do -/

/-- A mapping that spells its columns as the tables do. -/
def IsExact (p : TablePair) (m : ExplicitMapping) : Prop :=
  ∃ s k, p.columnsOf m = some (s, k) ∧ s.name = m.sourceColumn ∧ k.name = m.sinkColumn

/-- Mappings that are spelled as in the tables send to a sink column what they say. -/
theorem mem_sourcesInto_of_isExact (h : ∀ m ∈ explicit, p.IsExact m) :
    source ∈ p.sourcesInto explicit sink ↔ ⟨source, sink⟩ ∈ explicit := by
  rw [mem_sourcesInto]
  constructor
  · rintro ⟨m, hm, s, k, hcols, hs, hk⟩
    rcases h m hm with ⟨s', k', hcols', hs', hk'⟩
    cases hcols.symm.trans hcols'
    have hmapping : m = ⟨source, sink⟩ := by
      rw [← hs, ← hk, hs', hk']
    rw [← hmapping]
    exact hm
  · intro hm
    rcases h _ hm with ⟨s, k, hcols, hs, hk⟩
    exact ⟨_, hm, s, k, hcols, hs, hk⟩

theorem mem_sourcesInto_append {others : List ExplicitMapping} :
    source ∈ p.sourcesInto (explicit ++ others) sink ↔
      source ∈ p.sourcesInto explicit sink ∨ source ∈ p.sourcesInto others sink := by
  unfold sourcesInto sourcesOf
  rw [List.filterMap_append, List.filter_append, List.map_append, List.mem_append]

/-- The tables of two pairs have the same columns; which types fit may differ. -/
structure SameColumns (p q : TablePair) : Prop where
  source_eq : q.source = p.source
  sink_eq : q.sink = p.sink

theorem SameColumns.refl (p : TablePair) : p.SameColumns p := ⟨rfl, rfl⟩

/-- What was applied names two columns that fit, by the names that they have. -/
theorem columnsOf_of_get?_applied (hsame : p.SameColumns q)
    (h : p.explicitMappings explicit = .ok applied) (hget : applied.get? sink = some source) :
    ∃ s k, q.columnsOf ⟨source, sink⟩ = some (s, k) ∧ s.name = source ∧ k.name = sink ∧
      p.canPopulate s k = true := by
  rcases fits_of_get?_applied h hget with ⟨s, hs, k, hk, hsource, hsink, hfits⟩
  refine ⟨s, k, columnsOf_eq_some_iff.2 ⟨?_, ?_⟩, hsource, hsink, hfits⟩
  · rw [hsame.source_eq, ← hsource]
    exact ColumnSet.get?_self hs
  · rw [hsame.sink_eq, ← hsink]
    exact ColumnSet.get?_self hk

theorem isExact_persisted {d : AttachmentDocument} (hsame : p.SameColumns q)
    (h : p.explicitMappings explicit = .ok d.mappings) (hm : m ∈ d.explicitMappings) :
    q.IsExact m := by
  have hget := AttachmentDocument.mem_explicitMappings.1 hm
  rcases columnsOf_of_get?_applied hsame h hget with ⟨s, k, hcols, hs, hk, -⟩
  exact ⟨s, k, hcols, hs, hk⟩

/-! ## What was persisted is accepted again -/

/-- Mappings that fit are accepted if they send to every sink column what a dictionary has there,
and then that dictionary is applied. -/
theorem explicitMappings_eq_ok_of_get?_iff
    (hfits : ∀ m ∈ explicit, ∃ s k, p.columnsOf m = some (s, k) ∧ p.canPopulate s k = true)
    (hget : ∀ sink source,
      applied.get? sink = some source ↔ source ∈ p.sourcesInto explicit sink) :
    p.explicitMappings explicit = .ok applied := by
  have hsingle : ∀ sink sources, (p.sourcesBySink explicit).get? sink = some sources →
      sources.length ≤ 1 := by
    intro sink sources hsources
    rw [eq_mentionedInto hsources]
    by_contra hseveral
    rcases one_lt_length_eraseDups_iff.1 (Nat.lt_of_not_le hseveral) with
      ⟨name, hname, other, hother, hne⟩
    -- Both are what the dictionary has at the sink column.
    have hsame := ((hget sink name).2 hname).symm.trans ((hget sink other).2 hother)
    exact hne (Option.some_inj.1 hsame)
  have hok := explicitMappings_eq_ok_iff.2 ⟨hfits, hsingle, rfl⟩
  have heq : applied = (p.sourcesBySink explicit).map fun _ sources => sources.getLastD "" :=
    Dictionary.ext_get? fun sink => Option.ext fun source =>
      (hget sink source).trans (get?_applied_iff hok).symm
  rw [heq]
  exact hok

variable {d : AttachmentDocument}

/-- The mappings of a document that holds what was applied are accepted, and the same is applied. -/
theorem explicitMappings_persisted (h : p.explicitMappings explicit = .ok d.mappings) :
    p.explicitMappings d.explicitMappings = .ok d.mappings := by
  refine explicitMappings_eq_ok_of_get?_iff ?_ ?_
  · intro m hm
    have hget := AttachmentDocument.mem_explicitMappings.1 hm
    rcases columnsOf_of_get?_applied (.refl p) h hget with ⟨s, k, hcols, -, -, hfits⟩
    exact ⟨s, k, hcols, hfits⟩
  · intro sink source
    rw [mem_sourcesInto_of_isExact fun m => isExact_persisted (.refl p) h,
      AttachmentDocument.mem_explicitMappings]

/-! ## What is applied after a modification -/

/-- After a modification a sink column has the source column that a new mapping sends to it, or the
persisted one if no new mapping has its name. -/
theorem get?_modified_iff (hsame : p.SameColumns q)
    (h : p.explicitMappings explicit = .ok d.mappings)
    (hnew : q.explicitMappings (mergeMappings d.explicitMappings new) = .ok applied) :
    applied.get? sink = some source ↔
      source ∈ q.sourcesInto new sink ∨
        d.mappings.get? sink = some source ∧
          ∀ m ∈ new, ¬ Text.namesMatch m.sinkColumn sink = true := by
  rw [get?_applied_iff hnew]
  unfold mergeMappings
  -- The persisted mappings that do not give way are spelled as in the tables.
  have hexact : ∀ m ∈ d.explicitMappings.filter fun old =>
      !new.any fun m => Text.namesMatch m.sinkColumn old.sinkColumn, q.IsExact m :=
    fun m hm => isExact_persisted hsame h (List.mem_of_mem_filter hm)
  rw [mem_sourcesInto_append, mem_sourcesInto_of_isExact hexact, List.mem_filter,
    AttachmentDocument.mem_explicitMappings, Bool.not_eq_true', List.any_eq_false]
  exact or_comm

theorem mem_sourcesInto_of_columnsOf {s k : Column} (hm : m ∈ new)
    (hcols : q.columnsOf m = some (s, k)) : s.name ∈ q.sourcesInto new k.name :=
  mem_sourcesInto.2 ⟨m, hm, s, k, hcols, rfl, rfl⟩

/-- No mapping sends anything to a sink column that none leads into. -/
theorem not_mem_sourcesInto {k : Column} (hk : k ∈ q.sink.columns) (hfree : ¬ q.IsMapped new k) :
    source ∉ q.sourcesInto new k.name := by
  intro hmem
  rcases mem_sourcesInto.1 hmem with ⟨m, hm, s, k', hcols, -, hname⟩
  have hget := (columnsOf_eq_some_iff.1 hcols).2
  rw [ColumnSet.eq_of_name_eq (ColumnSet.mem_of_get? hget) hk hname] at hget
  exact hfree ⟨m, hm, hget⟩

/-! ## Modifications that keep what they do not replace -/

/-- New mappings replace what was persisted for the sink columns that they lead into, and nothing
else. -/
structure ReplacesOnly (p : TablePair) (new : List ExplicitMapping)
    (persisted applied : Dictionary String) : Prop where
  replaced : ∀ m ∈ new, ∀ s k, p.columnsOf m = some (s, k) → applied.get? k.name = some s.name
  kept : ∀ k ∈ p.sink.columns, ¬ p.IsMapped new k →
    applied.get? k.name = persisted.get? k.name

/-- Every persisted mapping that gives way by the name of its sink column is replaced by a new one
into that column. -/
def ReplacesMatched (p : TablePair) (new : List ExplicitMapping) (persisted : Dictionary String) :
    Prop :=
  ∀ k ∈ p.sink.columns, k.name ∈ persisted.keys →
    (∃ m ∈ new, Text.namesMatch m.sinkColumn k.name = true) → p.IsMapped new k

/-- The names of the sink columns differ in more than case. -/
def SinkNamesDiffer (p : TablePair) : Prop :=
  ∀ k ∈ p.sink.columns, ∀ k' ∈ p.sink.columns, Text.namesMatch k.name k'.name = true → k = k'

theorem replacesOnly_iff (hsame : p.SameColumns q)
    (h : p.explicitMappings explicit = .ok d.mappings)
    (hnew : q.explicitMappings (mergeMappings d.explicitMappings new) = .ok applied) :
    q.ReplacesOnly new d.mappings applied ↔ q.ReplacesMatched new d.mappings := by
  have hget : ∀ {sink source : String}, applied.get? sink = some source ↔
      source ∈ q.sourcesInto new sink ∨ d.mappings.get? sink = some source ∧
        ∀ m ∈ new, ¬ Text.namesMatch m.sinkColumn sink = true := get?_modified_iff hsame h hnew
  constructor
  · rintro ⟨-, hkept⟩ k hk hkey ⟨m, hm, hmatch⟩
    by_contra hfree
    rcases Option.isSome_iff_exists.1 (Dictionary.contains_iff_mem_keys.2 hkey) with
      ⟨source, hsource⟩
    -- The persisted mapping is not lost, though it gives way to the new one.
    rcases hget.1 ((hkept k hk hfree).trans hsource) with hinto | ⟨-, hnone⟩
    · exact not_mem_sourcesInto hk hfree hinto
    · exact hnone m hm hmatch
  · intro hmatched
    constructor
    · intro m hm s k hcols
      exact hget.2 (Or.inl (mem_sourcesInto_of_columnsOf hm hcols))
    · intro k hk hfree
      refine Option.ext fun source => hget.trans ?_
      constructor
      · rintro (hinto | ⟨hsource, -⟩)
        · exact absurd hinto (not_mem_sourcesInto hk hfree)
        · exact hsource
      · intro hsource
        have hkey : k.name ∈ d.mappings.keys :=
          Dictionary.contains_iff_mem_keys.1 (Option.isSome_iff_exists.2 ⟨source, hsource⟩)
        exact Or.inr ⟨hsource, fun m hm hmatch => hfree (hmatched k hk hkey ⟨m, hm, hmatch⟩)⟩

/-- Where the names of sink columns differ in more than case, a mapping leads into the column whose
name it has. -/
theorem replacesMatched_of_sinkNamesDiffer (hdiffer : q.SinkNamesDiffer)
    (hcolumns : ∀ m ∈ new, ∃ s k, q.columnsOf m = some (s, k)) :
    q.ReplacesMatched new persisted := by
  rintro k hk - ⟨m, hm, hmatch⟩
  rcases hcolumns m hm with ⟨s, k', hcols⟩
  have hget := (columnsOf_eq_some_iff.1 hcols).2
  have hnames : Text.namesMatch k'.name k.name = true := by
    have hfound := Text.namesMatch_iff.1 (ColumnSet.namesMatch_of_get? hget)
    rw [Text.namesMatch_iff, ← hfound]
    exact Text.namesMatch_iff.1 hmatch
  have hsame := hdiffer k' (ColumnSet.mem_of_get? hget) k hk hnames
  rw [hsame] at hget
  exact ⟨m, hm, hget⟩

end TablePair

namespace Resolution

variable {p q : TablePair} {explicit new : List ExplicitMapping} {r r' : Resolution}
variable {warnings : List MappingWarning}

theorem explicitMappings_of_resolve (h : resolve p explicit = .ok r) :
    p.explicitMappings explicit = .ok r.applied := by
  rcases resolve_eq_ok_iff.1 h with ⟨applied, happlied, rfl⟩
  exact happlied

theorem resolveForAttach_eq_ok (h : resolveForAttach p explicit = .ok (r, warnings)) :
    resolve p explicit = .ok r := by
  unfold resolveForAttach at h
  cases hresolve : resolve p explicit with
  | error fault =>
      rw [hresolve] at h
      cases h
  | ok found =>
      rw [hresolve] at h
      simp only [Bind.bind, Except.bind] at h
      split at h
      · cases h
        rfl
      · cases h

theorem resolveForModify_eq_ok_iff :
    resolveForModify p explicit = .ok (r, warnings) ↔
      resolve p explicit = .ok r ∧ warnings = r.warnings := by
  unfold resolveForModify
  cases resolve p explicit with
  | error fault => simp [Bind.bind, Except.bind]
  | ok found =>
      simp only [Bind.bind, Except.bind, Pure.pure, Except.pure, Except.ok.injEq, Prod.mk.injEq]
      constructor
      · rintro ⟨rfl, rfl⟩
        exact ⟨rfl, rfl⟩
      · rintro ⟨rfl, rfl⟩
        exact ⟨rfl, rfl⟩

/-- What was persisted is resolved as it was. -/
theorem resolve_persisted (h : resolve p explicit = .ok r) (key : AttachmentKey)
    (time : Option Timestamp) :
    resolve p (mergeMappings (AttachmentDocument.explicitMappings ⟨key, time, r.applied⟩) []) =
      .ok r := by
  rcases resolve_eq_ok_iff.1 h with ⟨applied, happlied, rfl⟩
  rw [mergeMappings_nil]
  exact resolve_eq_ok_iff.2
    ⟨applied, TablePair.explicitMappings_persisted (d := ⟨key, time, applied⟩) happlied, rfl⟩

/-- A modification that succeeds keeps what it does not replace exactly if every persisted mapping
that has the name of a new one gives way to a new mapping into its own column. This is always so
where the names of the sink columns differ in more than case. -/
theorem modify_keeps_iff (hsame : p.SameColumns q) (h : resolve p explicit = .ok r)
    {key : AttachmentKey} {time : Option Timestamp}
    (hmodify : resolveForModify q
      (mergeMappings (AttachmentDocument.explicitMappings ⟨key, time, r.applied⟩) new) =
        .ok (r', warnings)) :
    (q.ReplacesOnly new r.applied r'.applied ↔ q.ReplacesMatched new r.applied) ∧
      (q.SinkNamesDiffer → q.ReplacesOnly new r.applied r'.applied) := by
  have hbefore := explicitMappings_of_resolve h
  have hafter := explicitMappings_of_resolve (resolveForModify_eq_ok_iff.1 hmodify).1
  have hiff := TablePair.replacesOnly_iff (d := ⟨key, time, r.applied⟩) hsame hbefore hafter
  refine ⟨hiff, fun hdiffer => hiff.2 ?_⟩
  refine TablePair.replacesMatched_of_sinkNamesDiffer hdiffer fun m hm => ?_
  rcases (TablePair.explicitMappings_eq_ok_iff.1 hafter).1 m (mem_mergeMappings.2 (Or.inr hm)) with
    ⟨s, k, hcols, -⟩
  exact ⟨s, k, hcols⟩

/-- People and their contacts, whose columns `Label` and `label` are two columns. -/
def contactTables : TablePair where
  checker := { map := {
    sourceEngine := "mssql", sinkEngine := "postgres", origin := "contacts.yaml"
    sourceAliases := ⟨Dictionary.empty, true⟩
    sinkAliases := ⟨Dictionary.empty, true⟩
    casts := Dictionary.ofList [("nvarchar", "text")]
    wider := Dictionary.empty
    wildcard := Dictionary.empty
    stripsParameters := true } }
  sourceTable := "dbo.People"
  source := ⟨[⟨"First", "nvarchar(50)", true, false, false⟩,
    ⟨"Last", "nvarchar(50)", true, false, false⟩,
    ⟨"Nick", "nvarchar(50)", true, false, false⟩], by decide⟩
  sink := ⟨[⟨"Label", "text", true, false, false⟩, ⟨"label", "text", true, false, false⟩],
    by decide⟩

/-- The names of the contacts, as they are persisted first. -/
def contactNames : Dictionary String := Dictionary.ofList [("Label", "First"), ("label", "Last")]

/-- The document that holds them. -/
def contactDocument : AttachmentDocument where
  key := ⟨"dbo.People", "postgres", "public.contacts"⟩
  mappings := contactNames

theorem resolve_of_toOption {applied : Dictionary String}
    (h : (p.explicitMappings explicit).toOption = some applied) :
    resolve p explicit = .ok (ofApplied p applied) :=
  resolve_eq_ok_iff.2 ⟨applied, eq_ok_of_toOption h, rfl⟩

theorem resolve_contactTables :
    resolve contactTables [⟨"First", "Label"⟩, ⟨"Last", "label"⟩] =
      .ok (ofApplied contactTables contactNames) :=
  resolve_of_toOption (by decide +kernel)

theorem modify_keeps_iff_contactTables :
    ∃ r warnings,
      resolveForModify contactTables (mergeMappings contactDocument.explicitMappings
        [⟨"Nick", "Label"⟩, ⟨"Last", "label"⟩]) = .ok (r, warnings) ∧
        contactTables.ReplacesOnly [⟨"Nick", "Label"⟩, ⟨"Last", "label"⟩] contactNames
          r.applied := by
  have hresolve : resolve contactTables (mergeMappings contactDocument.explicitMappings
      [⟨"Nick", "Label"⟩, ⟨"Last", "label"⟩]) =
        .ok (ofApplied contactTables (Dictionary.ofList [("Label", "Nick"), ("label", "Last")])) :=
    resolve_of_toOption (by decide +kernel)
  have hmodify := resolveForModify_eq_ok_iff.2 ⟨hresolve, rfl⟩
  have hmatched : contactTables.ReplacesMatched [⟨"Nick", "Label"⟩, ⟨"Last", "label"⟩]
      contactNames := by
    intro k hk _ _
    rcases List.mem_pair.1 hk with rfl | rfl
    · exact ⟨⟨"Nick", "Label"⟩, by simp, by decide +kernel⟩
    · exact ⟨⟨"Last", "label"⟩, by simp, by decide +kernel⟩
  exact ⟨_, _, hmodify,
    (modify_keeps_iff (.refl _) resolve_contactTables hmodify).1.2 hmatched⟩

/-- A new mapping into `Label` loses the persisted one into `label`, which it does not lead into. -/
theorem other_case_is_lost :
    resolve contactTables [⟨"First", "Label"⟩, ⟨"Last", "label"⟩] =
        .ok (ofApplied contactTables contactDocument.mappings) ∧
      (∃ r warnings,
        resolveForModify contactTables (mergeMappings contactDocument.explicitMappings
          [⟨"Nick", "Label"⟩]) = .ok (r, warnings) ∧ r.applied.get? "label" = none) ∧
      contactDocument.mappings.get? "label" = some "Last" ∧
      ¬ contactTables.IsMapped [⟨"Nick", "Label"⟩] ⟨"label", "text", true, false, false⟩ := by
  have hresolve : resolve contactTables (mergeMappings contactDocument.explicitMappings
      [⟨"Nick", "Label"⟩]) =
        .ok (ofApplied contactTables (Dictionary.ofList [("Label", "Nick")])) :=
    resolve_of_toOption (by decide +kernel)
  refine ⟨resolve_contactTables, ⟨_, _, resolveForModify_eq_ok_iff.2 ⟨hresolve, rfl⟩, ?_⟩, ?_, ?_⟩
  · decide +kernel
  · decide +kernel
  · rintro ⟨m, hm, hget⟩
    cases List.mem_singleton.1 hm
    exact absurd hget (by decide +kernel)

end Resolution

end SchemaCrosswalk
