import SchemaCrosswalk.Proofs.CompatibilityMap.Entries

/-!
# Declarations — which documents declare a map, and what the map says

A document declares a map if all its types have names, its aliases lead one hop to one type each,
and each source type is cast directly to one sink type. Types are compared in canonical form, so
several entries may speak of one type: casts must then agree, and widenings are collected. What the
map says of two types is what some entry of the document says of them.

* `AliasTable.IsConsistent`: the aliases of one side can be used
* `CompatibilityMap.Document.IsConsistent`: a document can be used
* `CompatibilityMap.Means`: what a map says, told by its document
* `CompatibilityMap.declares`: the documents that can be used declare a map, and it says so
-/

namespace SchemaCrosswalk

/-! ## Aliases -/

namespace AliasTable

variable {raw : Dictionary String} {strips : Bool} {side : Side}

/-- The aliases of one side can be used: they and their targets have names, none has two targets, and
no target is an alias for another type. Aliases keep their parameters, whatever their targets do. -/
structure IsConsistent (raw : Dictionary String) (strips : Bool) : Prop where
  named : ∀ e ∈ raw.entries,
    Spelling.normalize e.1 ≠ "" ∧ Spelling.canonical e.2 strips ≠ ""
  single : ∀ e ∈ raw.entries, ∀ f ∈ raw.entries,
    Spelling.normalize e.1 = Spelling.normalize f.1 →
      Spelling.canonical e.2 strips = Spelling.canonical f.2 strips
  oneHop : ∀ e ∈ raw.entries, ∀ f ∈ raw.entries,
    Spelling.normalize f.1 = Spelling.canonical e.2 strips →
      Spelling.canonical f.2 strips = Spelling.canonical e.2 strips

theorem exists_ofEntries_iff :
    (∃ t, ofEntries raw strips side = .ok t) ↔ IsConsistent raw strips := by
  have hinserts := inserts_add side strips
  constructor
  · rintro ⟨t, h⟩
    obtain ⟨-, hentries, -⟩ := ofEntries_eq_ok h
    obtain ⟨hnamed, hsingle⟩ := hinserts.exists_foldlM_empty_iff.1 ⟨_, hentries⟩
    refine ⟨hnamed, hsingle, fun e he f hf hname => ?_⟩
    have htarget := (get?_of_ofEntries_iff h).2 ⟨e, he, rfl, rfl⟩
    have hnext := (get?_of_ofEntries_iff h).2 ⟨f, hf, hname, rfl⟩
    exact eq_of_get?_target h htarget hnext
  · rintro ⟨hnamed, hsingle, hhop⟩
    obtain ⟨entries, hentries⟩ := hinserts.exists_foldlM_empty_iff.2 ⟨hnamed, hsingle⟩
    have hchain : chain? entries = none := by
      rw [chain?_eq_none_iff]
      intro name target next htarget hnext
      obtain ⟨e, he, -, rfl⟩ := (hinserts.get?_of_foldlM hentries _ _).1 htarget
      obtain ⟨f, hf, hname, rfl⟩ := (hinserts.get?_of_foldlM hentries _ _).1 hnext
      exact hhop e he f hf hname
    refine ⟨⟨entries, strips⟩, bind_eq_ok_iff.2 ⟨entries, hentries, ?_⟩⟩
    rw [hchain]

end AliasTable

namespace CompatibilityMap

variable {d : Document} {strips : Bool} {m : CompatibilityMap}

/-! ## Documents -/

/-- The spellings of types in the casts and widenings of a document, source types and sink types. -/
def Document.typeNames (d : Document) : List String :=
  d.mappings.entries.flatMap (fun e => [e.1, e.2]) ++
    d.compatibility.entries.flatMap fun e => e.1 :: e.2

/-- A document can be used: its aliases can, the reserved key is not cast, all types have names, and
no source type is cast to two sink types. -/
structure Document.IsConsistent (d : Document) (strips : Bool) : Prop where
  sourceAliases : AliasTable.IsConsistent d.sourceAliases strips
  sinkAliases : AliasTable.IsConsistent d.sinkAliases strips
  unreserved : ∀ e ∈ d.mappings.entries, Text.trim e.1 ≠ wildcardKey
  named : ∀ name ∈ d.typeNames, Spelling.canonical name strips ≠ ""
  single : ∀ e ∈ d.mappings.entries, ∀ f ∈ d.mappings.entries,
    Spelling.canonical e.1 strips = Spelling.canonical f.1 strips →
      Spelling.canonical e.2 strips = Spelling.canonical f.2 strips

theorem exists_casts_iff :
    (∃ casts, d.mappings.entries.foldlM (addCast strips) Dictionary.empty = .ok casts) ↔
      (∀ e ∈ d.mappings.entries, Text.trim e.1 ≠ wildcardKey ∧
        Spelling.canonical e.1 strips ≠ "" ∧ Spelling.canonical e.2 strips ≠ "") ∧
      ∀ e ∈ d.mappings.entries, ∀ f ∈ d.mappings.entries,
        Spelling.canonical e.1 strips = Spelling.canonical f.1 strips →
          Spelling.canonical e.2 strips = Spelling.canonical f.2 strips :=
  (inserts_addCast strips).exists_foldlM_empty_iff

/-- The reserved key is not blank. -/
theorem canonical_ne_empty_of_wildcardKey {key : String} (h : Text.trim key = wildcardKey)
    (strips : Bool) : Spelling.canonical key strips ≠ "" := by
  rw [← Spelling.canonical_trim, h]
  cases strips with
  | false => decide +kernel
  | true => decide +kernel

theorem exists_canonicalType_iff (part : String) {name : String} :
    (∃ type, canonicalType strips part name = .ok type) ↔
      Spelling.canonical name strips ≠ "" := by
  simp [canonicalType_eq_ok_iff]

/-- Widenings are collected if all their types have names, whatever has been collected before. -/
theorem exists_addWidenings_iff (wider : Dictionary NameSet × NameSet) (e : String × List String) :
    (∃ wider', addWidenings strips wider e = .ok wider') ↔
      ∀ name ∈ e.1 :: e.2, Spelling.canonical name strips ≠ "" := by
  have htargets : (∃ targets, e.2.mapM (canonicalType strips "compatibility") = .ok targets) ↔
      ∀ name ∈ e.2, Spelling.canonical name strips ≠ "" :=
    exists_mapM_ok_iff.trans (forall₂_congr fun _ _ => exists_canonicalType_iff _)
  rw [List.forall_mem_cons, ← htargets, addWidenings, exists_bind_ok_iff]
  split
  · next hkey =>
    -- The reserved key is not turned into a type, but it would be no obstacle if it were.
    have hnamed := canonical_ne_empty_of_wildcardKey hkey strips
    simp [hnamed]
  · rw [← exists_canonicalType_iff "compatibility", and_comm, ← exists_and_right]
    refine exists_congr fun targets => and_congr_right fun _ => ?_
    rw [exists_bind_ok_iff]
    simp

theorem exists_widenings_iff :
    (∃ wider, d.compatibility.entries.foldlM (addWidenings strips)
        (Dictionary.empty, Dictionary.empty) = .ok wider) ↔
      ∀ e ∈ d.compatibility.entries, ∀ name ∈ e.1 :: e.2, Spelling.canonical name strips ≠ "" :=
  exists_foldlM_ok_iff exists_addWidenings_iff

theorem Document.forall_typeNames_iff {p : String → Prop} :
    (∀ name ∈ d.typeNames, p name) ↔
      (∀ e ∈ d.mappings.entries, p e.1 ∧ p e.2) ∧
        ∀ e ∈ d.compatibility.entries, ∀ name ∈ e.1 :: e.2, p name := by
  unfold typeNames
  rw [List.forall_mem_append, List.forall_mem_flatMap, List.forall_mem_flatMap]
  simp only [List.forall_mem_cons, List.not_mem_nil, false_imp_iff, implies_true, and_true]

theorem exists_ofDocument_iff {sourceEngine sinkEngine origin : String} :
    (∃ m, ofDocument d sourceEngine sinkEngine origin strips = .ok m) ↔ d.IsConsistent strips := by
  have hparts : (∃ m, ofDocument d sourceEngine sinkEngine origin strips = .ok m) ↔
      AliasTable.IsConsistent d.sourceAliases strips ∧
        AliasTable.IsConsistent d.sinkAliases strips ∧
          (∃ casts, d.mappings.entries.foldlM (addCast strips) Dictionary.empty = .ok casts) ∧
            ∃ wider, d.compatibility.entries.foldlM (addWidenings strips)
              (Dictionary.empty, Dictionary.empty) = .ok wider := by
    simp only [ofDocument, mapError_eq_ok_iff, ofDeclaration, exists_bind_ok_iff]
    rw [← AliasTable.exists_ofEntries_iff, ← AliasTable.exists_ofEntries_iff]
    constructor
    · rintro ⟨source, hsource, sink, hsink, casts, hcasts, wider, hwider, -⟩
      exact ⟨⟨source, hsource⟩, ⟨sink, hsink⟩, ⟨casts, hcasts⟩, wider, hwider⟩
    · rintro ⟨⟨source, hsource⟩, ⟨sink, hsink⟩, ⟨casts, hcasts⟩, wider, hwider⟩
      exact ⟨source, hsource, sink, hsink, casts, hcasts, wider, hwider, _, rfl⟩
  rw [hparts, exists_casts_iff, exists_widenings_iff]
  constructor
  · rintro ⟨hsource, hsink, ⟨hcasts, hsingle⟩, hwidenings⟩
    refine ⟨hsource, hsink, fun e he => (hcasts e he).1, ?_, hsingle⟩
    exact Document.forall_typeNames_iff.2 ⟨fun e he => (hcasts e he).2, hwidenings⟩
  · rintro ⟨hsource, hsink, hreserved, hnamed, hsingle⟩
    obtain ⟨hcasts, hwidenings⟩ := Document.forall_typeNames_iff.1 hnamed
    exact ⟨hsource, hsink, ⟨fun e he => ⟨hreserved e he, hcasts e he⟩, hsingle⟩, hwidenings⟩

/-! ## Meaning -/

/-- What a map says of two types is what some entry of its document says of them. -/
structure Means (m : CompatibilityMap) (d : Document) (strips : Bool) : Prop where
  isDirectCast_iff : ∀ source sink, m.isDirectCast source sink = true ↔
    ∃ e ∈ d.mappings.entries,
      Spelling.canonical e.1 strips = source ∧ Spelling.canonical e.2 strips = sink
  isWidening_iff : ∀ source sink, m.isWidening source sink = true ↔
    ∃ e ∈ d.compatibility.entries,
      ListsWidening strips source sink e ∨ ListsWildcard strips sink e
  isWildcard_iff : ∀ sink, m.isWildcard sink = true ↔
    ∃ e ∈ d.compatibility.entries, ListsWildcard strips sink e

theorem isWidening_iff_isWider {source sink : CanonicalType} :
    m.isWidening source sink = true ↔
      IsWider m.wider source sink ∨ m.isWildcard sink = true := by
  unfold isWidening IsWider
  rw [Bool.or_eq_true]
  cases m.wider.get? source with
  | none => simp [Dictionary.contains]
  | some names => simp

theorem Reflects.means (h : m.Reflects d strips) : m.Means d strips where
  isDirectCast_iff := by
    intro source sink
    rw [← h.casts]
    exact beq_iff_eq
  isWidening_iff := by
    intro source sink
    rw [isWidening_iff_isWider, h.wider, isWildcard, h.wildcard]
    simp only [and_or_left, exists_or]
  isWildcard_iff := h.wildcard

/-- The documents that can be used are those that declare a map, and the map says of all types what
the document says of them. -/
theorem declares (d : Document) (sourceEngine sinkEngine origin : String) (strips : Bool) :
    ((∃ m, ofDocument d sourceEngine sinkEngine origin strips = .ok m) ↔ d.IsConsistent strips) ∧
      ∀ m, ofDocument d sourceEngine sinkEngine origin strips = .ok m → m.Means d strips :=
  ⟨exists_ofDocument_iff, fun _ h => (reflects_of_ofDocument h).means⟩

theorem declares_numbers : numbers.IsConsistent true ∧ numbersMap.Means numbers true := by
  obtain ⟨hconsistent, hmeans⟩ := declares numbers "mssql" "postgres" "numbers.yaml" true
  exact ⟨hconsistent.1 ⟨numbersMap, ofDocument_numbers⟩, hmeans numbersMap ofDocument_numbers⟩

end CompatibilityMap

end SchemaCrosswalk
