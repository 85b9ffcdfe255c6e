import SchemaCrosswalk.Proofs.CompatibilityMap.Entries
import SchemaCrosswalk.Proofs.Distinct

/-!
# Candidates — the sink types that are suggested, and those that are accepted

A checker decides a cast by looking the sink type up in three lists of its map, and it suggests the
sink types of these lists, each once. The two agree on canonical types. A suggestion that is fed
back as a spelling is resolved and looked at for its sizes, though, and so it may be refused.

* `Checker.Decides`: the verdict that the three lists give
* `Checker.Enumerates`: what a checker decides, told by its suggestions
* `Checker.enumerates`: every checker decides so
* `Checker.Resubmits`: what becomes of a suggestion that is fed back
* `Checker.resubmits`: this is so for all maps that documents declare
-/

namespace SchemaCrosswalk

namespace Checker

variable {c : Checker} {source sink : String} {place : Option ColumnContext} {t : CanonicalType}

/-! ## The lists of a map -/

/-- The canonical type in effect for a source type at a place. -/
def sourceType (c : Checker) (source : String) (place : Option ColumnContext) : CanonicalType :=
  c.map.normalize (c.effectiveType source place) .source

/-- The canonical type of a sink type. -/
def sinkType (c : Checker) (sink : String) : CanonicalType := c.map.normalize sink .sink

/-- The sink type that a source type is cast to directly, if any. -/
def directTypes (c : Checker) (source : String) (place : Option ColumnContext) :
    List CanonicalType :=
  (c.map.directTarget? (c.sourceType source place)).toList

/-- The sink types that are listed as wider than a source type. -/
def widerTypes (c : Checker) (source : String) (place : Option ColumnContext) :
    List CanonicalType :=
  c.map.widenings (c.sourceType source place)

/-- The sink types that accept any source type. -/
def wildcardTypes (c : Checker) : List CanonicalType := c.map.wildcard.keys

/-- Parameters do not count for the map, and the type in effect declares larger sizes than the sink
type. -/
def Narrows (c : Checker) (source sink : String) (place : Option ColumnContext) : Prop :=
  c.map.stripsParameters = true ∧ Spelling.narrows (c.effectiveType source place) sink = true

theorem isDirectCast_iff :
    c.map.isDirectCast (c.sourceType source place) t = true ↔ t ∈ c.directTypes source place := by
  unfold directTypes CompatibilityMap.isDirectCast
  rw [beq_iff_eq, Option.mem_toList]

theorem isWildcard_iff : c.map.isWildcard t = true ↔ t ∈ c.wildcardTypes :=
  Dictionary.contains_iff_mem_keys

theorem nodup_directTypes (c : Checker) (source : String) (place : Option ColumnContext) :
    (c.directTypes source place).Nodup := by
  unfold directTypes
  cases c.map.directTarget? (c.sourceType source place) with
  | none => exact List.nodup_nil
  | some target => exact List.nodup_singleton target

theorem nodup_widerTypes (c : Checker) (source : String) (place : Option ColumnContext) :
    (c.widerTypes source place).Nodup :=
  Dictionary.nodup_keys _

theorem nodup_wildcardTypes (c : Checker) : c.wildcardTypes.Nodup := c.map.wildcard.nodup_keys

/-! ## Verdicts -/

/-- The verdict on a sink type is given by the first of three lists that has it. If sizes would be
lost the cast is narrowing, whichever list it is. -/
inductive Decides (direct wider wildcard : List CanonicalType) (sink : CanonicalType)
    (narrowed : Prop) : Verdict → Prop
  | directCast : sink ∈ direct → ¬ narrowed → Decides direct wider wildcard sink narrowed .directCast
  | widening :
      sink ∉ direct → sink ∈ wider → ¬ narrowed → Decides direct wider wildcard sink narrowed .widening
  | wildcard :
      sink ∉ direct → sink ∉ wider → sink ∈ wildcard → ¬ narrowed →
        Decides direct wider wildcard sink narrowed .wildcard
  | narrowing :
      sink ∈ direct ++ wider ++ wildcard → narrowed →
        Decides direct wider wildcard sink narrowed .narrowing
  | incompatible :
      sink ∉ direct ++ wider ++ wildcard → Decides direct wider wildcard sink narrowed .incompatible

namespace Decides

variable {direct wider wildcard : List CanonicalType} {sink : CanonicalType} {narrowed : Prop}
variable {verdict : Verdict}

theorem isCompatible_iff (h : Decides direct wider wildcard sink narrowed verdict) :
    verdict.isCompatible = true ↔ sink ∈ direct ++ wider ++ wildcard ∧ ¬ narrowed := by
  cases h with
  | directCast hdirect hkept => simp [Verdict.isCompatible, hdirect, hkept]
  | widening _ hwider hkept => simp [Verdict.isCompatible, hwider, hkept]
  | wildcard _ _ hwildcard hkept => simp [Verdict.isCompatible, hwildcard, hkept]
  | narrowing _ hnarrowed => simp [Verdict.isCompatible, hnarrowed]
  | incompatible hmem => simp only [Verdict.isCompatible, hmem, false_and, Bool.false_eq_true]

theorem eq_incompatible_iff (h : Decides direct wider wildcard sink narrowed verdict) :
    verdict = .incompatible ↔ sink ∉ direct ++ wider ++ wildcard := by
  cases h with
  | directCast hdirect _ => simp [hdirect]
  | widening _ hwider _ => simp [hwider]
  | wildcard _ _ hwildcard _ => simp [hwildcard]
  | narrowing hmem _ => simp only [reduceCtorEq, hmem, not_true]
  | incompatible hmem => simp only [hmem, not_false_eq_true]

/-- A cast that is allowed turns into a narrowing one if it loses sizes. -/
theorem narrow (h : Decides direct wider wildcard sink False verdict) (hnarrowed : narrowed) :
    Decides direct wider wildcard sink narrowed
      (if verdict.isCompatible then .narrowing else verdict) := by
  have hallowed := h.isCompatible_iff
  split
  · next hcompatible => exact .narrowing (hallowed.1 hcompatible).1 hnarrowed
  · next hrefused =>
    cases h with
    | incompatible hmem => exact .incompatible hmem
    | narrowing _ hfalse => exact hfalse.elim
    | _ => exact absurd rfl hrefused

/-- A cast that loses no sizes stays what it is. -/
theorem keep (h : Decides direct wider wildcard sink False verdict) (hkept : ¬ narrowed) :
    Decides direct wider wildcard sink narrowed verdict := by
  cases h with
  | directCast hdirect _ => exact .directCast hdirect hkept
  | widening hdirect hwider _ => exact .widening hdirect hwider hkept
  | wildcard hdirect hwider hwildcard _ => exact .wildcard hdirect hwider hwildcard hkept
  | narrowing _ hfalse => exact hfalse.elim
  | incompatible hmem => exact .incompatible hmem

end Decides

/-- Without regard to sizes the lists of the map give the verdict. -/
theorem decides_classify (c : Checker) (source : String) (place : Option ColumnContext)
    (t : CanonicalType) :
    Decides (c.directTypes source place) (c.widerTypes source place) c.wildcardTypes t False
      (classify c.map (c.sourceType source place) t) := by
  unfold classify
  split
  · next hdirect => exact .directCast (isDirectCast_iff.1 hdirect) not_false
  · next hdirect =>
    rw [isDirectCast_iff] at hdirect
    split
    · next hwider => exact .widening hdirect (List.contains_iff_mem.1 hwider) not_false
    · next hwider =>
      rw [List.contains_iff_mem] at hwider
      split
      · next hwildcard => exact .wildcard hdirect hwider (isWildcard_iff.1 hwildcard) not_false
      · next hwildcard =>
        rw [isWildcard_iff] at hwildcard
        refine .incompatible fun hmem => ?_
        rcases List.mem_append.1 hmem with hmem | hmem
        · exact (List.mem_append.1 hmem).elim hdirect hwider
        · exact hwildcard hmem

theorem decides_check (c : Checker) (source sink : String) (place : Option ColumnContext) :
    Decides (c.directTypes source place) (c.widerTypes source place) c.wildcardTypes
      (c.sinkType sink) (c.Narrows source sink place) (c.check source sink place) := by
  have hclassify := c.decides_classify source place (c.sinkType sink)
  have hcheck : c.check source sink place =
      if (classify c.map (c.sourceType source place) (c.sinkType sink)).isCompatible &&
          c.map.stripsParameters && Spelling.narrows (c.effectiveType source place) sink then
        .narrowing
      else classify c.map (c.sourceType source place) (c.sinkType sink) := rfl
  -- Sizes only count once the lists have spoken, so they may be considered first here.
  by_cases hnarrows : c.Narrows source sink place
  · rw [hcheck, hnarrows.1, hnarrows.2, Bool.and_true, Bool.and_true]
    exact hclassify.narrow hnarrows
  · have hkept : (c.map.stripsParameters &&
        Spelling.narrows (c.effectiveType source place) sink) = false := by
      rwa [Narrows, ← Bool.and_eq_true, Bool.not_eq_true] at hnarrows
    rw [hcheck, Bool.and_assoc, hkept, Bool.and_false, if_neg Bool.false_ne_true]
    exact hclassify.keep hnarrows

/-! ## Suggestions -/

theorem sinkCandidates_eq_eraseDups (c : Checker) (source : String)
    (place : Option ColumnContext) :
    c.sinkCandidates source place =
      (c.directTypes source place ++ c.widerTypes source place ++ c.wildcardTypes).eraseDups :=
  foldl_addOnce_eraseDups _ []

theorem mem_sinkCandidates_iff :
    t ∈ c.sinkCandidates source place ↔
      t ∈ c.directTypes source place ++ c.widerTypes source place ++ c.wildcardTypes := by
  rw [sinkCandidates_eq_eraseDups, List.mem_eraseDups]

theorem sinkCandidates_eq_append (c : Checker) (source : String) (place : Option ColumnContext) :
    c.sinkCandidates source place =
      c.directTypes source place ++ (c.widerTypes source place).removeAll (c.directTypes source place) ++
        c.wildcardTypes.removeAll (c.directTypes source place ++ c.widerTypes source place) := by
  have hwider : ((c.widerTypes source place).removeAll (c.directTypes source place)).Nodup :=
    (c.nodup_widerTypes source place).filter _
  have hwildcard : (c.wildcardTypes.removeAll
      (c.directTypes source place ++ c.widerTypes source place)).Nodup :=
    c.nodup_wildcardTypes.filter _
  rw [sinkCandidates_eq_eraseDups, List.eraseDups_append, List.eraseDups_append,
    eraseDups_eq_self (c.nodup_directTypes source place), eraseDups_eq_self hwider,
    eraseDups_eq_self hwildcard]

/-- What a checker decides for a source type and a sink type, told by what it suggests for the
source type. -/
structure Enumerates (c : Checker) (source sink : String) (place : Option ColumnContext) : Prop where
  compatible_iff : c.isCompatible source sink place = true ↔
    c.sinkType sink ∈ c.sinkCandidates source place ∧ ¬ c.Narrows source sink place
  incompatible_iff : c.check source sink place = .incompatible ↔
    c.sinkType sink ∉ c.sinkCandidates source place
  decides : Decides (c.directTypes source place) (c.widerTypes source place) c.wildcardTypes
    (c.sinkType sink) (c.Narrows source sink place) (c.check source sink place)
  candidates_eq : c.sinkCandidates source place =
    c.directTypes source place ++ (c.widerTypes source place).removeAll (c.directTypes source place) ++
      c.wildcardTypes.removeAll (c.directTypes source place ++ c.widerTypes source place)
  nodup_candidates : (c.sinkCandidates source place).Nodup

/-- A cast is allowed exactly if the sink type is suggested and no sizes are lost, and the first list
that a suggestion comes from gives the verdict. -/
theorem enumerates (c : Checker) (source sink : String) (place : Option ColumnContext) :
    c.Enumerates source sink place where
  compatible_iff := by
    rw [mem_sinkCandidates_iff]
    exact (c.decides_check source sink place).isCompatible_iff
  incompatible_iff := by
    rw [mem_sinkCandidates_iff]
    exact (c.decides_check source sink place).eq_incompatible_iff
  decides := c.decides_check source sink place
  candidates_eq := c.sinkCandidates_eq_append source place
  nodup_candidates := by
    rw [sinkCandidates_eq_eraseDups]
    exact nodup_eraseDups _

end Checker

/-! ## Suggestions fed back -/

namespace CompatibilityMap

variable {d : Document} {strips : Bool} {m : CompatibilityMap} {t : CanonicalType}

/-- The spellings of sink types in a document. -/
def Document.sinkTypes (d : Document) : List String :=
  d.mappings.entries.map Prod.snd ++ d.compatibility.entries.flatMap Prod.snd

theorem Document.exists_sinkType_of_cast
    (h : ∃ e ∈ d.mappings.entries, Spelling.canonical e.2 strips = t) :
    ∃ k ∈ d.sinkTypes, Spelling.canonical k strips = t := by
  obtain ⟨e, hmem, hsink⟩ := h
  exact ⟨e.2, List.mem_append_left _ (List.mem_map_of_mem hmem), hsink⟩

theorem Document.exists_sinkType_of_listed
    (h : ∃ e ∈ d.compatibility.entries, ∃ k ∈ e.2, Spelling.canonical k strips = t) :
    ∃ k ∈ d.sinkTypes, Spelling.canonical k strips = t := by
  obtain ⟨e, hmem, k, hk, hsink⟩ := h
  exact ⟨k, List.mem_append_right _ (List.mem_flatMap.2 ⟨e, hmem, hk⟩), hsink⟩

/-- The sink types of a map are those of its document, in canonical form. -/
theorem Reflects.exists_sinkType (h : m.Reflects d strips) {overrides : Option OverrideRegistry}
    {source : String} {place : Option ColumnContext}
    (ht : t ∈ Checker.sinkCandidates ⟨m, overrides⟩ source place) :
    ∃ k ∈ d.sinkTypes, Spelling.canonical k strips = t := by
  rw [Checker.mem_sinkCandidates_iff, List.mem_append, List.mem_append,
    ← Checker.isDirectCast_iff, ← Checker.isWildcard_iff] at ht
  rcases ht with (hdirect | hwider) | hwildcard
  · obtain ⟨e, hmem, -, hsink⟩ := (h.casts _ _).1 (beq_iff_eq.1 hdirect)
    exact Document.exists_sinkType_of_cast ⟨e, hmem, hsink⟩
  · obtain ⟨e, hmem, -, -, hlisted⟩ :=
      (h.wider _ _).1 (Dictionary.contains_iff_mem_keys.2 hwider)
    exact Document.exists_sinkType_of_listed ⟨e, hmem, hlisted⟩
  · obtain ⟨e, hmem, -, hlisted⟩ := (h.wildcard _).1 hwildcard
    exact Document.exists_sinkType_of_listed ⟨e, hmem, hlisted⟩

/-- An alias of the document leads from a type, spelled out, back to it. -/
def Document.LeadsBack (d : Document) (strips : Bool) (t : CanonicalType) : Prop :=
  ∃ e ∈ d.sinkAliases.entries,
    Spelling.normalize e.1 = Spelling.normalize t ∧ Spelling.canonical e.2 strips = t

/-- A sink type of a document, fed back as a spelling, is resolved to itself exactly if no space
stands behind a comma in it and no alias leads it away, or an alias leads back to it. -/
theorem Reflects.normalize_sinkType_eq_iff (h : m.Reflects d strips)
    (ht : ∃ k ∈ d.sinkTypes, Spelling.canonical k strips = t) :
    m.normalize t .sink = t ↔
      (¬ Spelling.HasSpaceAfterComma t ∧ d.StandsForItself strips .sink t) ∨
        d.LeadsBack strips t := by
  obtain ⟨k, -, rfl⟩ := ht
  have hiff := AliasTable.resolve_canonical_eq_self_iff h.sinkAliases k
  rwa [AliasTable.get?_of_ofEntries_iff h.sinkAliases] at hiff

end CompatibilityMap

namespace Checker

variable {c : Checker} {d : CompatibilityMap.Document} {strips : Bool} {source : String}
variable {place : Option ColumnContext} {t : CanonicalType}

/-- A document spells a sink type with balanced parentheses, none of them behind a comma. -/
def SpelledPlainly (d : CompatibilityMap.Document) (strips : Bool) (t : CanonicalType) : Prop :=
  ∃ k ∈ d.sinkTypes, Spelling.canonical k strips = t ∧
    Spelling.IsBalanced (Spelling.normalize k) ∧
      ¬ Spelling.HasGroupAfterComma (Spelling.normalize k)

/-- What becomes of a suggestion for a source type that is fed back as the spelling of a sink type,
told by the document that the map of the checker is declared by. -/
structure Resubmits (c : Checker) (d : CompatibilityMap.Document) (strips : Bool) (source : String)
    (place : Option ColumnContext) (t : CanonicalType) : Prop where
  /-- It is a sink type of the document. -/
  spelled : ∃ k ∈ d.sinkTypes, Spelling.canonical k strips = t
  /-- It is accepted if it is resolved to a suggestion, and no sizes are lost. -/
  accepted_iff : c.isCompatible source t place = true ↔
    c.sinkType t ∈ c.sinkCandidates source place ∧ ¬ c.Narrows source t place
  /-- It is resolved to itself unless an alias leads it away, or a space is lost behind a comma. -/
  sinkType_eq_iff : c.sinkType t = t ↔
    (¬ Spelling.HasSpaceAfterComma t ∧ d.StandsForItself strips .sink t) ∨ d.LeadsBack strips t
  /-- Sizes are lost only where parameters do not count and its parentheses were not balanced. -/
  unbalanced_of_narrows : c.Narrows source t place →
    strips = true ∧ ∀ k ∈ d.sinkTypes, Spelling.canonical k strips = t →
      ¬ Spelling.IsBalanced (Spelling.normalize k)
  /-- It is accepted if no alias leads it away and, where parameters do not count, it is spelled
  plainly. -/
  accepted : (strips = true → SpelledPlainly d strips t) →
    d.StandsForItself strips .sink t → c.isCompatible source t place = true

theorem unbalanced_of_narrows {k sink : String} (h : c.Narrows source sink place)
    (hk : Spelling.canonical k c.map.stripsParameters = sink) :
    ¬ Spelling.IsBalanced (Spelling.normalize k) := by
  intro hbalanced
  obtain ⟨hstrips, hnarrows⟩ := h
  rw [← hk] at hnarrows
  have hopen := Spelling.mem_opening_of_normalize_canonical (Spelling.mem_opening_of_narrows hnarrows)
  rw [hstrips] at hopen
  exact Spelling.not_mem_opening_strip hbalanced hopen

/-- Whether a suggestion is accepted when it is fed back is a matter of the aliases that lead it
elsewhere and of the sizes that are left in it. -/
theorem resubmits {m : CompatibilityMap} {sourceEngine sinkEngine origin : String}
    (h : CompatibilityMap.ofDocument d sourceEngine sinkEngine origin strips = .ok m)
    (overrides : Option OverrideRegistry)
    (ht : t ∈ sinkCandidates ⟨m, overrides⟩ source place) :
    Resubmits ⟨m, overrides⟩ d strips source place t := by
  have hreflects := CompatibilityMap.reflects_of_ofDocument h
  have hspelled := hreflects.exists_sinkType ht
  have haccepted := (enumerates ⟨m, overrides⟩ source t place).compatible_iff
  have hself : sinkType ⟨m, overrides⟩ t = t ↔ _ := hreflects.normalize_sinkType_eq_iff hspelled
  have hunbalanced : ∀ k, Spelling.canonical k strips = t → Narrows ⟨m, overrides⟩ source t place →
      ¬ Spelling.IsBalanced (Spelling.normalize k) := by
    intro k hk hnarrows
    rw [← hreflects.strips_eq] at hk
    exact unbalanced_of_narrows hnarrows hk
  constructor
  case spelled => exact hspelled
  case accepted_iff => exact haccepted
  case sinkType_eq_iff => exact hself
  case unbalanced_of_narrows =>
    intro hnarrows
    exact ⟨hreflects.strips_eq ▸ hnarrows.1, fun k _ hk => hunbalanced k hk hnarrows⟩
  case accepted =>
    intro hplain hstands
    apply haccepted.2
    -- It is resolved to itself, as there is no space to be lost, and it has no sizes to be looked at.
    constructor
    · have hcomma : ¬ Spelling.HasSpaceAfterComma t := by
        cases strips with
        | false =>
            obtain ⟨k, -, rfl⟩ := hspelled
            exact Spelling.not_hasSpaceAfterComma_canonical Bool.noConfusion
        | true =>
            obtain ⟨k, -, rfl, -, hgroup⟩ := hplain rfl
            exact Spelling.not_hasSpaceAfterComma_canonical fun _ => hgroup
      rwa [hself.2 (Or.inl ⟨hcomma, hstands⟩)]
    · intro hnarrows
      obtain ⟨k, -, hk, hbalanced, -⟩ := hplain (hreflects.strips_eq ▸ hnarrows.1)
      exact hunbalanced k hk hnarrows hbalanced

theorem resubmits_bigint :
    CompatibilityMap.ofDocument CompatibilityMap.numbers "mssql" "postgres" "numbers.yaml" true =
        .ok CompatibilityMap.numbersMap ∧
      "bigint" ∈ sinkCandidates ⟨CompatibilityMap.numbersMap, none⟩ "smallint" none ∧
        isCompatible ⟨CompatibilityMap.numbersMap, none⟩ "smallint" "bigint" none = true := by
  have ht : "bigint" ∈ sinkCandidates ⟨CompatibilityMap.numbersMap, none⟩ "smallint" none := by
    decide +kernel
  have hplain : SpelledPlainly CompatibilityMap.numbers true "bigint" :=
    ⟨"bigint", by decide +kernel, by decide +kernel, by decide +kernel, by decide +kernel⟩
  have hresubmits := resubmits CompatibilityMap.ofDocument_numbers none ht
  exact ⟨CompatibilityMap.ofDocument_numbers, ht, hresubmits.accepted (fun _ => hplain) (by decide +kernel)⟩

/-- A document whose sink types are an alias, a spelling with parentheses that are not balanced, and
one with parameters behind a comma. -/
def looseTypes : CompatibilityMap.Document where
  sinkAliases := Dictionary.ofList [("int4", "integer")]
  compatibility := Dictionary.ofList [("*", ["int4", "char(10))", "geometry,(4326) point"])]

/-- The map that the document declares. -/
def looseMap : CompatibilityMap where
  sourceEngine := "mssql"
  sinkEngine := "postgres"
  origin := "loose.yaml"
  sourceAliases := ⟨Dictionary.empty, true⟩
  sinkAliases := ⟨Dictionary.ofList [("int4", "integer")], true⟩
  casts := Dictionary.empty
  wider := Dictionary.empty
  wildcard := Dictionary.ofList [("char(10))", ()), ("geometry, point", ()), ("int4", ())]
  stripsParameters := true

/-- All three are suggested, and all three are refused when they are fed back. -/
theorem suggestions_refused :
    CompatibilityMap.ofDocument looseTypes "mssql" "postgres" "loose.yaml" true = .ok looseMap ∧
      sinkCandidates ⟨looseMap, none⟩ "varchar(20)" none =
          ["char(10))", "geometry, point", "int4"] ∧
        check ⟨looseMap, none⟩ "varchar(20)" "int4" none = .incompatible ∧
          check ⟨looseMap, none⟩ "varchar(20)" "geometry, point" none = .incompatible ∧
            check ⟨looseMap, none⟩ "varchar(20)" "char(10))" none = .narrowing := by
  refine ⟨?_, ?_, ?_, ?_, ?_⟩
  · apply eq_ok_of_toOption
    decide +kernel
  · decide +kernel
  · decide +kernel
  · decide +kernel
  · decide +kernel

end Checker

end SchemaCrosswalk
