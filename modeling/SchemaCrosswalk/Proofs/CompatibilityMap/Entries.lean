import SchemaCrosswalk.Checker
import SchemaCrosswalk.Proofs.CompatibilityMap.Aliases
import SchemaCrosswalk.Proofs.Dictionary

/-!
# Entries — which of the declared casts are found

The casts, widenings and wildcards of a document are kept under the canonical forms of their
spellings. A checker looks types up by what their spellings are resolved to. The two agree for
spellings that stand for themselves; an entry with a spelling that an alias leads away is found only
if another entry lists the types that its spellings stand for.

* `CompatibilityMap.Document.Lists`: a document lists a cast between two canonical types
* `CompatibilityMap.classify_ne_incompatible_iff`: these are the casts that a map allows
* `CompatibilityMap.entries_found`: which entries of a document are found by a checker
-/

namespace SchemaCrosswalk.CompatibilityMap

deriving instance DecidableEq for CompatibilityMap

variable {d : Document} {strips : Bool} {m : CompatibilityMap}

/-- A document lists a cast from one canonical type to another: as a direct cast, as a widening, or
because the sink type accepts any source type. -/
inductive Document.Lists (d : Document) (strips : Bool) (source sink : CanonicalType) : Prop where
  | cast {e : String × String} (hmem : e ∈ d.mappings.entries)
      (hsource : Spelling.canonical e.1 strips = source)
      (hsink : Spelling.canonical e.2 strips = sink) : Lists d strips source sink
  | widening {e : String × List String} {k : String} (hmem : e ∈ d.compatibility.entries)
      (hkey : Text.trim e.1 ≠ wildcardKey) (hsource : Spelling.canonical e.1 strips = source)
      (hk : k ∈ e.2) (hsink : Spelling.canonical k strips = sink) : Lists d strips source sink
  | wildcard {e : String × List String} {k : String} (hmem : e ∈ d.compatibility.entries)
      (hkey : Text.trim e.1 = wildcardKey) (hk : k ∈ e.2)
      (hsink : Spelling.canonical k strips = sink) : Lists d strips source sink

/-! ## Casts -/

theorem canonicalType_eq_ok_iff {part raw : String} {type : CanonicalType} :
    canonicalType strips part raw = .ok type ↔
      Spelling.canonical raw strips ≠ "" ∧ type = Spelling.canonical raw strips := by
  unfold canonicalType
  simp only
  split
  · next hempty =>
    refine iff_of_false (fun h => by cases h) fun h => h.1 ?_
    exact String.isEmpty_iff.1 hempty
  · next hnamed =>
    rw [String.isEmpty_iff] at hnamed
    rw [Except.ok.injEq, eq_comm, and_iff_right hnamed]

theorem eq_canonical_of_canonicalType {part raw : String} {type : CanonicalType}
    (h : canonicalType strips part raw = .ok type) : type = Spelling.canonical raw strips :=
  (canonicalType_eq_ok_iff.1 h).2

/-- One more direct cast is added to those that are there if its key is not reserved, both of its
types have a name, and it contradicts none of them. -/
theorem inserts_addCast (strips : Bool) :
    Dictionary.Inserts (addCast strips)
      (fun e => Text.trim e.1 ≠ wildcardKey ∧
        Spelling.canonical e.1 strips ≠ "" ∧ Spelling.canonical e.2 strips ≠ "")
      (fun e => Spelling.canonical e.1 strips) (fun e => Spelling.canonical e.2 strips) := by
  intro casts e casts'
  unfold addCast
  split
  · next hreserved =>
    refine iff_of_false (fun h => by cases h) fun h => h.1.1.1 hreserved
  · next hkey =>
    simp only [bind_eq_ok_iff, canonicalType_eq_ok_iff, and_assoc, exists_and_left, exists_eq_left]
    rw [and_iff_right hkey]
    refine and_congr_right fun _ => and_congr_right fun _ => ?_
    apply Dictionary.eq_ok_iff_of_checks
    · intro hget
      rw [hget]
    · intro hget
      rw [hget]
      exact if_pos rfl
    · intro existing hget hne
      rw [hget]
      exact ⟨_, if_neg hne⟩

/-! ## Widenings and wildcards -/

/-- A type is listed as a widening of another one. -/
def IsWider (wider : Dictionary NameSet) (source sink : CanonicalType) : Prop :=
  ((wider.get? source).getD Dictionary.empty).contains sink = true

theorem contains_addNames {names : NameSet} {more : List String} {name : String} :
    (addNames names more).contains name = true ↔ name ∈ more ∨ names.contains name = true :=
  NameSet.contains_foldl_insert_names

theorem isWider_insert_addNames (wider : Dictionary NameSet) (key : CanonicalType)
    (more : List String) (source sink : CanonicalType) :
    IsWider (wider.insert key (addNames ((wider.get? key).getD Dictionary.empty) more)) source sink ↔
      IsWider wider source sink ∨ key = source ∧ sink ∈ more := by
  unfold IsWider
  rw [Dictionary.get?_insert]
  by_cases h : source = key
  · subst h
    rw [if_pos rfl, Option.getD_some, contains_addNames]
    tauto
  · rw [if_neg h]
    simp [Ne.symm h]

/-- What an entry of the widenings says of a source type. -/
def ListsWidening (strips : Bool) (source sink : CanonicalType) (e : String × List String) : Prop :=
  Text.trim e.1 ≠ wildcardKey ∧ Spelling.canonical e.1 strips = source ∧
    ∃ k ∈ e.2, Spelling.canonical k strips = sink

/-- What an entry of the widenings says of any source type. -/
def ListsWildcard (strips : Bool) (sink : CanonicalType) (e : String × List String) : Prop :=
  Text.trim e.1 = wildcardKey ∧ ∃ k ∈ e.2, Spelling.canonical k strips = sink

theorem addWidenings_spec {wider wider' : Dictionary NameSet × NameSet}
    {e : String × List String} (h : addWidenings strips wider e = .ok wider')
    (source sink : CanonicalType) :
    (IsWider wider'.1 source sink ↔
        IsWider wider.1 source sink ∨ ListsWidening strips source sink e) ∧
      (wider'.2.contains sink = true ↔
        wider.2.contains sink = true ∨ ListsWildcard strips sink e) := by
  unfold addWidenings at h
  obtain ⟨targets, htargets, hrest⟩ := bind_eq_ok_iff.1 h
  obtain rfl := mapM_eq_map_of_ok (fun _ _ => eq_canonical_of_canonicalType) htargets
  have hmem : sink ∈ e.2.map (fun k => Spelling.canonical k strips) ↔
      ∃ k ∈ e.2, Spelling.canonical k strips = sink := List.mem_map
  unfold ListsWidening ListsWildcard
  split at hrest
  · next hkey =>
    cases hrest
    rw [contains_addNames, hmem]
    constructor
    · simp [hkey]
    · simp [hkey, or_comm]
  · next hkey =>
    obtain ⟨key, hcanonical, hinsert⟩ := bind_eq_ok_iff.1 hrest
    cases hinsert
    rw [isWider_insert_addNames, hmem, eq_canonical_of_canonicalType hcanonical]
    constructor
    · simp [hkey]
    · simp [hkey]

/-! ## Maps -/

/-- What is known of a map that a document declares. -/
structure Reflects (m : CompatibilityMap) (d : Document) (strips : Bool) : Prop where
  strips_eq : m.stripsParameters = strips
  sourceAliases : AliasTable.ofEntries d.sourceAliases strips .source = .ok m.sourceAliases
  sinkAliases : AliasTable.ofEntries d.sinkAliases strips .sink = .ok m.sinkAliases
  casts : ∀ source sink, m.casts.get? source = some sink ↔
    ∃ e ∈ d.mappings.entries,
      Spelling.canonical e.1 strips = source ∧ Spelling.canonical e.2 strips = sink
  wider : ∀ source sink, IsWider m.wider source sink ↔
    ∃ e ∈ d.compatibility.entries, ListsWidening strips source sink e
  wildcard : ∀ sink, m.wildcard.contains sink = true ↔
    ∃ e ∈ d.compatibility.entries, ListsWildcard strips sink e

theorem reflects_of_ofDocument {sourceEngine sinkEngine origin : String}
    (h : ofDocument d sourceEngine sinkEngine origin strips = .ok m) : m.Reflects d strips := by
  have hdeclared := mapError_eq_ok_iff.1 h
  unfold ofDeclaration at hdeclared
  obtain ⟨sourceAliases, hsource, h₁⟩ := bind_eq_ok_iff.1 hdeclared
  obtain ⟨sinkAliases, hsink, h₂⟩ := bind_eq_ok_iff.1 h₁
  obtain ⟨casts, hcasts, h₃⟩ := bind_eq_ok_iff.1 h₂
  obtain ⟨⟨wider, wildcard⟩, hwider, h₄⟩ := bind_eq_ok_iff.1 h₃
  cases h₄
  -- One fold fills the widenings and the wildcards; each is described on its own.
  have hwidenings := fun source sink =>
    foldlM_iff (fun w => IsWider w.1 source sink)
      (fun _ _ _ hadd => (addWidenings_spec hadd source sink).1) hwider
  have hwildcards := fun sink =>
    foldlM_iff (fun w => w.2.contains sink = true)
      (fun _ _ _ hadd => (addWidenings_spec hadd "" sink).2) hwider
  refine ⟨rfl, hsource, hsink, ?_, ?_, ?_⟩
  · exact (inserts_addCast strips).get?_of_foldlM hcasts
  · intro source sink
    simpa [IsWider, Dictionary.contains] using hwidenings source sink
  · intro sink
    simpa [Dictionary.contains] using hwildcards sink

/-- A map allows the casts that its document lists. -/
theorem classify_ne_incompatible_iff (h : m.Reflects d strips) (source sink : CanonicalType) :
    Checker.classify m source sink ≠ .incompatible ↔ d.Lists strips source sink := by
  have hdirect : m.isDirectCast source sink = true ↔ m.casts.get? source = some sink := beq_iff_eq
  have hwider : (m.widenings source).contains sink = true ↔ IsWider m.wider source sink := by
    rw [List.contains_iff_mem]
    exact Dictionary.contains_iff_mem_keys.symm
  have hclassify : Checker.classify m source sink ≠ .incompatible ↔
      m.casts.get? source = some sink ∨ IsWider m.wider source sink ∨
        m.wildcard.contains sink = true := by
    rw [← hdirect, ← hwider]
    unfold Checker.classify isWildcard
    split
    · next hcast => exact iff_of_true (by decide) (Or.inl hcast)
    · next hcast =>
      split
      · next hwide => exact iff_of_true (by decide) (Or.inr (Or.inl hwide))
      · next hwide =>
        split
        · next hwild => exact iff_of_true (by decide) (Or.inr (Or.inr hwild))
        · next hwild => exact iff_of_false (fun hne => hne rfl) (by tauto)
  rw [hclassify, h.casts, h.wider, h.wildcard]
  constructor
  · rintro (⟨e, hmem, hsource, hsink⟩ | ⟨e, hmem, hkey, hsource, k, hk, hsink⟩ |
      ⟨e, hmem, hkey, k, hk, hsink⟩)
    · exact .cast hmem hsource hsink
    · exact .widening hmem hkey hsource hk hsink
    · exact .wildcard hmem hkey hk hsink
  · intro hlists
    cases hlists with
    | @cast e hmem hsource hsink => exact Or.inl ⟨e, hmem, hsource, hsink⟩
    | @widening e k hmem hkey hsource hk hsink =>
        exact Or.inr (Or.inl ⟨e, hmem, hkey, hsource, k, hk, hsink⟩)
    | @wildcard e k hmem hkey hk hsink => exact Or.inr (Or.inr ⟨e, hmem, hkey, k, hk, hsink⟩)

/-! ## Checks -/

/-- Sizes may turn an allowed cast into a narrowing one, and never into an unknown one. -/
theorem check_ne_incompatible_iff (m : CompatibilityMap) (source sink : String)
    (place : Option ColumnContext) :
    ({ map := m } : Checker).check source sink place ≠ .incompatible ↔
      Checker.classify m (m.normalize source .source) (m.normalize sink .sink) ≠ .incompatible := by
  have heffective : ({ map := m } : Checker).effectiveType source place = source := by
    cases place <;> rfl
  unfold Checker.check
  rw [heffective]
  simp only
  split
  · next hcompatible =>
    -- Only a cast that is allowed is looked at for its sizes.
    simp only [Bool.and_eq_true] at hcompatible
    constructor
    · intro _ hincompatible
      rw [hincompatible] at hcompatible
      exact absurd hcompatible.1.1 (by decide)
    · intro _ hnarrowing
      cases hnarrowing
  · exact Iff.rfl

/-- A spelling on one side of a document stands for the type that it spells. -/
def Document.StandsForItself (d : Document) (strips : Bool) : Side → String → Prop
  | .source, x => ¬ AliasTable.LeadsAway d.sourceAliases strips x
  | .sink, x => ¬ AliasTable.LeadsAway d.sinkAliases strips x

instance (d : Document) (strips : Bool) (side : Side) (x : String) :
    Decidable (d.StandsForItself strips side x) :=
  match side with
  | .source => inferInstanceAs (Decidable ¬ AliasTable.LeadsAway d.sourceAliases strips x)
  | .sink => inferInstanceAs (Decidable ¬ AliasTable.LeadsAway d.sinkAliases strips x)

theorem Reflects.normalize_eq_canonical (h : m.Reflects d strips) {side : Side} {x : String}
    (hself : d.StandsForItself strips side x) : m.normalize x side = Spelling.canonical x strips := by
  cases side with
  | source => exact (AliasTable.resolve_eq_canonical_iff h.sourceAliases).2 hself
  | sink => exact (AliasTable.resolve_eq_canonical_iff h.sinkAliases).2 hself

/-- A checker allows, but for sizes, what a document lists for the types that two spellings are
resolved to. So an entry of the document is found if no alias leads its spellings away, and a type
that accepts any source type does so for all spellings of source types. -/
theorem entries_found {sourceEngine sinkEngine origin : String}
    (h : ofDocument d sourceEngine sinkEngine origin strips = .ok m) (place : Option ColumnContext) :
    (∀ source sink, ({ map := m } : Checker).check source sink place ≠ .incompatible ↔
        d.Lists strips (m.normalize source .source) (m.normalize sink .sink)) ∧
      (∀ e ∈ d.mappings.entries,
        d.StandsForItself strips .source e.1 → d.StandsForItself strips .sink e.2 →
          ({ map := m } : Checker).check e.1 e.2 place ≠ .incompatible) ∧
      (∀ e ∈ d.compatibility.entries, ∀ k ∈ e.2, Text.trim e.1 ≠ wildcardKey →
        d.StandsForItself strips .source e.1 → d.StandsForItself strips .sink k →
          ({ map := m } : Checker).check e.1 k place ≠ .incompatible) ∧
      (∀ e ∈ d.compatibility.entries, ∀ k ∈ e.2, Text.trim e.1 = wildcardKey →
        d.StandsForItself strips .sink k →
          ∀ source, ({ map := m } : Checker).check source k place ≠ .incompatible) := by
  have hreflects := reflects_of_ofDocument h
  have hiff : ∀ source sink, ({ map := m } : Checker).check source sink place ≠ .incompatible ↔
      d.Lists strips (m.normalize source .source) (m.normalize sink .sink) := by
    intro source sink
    rw [check_ne_incompatible_iff, classify_ne_incompatible_iff hreflects]
  refine ⟨hiff, ?_, ?_, ?_⟩
  · intro e hmem hsource hsink
    apply (hiff e.1 e.2).2
    rw [hreflects.normalize_eq_canonical hsource, hreflects.normalize_eq_canonical hsink]
    exact .cast hmem rfl rfl
  · intro e hmem k hk hkey hsource hsink
    apply (hiff e.1 k).2
    rw [hreflects.normalize_eq_canonical hsource, hreflects.normalize_eq_canonical hsink]
    exact .widening hmem hkey rfl hk rfl
  · intro e hmem k hk hkey hsink source
    apply (hiff source k).2
    rw [hreflects.normalize_eq_canonical hsink]
    exact .wildcard hmem hkey hk rfl

/-- A document with entries for a source type and for a sink type that are aliases. -/
def numbers : Document where
  sourceAliases := Dictionary.ofList [("integer", "int")]
  sinkAliases := Dictionary.ofList [("int4", "integer")]
  mappings := Dictionary.ofList [("integer", "bigint"), ("smallint", "smallint")]
  compatibility := Dictionary.ofList [
    ("*", ["int4", "text"]), ("integer", ["numeric"]), ("smallint", ["bigint"])]

/-- The map that the document declares. -/
def numbersMap : CompatibilityMap where
  sourceEngine := "mssql"
  sinkEngine := "postgres"
  origin := "numbers.yaml"
  sourceAliases := ⟨Dictionary.ofList [("integer", "int")], true⟩
  sinkAliases := ⟨Dictionary.ofList [("int4", "integer")], true⟩
  casts := Dictionary.ofList [("integer", "bigint"), ("smallint", "smallint")]
  wider := Dictionary.ofList [
    ("integer", Dictionary.ofList [("numeric", ())]),
    ("smallint", Dictionary.ofList [("bigint", ())])]
  wildcard := Dictionary.ofList [("int4", ()), ("text", ())]
  stripsParameters := true

theorem ofDocument_numbers :
    ofDocument numbers "mssql" "postgres" "numbers.yaml" true = .ok numbersMap := by
  apply eq_ok_of_toOption
  decide +kernel

theorem entries_found_smallint :
    ofDocument numbers "mssql" "postgres" "numbers.yaml" true = .ok numbersMap ∧
      ({ map := numbersMap } : Checker).check "smallint" "smallint" none ≠ .incompatible ∧
        ({ map := numbersMap } : Checker).check "smallint" "bigint" none ≠ .incompatible ∧
          ∀ source, ({ map := numbersMap } : Checker).check source "text" none ≠ .incompatible := by
  obtain ⟨-, hcasts, hwidenings, hwildcards⟩ := entries_found ofDocument_numbers none
  refine ⟨ofDocument_numbers, ?_, ?_, ?_⟩
  · exact hcasts ("smallint", "smallint") (by decide +kernel) (by decide +kernel)
      (by decide +kernel)
  · exact hwidenings ("smallint", ["bigint"]) (by decide +kernel) "bigint" (by decide +kernel)
      (by decide +kernel) (by decide +kernel) (by decide +kernel)
  · exact hwildcards ("*", ["int4", "text"]) (by decide +kernel) "text" (by decide +kernel)
      (by decide +kernel) (by decide +kernel)

/-- The entries with spellings that an alias leads away are found by no check. -/
theorem led_away_entries_lost :
    ofDocument numbers "mssql" "postgres" "numbers.yaml" true = .ok numbersMap ∧
      ({ map := numbersMap } : Checker).check "integer" "bigint" none = .incompatible ∧
        ({ map := numbersMap } : Checker).check "integer" "numeric" none = .incompatible ∧
          ({ map := numbersMap } : Checker).check "uuid" "int4" none = .incompatible := by
  refine ⟨ofDocument_numbers, ?_, ?_, ?_⟩
  · decide +kernel
  · decide +kernel
  · decide +kernel

end SchemaCrosswalk.CompatibilityMap
