import SchemaCrosswalk.Proofs.CompatibilityMap.Entries
import SchemaCrosswalk.Proofs.Resolution.Partition
import SchemaCrosswalk.Proofs.Translation.Columns

/-!
# Cloning — whether a cloned table can be populated by its source

A cloned table has the types of a translation, and whether it can be populated is decided by a
compatibility map. The two look types up in different ways, but an entry that speaks for a type
stands for the same canonical type. So if a map allows the casts that a translation lists, and any
cast to the fallback, it allows all casts of cloned tables, but for their sizes.

* `AliasTable.resolve_of_speaks`: a type and an entry that speaks for it stand for the same type
* `CompatibilityMap.Allows`: a map allows what a translation lists
* `Checker.isCompatible_mapType_iff`: then a cast of a cloned column fails only if it narrows
* `Resolution.exists_resolve_covered`: tables whose columns all fit their namesakes
* `CompatibilityMap.CloneFits`: what a map says of the types and tables that a translation yields
* `CompatibilityMap.cloneFits_of_allows`: it says so if it allows what the translation lists
-/

namespace SchemaCrosswalk

/-! ## Types and the entries that speak for them -/

/-- An entry that speaks for a type is spelled like it but for parameters. -/
theorem Translation.Speaks.canonical_eq {x : String} {e : String × String}
    (h : Translation.Speaks x e) : Spelling.canonical e.1 true = Spelling.canonical x true := by
  rcases h with hsame | hbare
  · simp [Spelling.canonical, hsame]
  · calc Spelling.canonical e.1 true
        = Spelling.strip (Spelling.canonical x true) := congrArg Spelling.strip hbare
      _ = Spelling.canonical x true := Spelling.strip_canonical x

/-- A type with parameters can only be the exact spelling of an entry. -/
theorem Translation.Speaks.normalize_eq {x : String} {e : String × String}
    (h : Translation.Speaks x e)
    (hparameters : Spelling.strip (Spelling.normalize e.1) ≠ Spelling.normalize e.1) :
    Spelling.normalize e.1 = Spelling.normalize x := by
  rcases h with hsame | hbare
  · exact hsame
  · -- Nothing is left to be removed from a spelling without its parameters.
    have hstripped : Spelling.strip (Spelling.normalize e.1) = Spelling.normalize e.1 := by
      rw [hbare]
      exact Spelling.strip_canonical x
    exact absurd hstripped hparameters

namespace AliasTable

/-- The aliases are spelled without parameters, and the parameters of types do not count. -/
structure IsBare (t : AliasTable) : Prop where
  strips : t.stripsParameters = true
  names : ∀ name ∈ t.entries.keys, '(' ∉ name.toList

variable {t : AliasTable}

/-- With such aliases a type is resolved by its canonical spelling alone. -/
theorem IsBare.resolve_eq (h : t.IsBare) (x : String) :
    t.resolve x = (t.entries.get? (Spelling.canonical x true)).getD (Spelling.canonical x true) := by
  cases hget : t.entries.get? (Spelling.normalize x) with
  | none =>
      have hresolve := resolve_of_get?_eq_none hget
      rwa [h.strips] at hresolve
  | some target =>
      have hname : Spelling.normalize x ∈ t.entries.keys :=
        Dictionary.contains_iff_mem_keys.1 (by simp [Dictionary.contains, hget])
      have hcanonical : Spelling.canonical x true = Spelling.normalize x := by
        apply String.toList_inj.1
        exact (Spelling.toList_strip _).trans (Spelling.stripChars_of_not_mem (h.names _ hname))
      rw [resolve_of_get? hget, hcanonical, hget]
      rfl

/-- A type and an entry that speaks for it stand for the same type. -/
theorem resolve_of_speaks (h : t.IsBare) {x : String} {e : String × String}
    (hspeaks : Translation.Speaks x e) : t.resolve e.1 = t.resolve x := by
  rw [h.resolve_eq, h.resolve_eq, hspeaks.canonical_eq]

end AliasTable

/-! ## Maps that allow what a translation lists -/

/-- A map allows the casts that a translation lists, except for those of some types with parameters,
and any cast to its fallback. No listed sink type declares sizes, except for those of some types. -/
structure CompatibilityMap.Allows (m : CompatibilityMap) (t : Translation)
    (refused sized : List String) : Prop where
  strips : m.stripsParameters = true
  aliases : m.sourceAliases.IsBare
  listed : ∀ e ∈ t.entries, e.1 ∈ refused ↔
    Checker.classify m (m.normalize e.1 .source) (m.normalize e.2 .sink) = .incompatible
  fallback : m.isWildcard (m.normalize t.fallback .sink) = true
  parameters : ∀ spelling ∈ refused,
    Spelling.strip (Spelling.normalize spelling) ≠ Spelling.normalize spelling
  sizes : ∀ e ∈ t.entries, Spelling.canonical e.1 true ∈ sized ∨ Spelling.sizes e.2 = none
  sizes_fallback : Spelling.sizes t.fallback = none

instance (t : AliasTable) : Decidable t.IsBare :=
  decidable_of_iff (t.stripsParameters = true ∧ ∀ name ∈ t.entries.keys, '(' ∉ name.toList)
    ⟨fun ⟨hstrips, hnames⟩ => ⟨hstrips, hnames⟩, fun h => ⟨h.strips, h.names⟩⟩

instance (m : CompatibilityMap) (t : Translation) (refused sized : List String) :
    Decidable (m.Allows t refused sized) :=
  decidable_of_iff
    (m.stripsParameters = true ∧ m.sourceAliases.IsBare ∧
      (∀ e ∈ t.entries, e.1 ∈ refused ↔
        Checker.classify m (m.normalize e.1 .source) (m.normalize e.2 .sink) = .incompatible) ∧
      m.isWildcard (m.normalize t.fallback .sink) = true ∧
      (∀ spelling ∈ refused,
        Spelling.strip (Spelling.normalize spelling) ≠ Spelling.normalize spelling) ∧
      (∀ e ∈ t.entries, Spelling.canonical e.1 true ∈ sized ∨ Spelling.sizes e.2 = none) ∧
      Spelling.sizes t.fallback = none)
    ⟨fun ⟨h₁, h₂, h₃, h₄, h₅, h₆, h₇⟩ => ⟨h₁, h₂, h₃, h₄, h₅, h₆, h₇⟩,
      fun h => ⟨h.strips, h.aliases, h.listed, h.fallback, h.parameters, h.sizes,
        h.sizes_fallback⟩⟩

namespace Checker

variable {m : CompatibilityMap} {t : Translation} {refused sized : List String} {x : String}

theorem classify_of_isWildcard {source sink : CanonicalType} (h : m.isWildcard sink = true) :
    classify m source sink ≠ .incompatible := by
  unfold classify
  split
  · simp
  · split
    · simp
    · simp

/-- A cast that is allowed but for its sizes is allowed if it does not narrow. -/
theorem isCompatible_iff_narrows (hstrips : m.stripsParameters = true) {source sink : String}
    (hallowed : classify m (m.normalize source .source) (m.normalize sink .sink) ≠ .incompatible)
    (place : Option ColumnContext) :
    ({ map := m } : Checker).isCompatible source sink place = true ↔
      Spelling.narrows source sink = false := by
  have heffective : ({ map := m } : Checker).effectiveType source place = source := by
    cases place <;> rfl
  have hcompatible : (classify m (m.normalize source .source)
      (m.normalize sink .sink)).isCompatible = true := by
    unfold classify at hallowed ⊢
    split
    · rfl
    · split
      · rfl
      · split
        · rfl
        · simp_all
  unfold isCompatible check
  simp only [heffective, hcompatible, hstrips, Bool.true_and]
  cases Spelling.narrows source sink with
  | true => simp [Verdict.isCompatible]
  | false => simp [hcompatible]

theorem isCompatible_of_incompatible {source sink : String}
    (h : classify m (m.normalize source .source) (m.normalize sink .sink) = .incompatible) :
    ({ map := m } : Checker).isCompatible source sink none = false := by
  simp [isCompatible, check, effectiveType, h, Verdict.isCompatible]

/-- The sink type of a type is allowed for it but for sizes. -/
theorem classify_mapType (h : m.Allows t refused sized)
    (hx : ∀ spelling ∈ refused, Spelling.normalize x ≠ Spelling.normalize spelling) :
    classify m (m.normalize x .source) (m.normalize (t.mapType x).target .sink) ≠
      .incompatible := by
  rcases t.mapType_cases x with ⟨e, hmem, hspeaks, htarget⟩ | hfallback
  · have hsource : m.normalize x .source = m.normalize e.1 .source :=
      (AliasTable.resolve_of_speaks h.aliases hspeaks).symm
    rw [htarget, hsource]
    intro hincompatible
    have hrefused : e.1 ∈ refused := (h.listed e hmem).2 hincompatible
    have hsame := hspeaks.normalize_eq (h.parameters e.1 hrefused)
    exact hx e.1 hrefused hsame.symm
  · rw [hfallback]
    exact classify_of_isWildcard h.fallback

/-- A type may populate the sink type of its clone exactly if that does not narrow it. -/
theorem isCompatible_mapType_iff (h : m.Allows t refused sized)
    (hx : ∀ spelling ∈ refused, Spelling.normalize x ≠ Spelling.normalize spelling)
    (place : Option ColumnContext) :
    ({ map := m } : Checker).isCompatible x (t.mapType x).target place = true ↔
      Spelling.narrows x (t.mapType x).target = false :=
  isCompatible_iff_narrows h.strips (classify_mapType h hx) place

/-- Only types with a sink type that declares sizes can be narrowed. -/
theorem canonical_mem_of_narrows (h : m.Allows t refused sized)
    (hnarrows : Spelling.narrows x (t.mapType x).target = true) :
    Spelling.canonical x true ∈ sized := by
  have hsizes : Spelling.sizes (t.mapType x).target ≠ none := by
    intro hnone
    unfold Spelling.narrows at hnarrows
    rw [hnone] at hnarrows
    cases hsource : Spelling.sizes x <;> simp [hsource] at hnarrows
  rcases t.mapType_cases x with ⟨e, hmem, hspeaks, htarget⟩ | hfallback
  · rw [htarget] at hsizes
    rcases h.sizes e hmem with hsized | hnone
    · exact hspeaks.canonical_eq ▸ hsized
    · exact absurd hnone hsizes
  · rw [hfallback] at hsizes
    exact absurd h.sizes_fallback hsizes

end Checker

/-! ## Cloned tables -/

/-- If every sink column has a namesake that can populate it, all of them are covered. -/
theorem Resolution.exists_resolve_covered {p : TablePair}
    (h : ∀ k ∈ p.sink.columns, ∃ s, p.source.get? k.name = some s ∧ p.canPopulate s k = true) :
    ∃ r, resolve p [] = .ok r ∧ r.valid = true ∧
      ∀ name ∈ p.sink.names, name ∈ r.identityCovered.toList := by
  have hcovered : ∀ k ∈ p.sink.columns,
      k.name ∈ (ofApplied p Dictionary.empty).identityCovered.toList := by
    intro k hk
    exact (name_mem_identityCovered hk).2 ⟨List.not_mem_nil, h k hk⟩
  refine ⟨ofApplied p Dictionary.empty, resolve_eq_ok_iff.2 ⟨Dictionary.empty, rfl, rfl⟩, ?_, ?_⟩
  · apply valid_iff_unmapped_eq_nil.2
    -- A column that stays empty would not be covered.
    apply List.eq_nil_iff_forall_not_mem.2
    intro name hname
    rcases List.mem_map.1 ((unmapped_sublist p Dictionary.empty).mem hname) with ⟨k, hk, rfl⟩
    exact ((name_mem_unmapped hk).1 hname).2.2 (hcovered k hk)
  · intro name hname
    rcases List.mem_map.1 hname with ⟨k, hk, rfl⟩
    exact hcovered k hk

namespace CompatibilityMap

/-- A type is none of those whose casts are refused, and its clone does not narrow it. -/
def Fits (t : Translation) (refused : List String) (x : String) : Prop :=
  (∀ spelling ∈ refused, Spelling.normalize x ≠ Spelling.normalize spelling) ∧
    Spelling.narrows x (t.mapType x).target = false

/-- What a map says of the types and tables that a translation yields. -/
structure CloneFits (m : CompatibilityMap) (t : Translation) (refused sized : List String) :
    Prop where
  compatible_iff : ∀ x, (∀ spelling ∈ refused, Spelling.normalize x ≠ Spelling.normalize spelling) →
    (({ map := m } : Checker).isCompatible x (t.mapType x).target none = true ↔
      Spelling.narrows x (t.mapType x).target = false)
  narrowed : ∀ x, Spelling.narrows x (t.mapType x).target = true →
    Spelling.canonical x true ∈ sized
  attachable : ∀ (table : String) (source : ColumnSet),
    (∀ c ∈ source.columns, Translation.isUsable c = true → Fits t refused c.type) →
      ∃ clone, t.cloneTable source.columns = .ok clone ∧
        clone.names = (source.columns.filter Translation.isUsable).map (·.name) ∧
          ∃ r, Resolution.resolve ⟨{ map := m }, table, source, clone⟩ [] = .ok r ∧
            r.valid = true ∧ ∀ name ∈ clone.names, name ∈ r.identityCovered.toList

theorem cloneFits_of_allows {m : CompatibilityMap} {t : Translation} {refused sized : List String}
    (h : m.Allows t refused sized) : CloneFits m t refused sized where
  compatible_iff x hx := Checker.isCompatible_mapType_iff h hx none
  narrowed _ := Checker.canonical_mem_of_narrows h
  attachable := by
    intro table source hfits
    rcases t.exists_cloneTable source with ⟨clone, hclone, hcolumns⟩
    have hnames : clone.names = (source.columns.filter Translation.isUsable).map (·.name) := by
      simp only [ColumnSet.names, hcolumns, Translation.map_name_mapColumns]
    refine ⟨clone, hclone, hnames, Resolution.exists_resolve_covered ?_⟩
    -- A cloned column has the name of the column that it is cloned from, and a type that fits it.
    intro k hk
    have hmapped : k ∈ t.mapColumns source.columns := hcolumns ▸ hk
    rcases List.mem_map.1 hmapped with ⟨c, hc, rfl⟩
    rcases List.mem_filter.1 hc with ⟨hmem, husable⟩
    rcases hfits c hmem husable with ⟨hx, hnarrows⟩
    have hself : source.get? (t.mapColumn c).name = some c := ColumnSet.get?_self hmem
    exact ⟨c, hself, (Checker.isCompatible_mapType_iff h hx _).2 hnarrows⟩

end CompatibilityMap

end SchemaCrosswalk
