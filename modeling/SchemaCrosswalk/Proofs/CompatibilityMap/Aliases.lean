import SchemaCrosswalk.AliasTable
import SchemaCrosswalk.Proofs.Dictionary
import SchemaCrosswalk.Proofs.Outcomes
import SchemaCrosswalk.Proofs.Spelling.Parameters

/-!
# Aliases — resolving a spelling once and twice

A spelling is resolved to the target of an alias or, if there is none, to itself in canonical form.
Targets are canonical too, and none of them is an alias for something else. Yet a canonical spelling
is not always a normal one, and where it is not, resolving it again may lead elsewhere.

* `AliasTable.get?_of_ofEntries_iff`: the aliases of a table are those that were declared
* `AliasTable.exists_resolve_eq_canonical`: what a spelling is resolved to
* `AliasTable.resolve_resolve_iff`: when resolving twice is resolving once
-/

namespace SchemaCrosswalk.AliasTable

open Spelling

deriving instance DecidableEq for AliasTable

variable {raw : Dictionary String} {strips : Bool} {side : Side} {t : AliasTable}

/-! ## Declared aliases -/

/-- One more alias is added to those that are there if it has both names and contradicts none of
them. -/
theorem inserts_add (side : Side) (strips : Bool) :
    Dictionary.Inserts (add side strips)
      (fun e => Spelling.normalize e.1 ≠ "" ∧ Spelling.canonical e.2 strips ≠ "")
      (fun e => Spelling.normalize e.1) (fun e => Spelling.canonical e.2 strips) := by
  intro entries e entries'
  unfold add
  simp only
  split
  · next hempty =>
    refine iff_of_false (fun h => by cases h) fun h => ?_
    simp [h.1.1] at hempty
  · next hnamed =>
    simp only [Bool.or_eq_true, String.isEmpty_iff, not_or] at hnamed
    rw [and_assoc, and_iff_right hnamed]
    apply Dictionary.eq_ok_iff_of_checks
    · intro hget
      rw [hget]
    · intro hget
      rw [hget]
      exact if_pos rfl
    · intro existing hget hne
      rw [hget]
      exact ⟨_, if_neg hne⟩

theorem ofEntries_eq_ok (h : ofEntries raw strips side = .ok t) :
    t.stripsParameters = strips ∧
      raw.entries.foldlM (add side strips) Dictionary.empty = .ok t.entries ∧
        chain? t.entries = none := by
  unfold ofEntries at h
  obtain ⟨entries, hentries, hrest⟩ := bind_eq_ok_iff.1 h
  cases hchain : chain? entries with
  | none =>
      rw [hchain] at hrest
      cases hrest
      exact ⟨rfl, hentries, hchain⟩
  | some chain =>
      rw [hchain] at hrest
      cases hrest

/-- The aliases of a table are those that were declared. -/
theorem get?_of_ofEntries_iff (h : ofEntries raw strips side = .ok t) {name target : String} :
    t.entries.get? name = some target ↔
      ∃ e ∈ raw.entries, Spelling.normalize e.1 = name ∧ Spelling.canonical e.2 strips = target := by
  obtain ⟨-, hentries, -⟩ := ofEntries_eq_ok h
  exact (inserts_add side strips).get?_of_foldlM hentries name target

theorem chain?_eq_none_iff {entries : Dictionary CanonicalType} :
    chain? entries = none ↔
      ∀ name target next, entries.get? name = some target → entries.get? target = some next →
        next = target := by
  unfold chain?
  rw [List.findSome?_eq_none_iff]
  constructor
  · intro hnone name target next htarget hnext
    by_contra hne
    simpa [hnext, hne] using hnone (name, target) (Dictionary.get?_eq_some_iff.1 htarget)
  · rintro hhop ⟨name, target⟩ hmem
    have htarget := Dictionary.get?_eq_some_iff.2 hmem
    cases hnext : entries.get? target with
    | none => simp [hnext]
    | some next => simp [hnext, hhop name target next htarget hnext]

/-- No target is an alias for another type. -/
theorem eq_of_get?_target (h : ofEntries raw strips side = .ok t) {name target next : String}
    (htarget : t.entries.get? name = some target) (hnext : t.entries.get? target = some next) :
    next = target := by
  obtain ⟨-, -, hchain⟩ := ofEntries_eq_ok h
  exact chain?_eq_none_iff.1 hchain name target next htarget hnext

/-! ## Resolving once -/

theorem resolve_of_get? {x target : String} (h : t.entries.get? (Spelling.normalize x) = some target) :
    t.resolve x = target := by
  rw [resolve, h]

theorem resolve_of_get?_eq_none {x : String} (h : t.entries.get? (Spelling.normalize x) = none) :
    t.resolve x = (t.entries.get? (Spelling.canonical x t.stripsParameters)).getD
      (Spelling.canonical x t.stripsParameters) := by
  rw [resolve, h]
  cases hstrips : t.stripsParameters with
  | true => rfl
  | false =>
      show Spelling.normalize x = (t.entries.get? (Spelling.normalize x)).getD _
      rw [h]
      rfl

/-- A spelling is resolved to the target of an alias or to itself in canonical form. -/
theorem resolve_cases (t : AliasTable) (x : String) :
    (∃ name, t.entries.get? name = some (t.resolve x)) ∨
      t.resolve x = Spelling.canonical x t.stripsParameters ∧
        t.entries.get? (t.resolve x) = none := by
  cases hfull : t.entries.get? (Spelling.normalize x) with
  | some target =>
      left
      rw [resolve_of_get? hfull]
      exact ⟨_, hfull⟩
  | none =>
      have hresolve := resolve_of_get?_eq_none hfull
      cases hbase : t.entries.get? (Spelling.canonical x t.stripsParameters) with
      | some target =>
          left
          rw [hbase] at hresolve
          rw [hresolve]
          exact ⟨_, hbase⟩
      | none =>
          right
          rw [hbase] at hresolve
          rw [hresolve]
          exact ⟨rfl, hbase⟩

/-- What a spelling is resolved to is canonical: the spelling itself or a declared target. -/
theorem exists_resolve_eq_canonical (h : ofEntries raw strips side = .ok t) (x : String) :
    ∃ v, (v = x ∨ ∃ e ∈ raw.entries, e.2 = v) ∧ t.resolve x = Spelling.canonical v strips := by
  rcases resolve_cases t x with ⟨name, htarget⟩ | ⟨hself, -⟩
  · obtain ⟨e, he, -, hcanonical⟩ := (get?_of_ofEntries_iff h).1 htarget
    exact ⟨e.2, Or.inr ⟨e, he, rfl⟩, hcanonical.symm⟩
  · rw [(ofEntries_eq_ok h).1] at hself
    exact ⟨x, Or.inl rfl, hself⟩

/-- What a spelling is resolved to is no alias for another type. -/
theorem eq_of_get?_resolve (h : ofEntries raw strips side = .ok t) {x next : String}
    (hnext : t.entries.get? (t.resolve x) = some next) : next = t.resolve x := by
  -- Either the result is a target, and targets lead nowhere else, or it is no alias at all.
  rcases resolve_cases t x with ⟨name, htarget⟩ | ⟨-, hnone⟩
  · exact eq_of_get?_target h htarget hnext
  · rw [hnone] at hnext
    cases hnext

/-- An alias leads a spelling, or what is left of it without parameters, to another type than the
one that it spells. -/
def LeadsAway (raw : Dictionary String) (strips : Bool) (x : String) : Prop :=
  ∃ e ∈ raw.entries,
    (Spelling.normalize e.1 = Spelling.normalize x ∨
        Spelling.normalize e.1 = Spelling.canonical x strips) ∧
      Spelling.canonical e.2 strips ≠ Spelling.canonical x strips

/-- A spelling stands for itself unless an alias leads it away. -/
theorem resolve_eq_canonical_iff (h : ofEntries raw strips side = .ok t) {x : String} :
    t.resolve x = Spelling.canonical x strips ↔ ¬ LeadsAway raw strips x := by
  have hstrips := (ofEntries_eq_ok h).1
  constructor
  · rintro hself ⟨e, he, hname, hne⟩
    rcases hname with hfull | hbase
    · have hget := (get?_of_ofEntries_iff h).2 ⟨e, he, hfull, rfl⟩
      exact hne ((resolve_of_get? hget).symm.trans hself)
    · have hget := (get?_of_ofEntries_iff h).2 ⟨e, he, hbase, rfl⟩
      rw [← hself] at hget hne
      exact hne (eq_of_get?_resolve h hget)
  · intro haway
    -- Whatever alias is found leads to the type that is spelled.
    have hsame : ∀ {name target : String}, t.entries.get? name = some target →
        name = Spelling.normalize x ∨ name = Spelling.canonical x strips →
          target = Spelling.canonical x strips := by
      intro name target hget hname
      obtain ⟨e, he, rfl, rfl⟩ := (get?_of_ofEntries_iff h).1 hget
      by_contra hne
      exact haway ⟨e, he, hname, hne⟩
    cases hfull : t.entries.get? (Spelling.normalize x) with
    | some target =>
        rw [resolve_of_get? hfull]
        exact hsame hfull (Or.inl rfl)
    | none =>
        rw [resolve_of_get?_eq_none hfull, hstrips]
        cases hbase : t.entries.get? (Spelling.canonical x strips) with
        | some target => exact hsame hbase (Or.inr rfl)
        | none => rfl

instance (raw : Dictionary String) (strips : Bool) (x : String) :
    Decidable (LeadsAway raw strips x) :=
  inferInstanceAs (Decidable (∃ e ∈ raw.entries,
    (Spelling.normalize e.1 = Spelling.normalize x ∨
        Spelling.normalize e.1 = Spelling.canonical x strips) ∧
      Spelling.canonical e.2 strips ≠ Spelling.canonical x strips))

/-! ## Resolving twice -/

/-- A normal spelling that is bare and no alias for another type is resolved to itself. -/
theorem resolve_eq_self {r : String} (hnormal : Spelling.normalize r = r)
    (hbare : t.stripsParameters = true → strip r = r)
    (hnext : ∀ next, t.entries.get? r = some next → next = r) : t.resolve r = r := by
  have hcanonical : Spelling.canonical r t.stripsParameters = r := by
    cases hstrips : t.stripsParameters with
    | false => exact hnormal
    | true =>
        show strip (Spelling.normalize r) = r
        rw [hnormal, hbare hstrips]
  cases hget : t.entries.get? r with
  | some next =>
      rw [resolve_of_get? (hnormal.symm ▸ hget)]
      exact hnext next hget
  | none =>
      rw [resolve_of_get?_eq_none (hnormal.symm ▸ hget), hcanonical, hget]
      rfl

/-- A spelling that is not normal is resolved to itself only if an alias leads back to it. -/
theorem resolve_eq_self_iff_get? {r : String} (hnormal : Spelling.normalize r ≠ r)
    (hbare : t.stripsParameters = true → strip (Spelling.normalize r) = Spelling.normalize r) :
    t.resolve r = r ↔ t.entries.get? (Spelling.normalize r) = some r := by
  have hcanonical : Spelling.canonical r t.stripsParameters = Spelling.normalize r := by
    cases hstrips : t.stripsParameters with
    | false => rfl
    | true => exact hbare hstrips
  cases hget : t.entries.get? (Spelling.normalize r) with
  | some next =>
      rw [resolve_of_get? hget, Option.some_inj]
  | none =>
      rw [resolve_of_get?_eq_none hget, hcanonical, hget]
      simp [hnormal]

/-- A canonical spelling is resolved to itself exactly if no space stands behind a comma in it and it
stands for itself, or an alias leads back to it. -/
theorem resolve_canonical_eq_self_iff (h : ofEntries raw strips side = .ok t) (x : String) :
    t.resolve (Spelling.canonical x strips) = Spelling.canonical x strips ↔
      (¬ HasSpaceAfterComma (Spelling.canonical x strips) ∧
          ¬ LeadsAway raw strips (Spelling.canonical x strips)) ∨
        t.entries.get? (Spelling.normalize (Spelling.canonical x strips)) =
          some (Spelling.canonical x strips) := by
  have hstrips := (ofEntries_eq_ok h).1
  have hcanonical := canonical_canonical_iff x strips
  have hcases := canonical_cases x strips
  generalize Spelling.canonical x strips = r at hcanonical hcases ⊢
  -- With a space behind a comma only an alias can lead back; without one the spelling is normal.
  by_cases hcomma : HasSpaceAfterComma r
  · have hnormal : Spelling.normalize r ≠ r := fun heq =>
      not_hasSpaceAfterComma_of_isNormal (normalize_eq_self_iff.1 heq) hcomma
    have hbare : t.stripsParameters = true → strip (Spelling.normalize r) = Spelling.normalize r := by
      intro _
      rcases hcases with hr | ⟨-, hr⟩
      · exact absurd (normalize_eq_self_iff.2 hr) hnormal
      · exact hr.strip_normalize
    rw [resolve_eq_self_iff_get? hnormal hbare]
    simp [hcomma]
  · have hself : t.resolve r = r ↔ ¬ LeadsAway raw strips r := by
      have hiff := resolve_eq_canonical_iff h (x := r)
      rwa [hcanonical.2 hcomma] at hiff
    constructor
    · intro hr
      exact Or.inl ⟨hcomma, hself.1 hr⟩
    · rintro (⟨-, hstays⟩ | hback)
      · exact hself.2 hstays
      · exact resolve_of_get? hback

/-- Resolving a spelling twice is resolving it once exactly if no space stands behind a comma in what
it is resolved to, or an alias leads back there. Such a space is left only where parameters do not
count, and where a parameter group stood between it and the comma. -/
theorem resolve_resolve_iff (h : ofEntries raw strips side = .ok t) (x : String) :
    (t.resolve (t.resolve x) = t.resolve x ↔
        ¬ HasSpaceAfterComma (t.resolve x) ∨
          t.entries.get? (Spelling.normalize (t.resolve x)) = some (t.resolve x)) ∧
      (strips = false → t.resolve (t.resolve x) = t.resolve x) ∧
      (¬ HasGroupAfterComma (Spelling.normalize x) →
        (∀ e ∈ raw.entries, ¬ HasGroupAfterComma (Spelling.normalize e.2)) →
          t.resolve (t.resolve x) = t.resolve x) := by
  obtain ⟨v, hv, hresolve⟩ := exists_resolve_eq_canonical h x
  have hstrips := (ofEntries_eq_ok h).1
  have hbare : t.stripsParameters = true → strip (t.resolve x) = t.resolve x := by
    intro htrue
    rw [hstrips] at htrue
    rw [hresolve, htrue, strip_canonical]
  have hnext : ∀ next, t.entries.get? (t.resolve x) = some next → next = t.resolve x :=
    fun _ => eq_of_get?_resolve h
  have hiff : t.resolve (t.resolve x) = t.resolve x ↔
      ¬ HasSpaceAfterComma (t.resolve x) ∨
        t.entries.get? (Spelling.normalize (t.resolve x)) = some (t.resolve x) := by
    -- The result is a normal spelling, or what is left of one without its parameters. Only in the
    -- second case can a space stand behind a comma, which normalizing it again would drop.
    rcases canonical_cases v strips with hnormal | ⟨-, hleft⟩
    · rw [← hresolve] at hnormal
      have hself := resolve_eq_self (normalize_eq_self_iff.2 hnormal) hbare hnext
      simp [hself, not_hasSpaceAfterComma_of_isNormal hnormal]
    · rw [← hresolve] at hleft
      by_cases hcomma : HasSpaceAfterComma (t.resolve x)
      · have hnormal : Spelling.normalize (t.resolve x) ≠ t.resolve x :=
          fun heq => hleft.normalize_eq_self_iff.1 heq hcomma
        rw [resolve_eq_self_iff_get? hnormal fun _ => hleft.strip_normalize]
        simp [hcomma]
      · have hself := resolve_eq_self (hleft.normalize_eq_self_iff.2 hcomma) hbare hnext
        simp [hself, hcomma]
  refine ⟨hiff, ?_, ?_⟩
  · rintro rfl
    rw [hresolve] at hiff ⊢
    exact hiff.2 (Or.inl (not_hasSpaceAfterComma_of_isNormal (isNormal_normalize v)))
  · intro hx hraw
    have hgroup : ¬ HasGroupAfterComma (Spelling.normalize v) := by
      rcases hv with rfl | ⟨e, he, rfl⟩
      · exact hx
      · exact hraw e he
    apply hiff.2
    left
    rw [hresolve]
    rcases canonical_cases v strips with hnormal | ⟨-, hleft⟩
    · exact not_hasSpaceAfterComma_of_isNormal hnormal
    · exact fun hcomma => hgroup ((spaced_iff.1 hleft.spaced).2 hcomma)

/-- A declaration of two aliases, one of them with parameters. -/
def decimalAliases : Dictionary String :=
  Dictionary.ofList [("Decimal", "numeric(18, 4)"), ("nvarchar(MAX)", "text")]

/-- The table of these aliases. -/
def decimalTable : AliasTable :=
  ⟨Dictionary.ofList [("decimal", "numeric"), ("nvarchar(max)", "text")], true⟩

theorem resolve_resolve_iff_decimal :
    ofEntries decimalAliases true .source = .ok decimalTable ∧
      decimalTable.resolve "DECIMAL (10, 2)" = "numeric" ∧
        decimalTable.resolve (decimalTable.resolve "DECIMAL (10, 2)") =
          decimalTable.resolve "DECIMAL (10, 2)" := by
  have h : ofEntries decimalAliases true .source = .ok decimalTable := by
    apply eq_ok_of_toOption
    decide +kernel
  have hall := resolve_resolve_iff h "DECIMAL (10, 2)"
  exact ⟨h, by decide +kernel, hall.2.2 (by decide +kernel) (by decide +kernel)⟩

/-- Without any alias, a space that is left behind a comma is dropped only when the type is resolved
again. -/
theorem resolve_leaves_space_after_comma :
    ofEntries Dictionary.empty true .source = .ok ⟨Dictionary.empty, true⟩ ∧
      resolve ⟨Dictionary.empty, true⟩ "geometry,(4326) point" = "geometry, point" ∧
        resolve ⟨Dictionary.empty, true⟩ "geometry, point" = "geometry,point" := by
  refine ⟨rfl, ?_, ?_⟩
  · decide +kernel
  · decide +kernel

end SchemaCrosswalk.AliasTable
