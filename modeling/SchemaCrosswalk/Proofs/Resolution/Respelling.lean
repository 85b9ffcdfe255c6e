import SchemaCrosswalk.Proofs.Attachments.Documents
import SchemaCrosswalk.Proofs.Resolution.Policies
import SchemaCrosswalk.Proofs.Resolution.Substitution
import SchemaCrosswalk.Proofs.Spelling.PlainNames

/-!
# Respelling — tables named in another letter case

Of the name of the source table a resolution reads the overrides of its columns only, and these are
found in every spelling. So two spellings of it give one resolution, and what is refused is refused
in the same way, up to the name in the message.

* `Fault.Alike`, `Outcome.Alike`: failures that differ in the spelling of a name, and outcomes that
  differ in no more than that
* `Resolution.resolve_respelled`, `Resolution.alike_resolveForAttach`: resolutions of the same tables
* `AttachmentStore.alike_path`: whether an attachment can have a file
-/

namespace SchemaCrosswalk

/-! ## Failures and outcomes -/

/-- Failures that are the same but for the spelling of a name. -/
inductive Fault.Alike : Fault → Fault → Prop
  | refl (fault : Fault) : Alike fault fault
  | unknownTable (engine : String) {table table' : String}
      (h : Text.namesMatch table table' = true) :
      Alike (.unknownTable engine table) (.unknownTable engine table')
  | unpopulated {table table' : String} (h : Text.namesMatch table table' = true)
      (columns : List String) (guidance : List Guidance) :
      Alike (.incompatible (.unpopulated table columns guidance))
        (.incompatible (.unpopulated table' columns guidance))
  | artifactName {name name' : String} (h : Text.namesMatch name name' = true) :
      Alike (.ofCause (.invalidArtifactName name)) (.ofCause (.invalidArtifactName name'))

theorem Fault.Alike.exitCode_eq {fault fault' : Fault} (h : Alike fault fault') :
    fault.exitCode = fault'.exitCode := by
  cases h with
  | refl fault => rfl
  | unknownTable engine h => rfl
  | unpopulated h columns guidance => rfl
  | artifactName h => rfl

/-- Two outcomes are alike if both are results, which are related, or both are failures that differ
in the spelling of a name at most. -/
inductive Outcome.Alike {α β : Type} (related : α → β → Prop) : Outcome α → Outcome β → Prop
  | ok {a : α} {b : β} (h : related a b) : Alike related (.ok a) (.ok b)
  | error {fault fault' : Fault} (h : fault.Alike fault') :
      Alike related (.error fault) (.error fault')

namespace Outcome.Alike

variable {α β γ δ : Type} {related : α → β → Prop} {related' : γ → δ → Prop}
variable {o : Outcome α} {o' : Outcome β}

theorem refl (o : Outcome α) : Alike Eq o o := by
  cases o with
  | error fault => exact .error (.refl fault)
  | ok a => exact .ok rfl

theorem of_eq {o₁ o₂ : Outcome α} (h : o₁ = o₂) : Alike Eq o₁ o₂ := h ▸ refl o₁

/-- What is computed from alike outcomes is alike if it is so for related results. -/
theorem bind {k : α → Outcome γ} {k' : β → Outcome δ} (h : Alike related o o')
    (hk : ∀ a b, o = .ok a → o' = .ok b → related a b → Alike related' (k a) (k' b)) :
    Alike related' (o >>= k) (o' >>= k') := by
  cases h with
  | ok h => exact hk _ _ rfl rfl h
  | error h => exact .error h

theorem bind_eq {o₁ o₂ : Outcome α} {k : α → Outcome γ} {k' : α → Outcome δ} (h : Alike Eq o₁ o₂)
    (hk : ∀ a, o₁ = .ok a → o₂ = .ok a → Alike related' (k a) (k' a)) :
    Alike related' (o₁ >>= k) (o₂ >>= k') := by
  refine h.bind ?_
  rintro a _ hfirst hsecond rfl
  exact hk a hfirst hsecond

theorem bind_same {o : Outcome α} {k : α → Outcome γ} {k' : α → Outcome δ}
    (hk : ∀ a, o = .ok a → Alike related' (k a) (k' a)) : Alike related' (o >>= k) (o >>= k') :=
  (refl o).bind_eq fun a h _ => hk a h

theorem exists_ok {a : α} (h : Alike related (.ok a) o') : ∃ b, o' = .ok b ∧ related a b := by
  cases h with
  | ok h => exact ⟨_, rfl, h⟩

theorem eq_ok {a : α} (h : Alike Eq (.ok a) o) : o = .ok a := by
  rcases h.exists_ok with ⟨b, hb, rfl⟩
  exact hb

end Outcome.Alike

/-! ## Resolutions -/

namespace TablePair

/-- The same tables, the source table under another name. -/
def respelled (p : TablePair) (table : String) : TablePair := { p with sourceTable := table }

variable {p : TablePair} {table : String}

theorem effectiveType_respelled (h : Text.namesMatch p.sourceTable table = true) (c : Column) :
    (p.respelled table).effectiveType c = p.effectiveType c := by
  have hname := Text.namesMatch_iff.1 h
  show p.checker.effectiveType c.type (some ⟨table, c.name⟩) =
    p.checker.effectiveType c.type (some ⟨p.sourceTable, c.name⟩)
  cases hoverrides : p.checker.overrides with
  | none => simp only [Checker.effectiveType, hoverrides]
  | some r =>
      have hget : r.get? table c.name = r.get? p.sourceTable c.name :=
        OverrideRegistry.get?_congr (Prod.ext hname.symm rfl)
      simp only [Checker.effectiveType, hoverrides, OverrideRegistry.effectiveType, hget]

/-- With the types in effect, only the name is another one. -/
theorem substituted_respelled (h : Text.namesMatch p.sourceTable table = true) :
    (p.respelled table).substituted = p.substituted.respelled table := by
  have htypes : p.source.retyped (p.respelled table).effectiveType =
      p.source.retyped p.effectiveType :=
    ColumnSet.retyped_congr fun c _ => effectiveType_respelled h c
  unfold substituted
  simp only [respelled] at htypes ⊢
  rw [htypes]

end TablePair

namespace Resolution

variable {p : TablePair} {table : String}

/-- Without overrides the name of the source table plays no part. -/
theorem resolve_substituted_respelled (p : TablePair) (table : String)
    (explicit : List ExplicitMapping) :
    resolve (p.substituted.respelled table) explicit = resolve p.substituted explicit :=
  rfl

theorem resolve_respelled (h : Text.namesMatch p.sourceTable table = true)
    (explicit : List ExplicitMapping) :
    resolve (p.respelled table) explicit = resolve p explicit := by
  calc
    resolve (p.respelled table) explicit
        = resolve (p.respelled table).substituted explicit := (resolve_substituted _ explicit).symm
    _ = resolve (p.substituted.respelled table) explicit := by rw [TablePair.substituted_respelled h]
    _ = resolve p.substituted explicit := resolve_substituted_respelled p table explicit
    _ = resolve p explicit := resolve_substituted p explicit

theorem resolveForModify_respelled (h : Text.namesMatch p.sourceTable table = true)
    (explicit : List ExplicitMapping) :
    resolveForModify (p.respelled table) explicit = resolveForModify p explicit := by
  unfold resolveForModify
  rw [resolve_respelled h]

/-- An attachment that is refused names the table as it was asked for. -/
theorem alike_resolveForAttach (h : Text.namesMatch p.sourceTable table = true)
    (explicit : List ExplicitMapping) :
    Outcome.Alike Eq (resolveForAttach p explicit)
      (resolveForAttach (p.respelled table) explicit) := by
  have hresolve := resolve_respelled h explicit
  unfold resolveForAttach
  rw [hresolve]
  refine Outcome.Alike.bind_same fun r _ => ?_
  cases r.valid with
  | true => exact .ok rfl
  | false => exact .error (.unpopulated h r.unmapped r.guidance)

end Resolution

/-! ## Attachments -/

/-- Two attachments whose names differ in letter case at most. -/
structure AttachmentKey.Matches (k k' : AttachmentKey) : Prop where
  sourceTable : Text.namesMatch k.sourceTable k'.sourceTable = true
  sinkEngine : k.sinkEngine = k'.sinkEngine
  sinkTable : Text.namesMatch k.sinkTable k'.sinkTable = true

namespace AttachmentKey.Matches

variable {k k' : AttachmentKey}

theorem isPlainName_sourceTable (h : k.Matches k') :
    isPlainName k.sourceTable = isPlainName k'.sourceTable :=
  isPlainName_congr (Text.namesMatch_iff.1 h.sourceTable)

theorem isPlainName_sinkTable (h : k.Matches k') :
    isPlainName k.sinkTable = isPlainName k'.sinkTable :=
  isPlainName_congr (Text.namesMatch_iff.1 h.sinkTable)

theorem isPlain (h : k.Matches k') (hplain : k.IsPlain) : k'.IsPlain where
  sourceTable := h.isPlainName_sourceTable ▸ hplain.sourceTable
  sinkEngine := h.sinkEngine ▸ hplain.sinkEngine
  sinkTable := h.isPlainName_sinkTable ▸ hplain.sinkTable

end AttachmentKey.Matches

namespace AttachmentStore

variable {k k' : AttachmentKey}

/-- Either both attachments can have a file or none of them can. -/
theorem alike_path (s : AttachmentStore) (h : k.Matches k') :
    Outcome.Alike (fun _ _ => True) (s.path k) (s.path k') := by
  -- The first name that is not plain is the same one for both.
  unfold AttachmentStore.path
  simp only [List.find?_cons, ← h.isPlainName_sourceTable, ← h.isPlainName_sinkTable,
    ← h.sinkEngine]
  cases isPlainName k.sourceTable with
  | false => exact .error (.artifactName h.sourceTable)
  | true =>
      cases isPlainName k.sinkEngine with
      | false => exact .error (.refl _)
      | true =>
          cases isPlainName k.sinkTable with
          | false => exact .error (.artifactName h.sinkTable)
          | true => exact .ok trivial

end AttachmentStore

end SchemaCrosswalk
