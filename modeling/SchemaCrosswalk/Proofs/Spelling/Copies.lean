import Mathlib.Data.ENat.Basic
import Mathlib.Logic.Relation
import SchemaCrosswalk.Proofs.Spelling.Decimals

/-!
# Copies — narrowing along the types that a column is copied through

Sizes are read as a length, which is a single number or `max`, or as a decimal, which is one number
or two. Either way they leave room before the point and room after it, and narrowing compares this
room. A single number leaves the same room as a length and as a decimal, so that both comparisons
are parts of one order.

* `Spelling.SizeKind`, `Spelling.Declares`: what sizes can be read as
* `Spelling.room`: the room that a spelling declares
* `Spelling.narrows_iff_not_room_le`: narrowing is lack of room in a type of the same kind
* `Spelling.not_narrows_of_copies`: what no copy narrows, all copies together do not narrow
* `Spelling.not_narrowing_is_preorder`: no type is narrowed to itself, and a narrowing is seen at
  every intermediate type
-/

namespace SchemaCrosswalk.Spelling

/-! ## Kinds of sizes -/

/-- What sizes are read as. -/
inductive SizeKind
  | length
  | decimal
  deriving DecidableEq, Repr

/-- A length is a single number or `max`; a decimal is one number or two. -/
def SizeKind.admits : SizeKind → List Size → Bool
  | .length, [_] => true
  | .decimal, [.ofNat _] => true
  | .decimal, [.ofNat _, .ofNat _] => true
  | _, _ => false

/-- A spelling declares sizes, and they can be read as the kind. -/
def Declares (kind : SizeKind) (raw : String) : Prop := (sizes raw).any kind.admits = true

instance (kind : SizeKind) (raw : String) : Decidable (Declares kind raw) :=
  inferInstanceAs (Decidable ((sizes raw).any kind.admits = true))

/-- The sizes of two spellings can be read as the same kind. -/
def SameKind (a b : String) : Prop := ∃ kind, Declares kind a ∧ Declares kind b

theorem declares_iff_of_sizes {kind : SizeKind} {raw : String} {declared : List Size}
    (h : sizes raw = some declared) : Declares kind raw ↔ kind.admits declared = true := by
  rw [Declares, h, Option.any_some]

theorem not_declares_of_sizes {kind : SizeKind} {raw : String} (h : sizes raw = none) :
    ¬ Declares kind raw := by
  rw [Declares, h, Option.any_none]
  exact Bool.false_ne_true

theorem admits_length_iff {declared : List Size} :
    SizeKind.length.admits declared = true ↔ ∃ size, declared = [size] := by
  constructor
  · intro h
    match declared, h with
    | [size], _ => exact ⟨size, rfl⟩
  · rintro ⟨size, rfl⟩
    rfl

theorem admits_decimal_iff {declared : List Size} :
    SizeKind.decimal.admits declared = true ↔
      ∃ f : DecimalFormat, precisionAndScale declared = some (f.precision, f.scale) := by
  constructor
  · intro h
    match declared, h with
    | [.ofNat p], _ => exact ⟨⟨p, 0⟩, rfl⟩
    | [.ofNat p, .ofNat s], _ => exact ⟨⟨p, s⟩, rfl⟩
  · rintro ⟨f, hf⟩
    match declared, hf with
    | [.ofNat _], _ => rfl
    | [.ofNat _, .ofNat _], _ => rfl

/-! ## Room -/

/-- The number of characters that a size leaves room for. -/
def Size.bound : Size → ℕ∞
  | .unlimited => ⊤
  | .ofNat n => n

/-- The room that sizes leave after the point and before it, and none if they are of no kind. -/
def roomOf : List Size → ℕ × ℕ∞
  | [size] => (0, size.bound)
  | [.ofNat p, .ofNat s] => (s, (p - s : ℕ))
  | _ => (0, 0)

/-- The room that a spelling declares after the point and before it. -/
def room (raw : String) : ℕ × ℕ∞ := ((sizes raw).map roomOf).getD (0, 0)

theorem room_of_sizes {raw : String} {declared : List Size} (h : sizes raw = some declared) :
    room raw = roomOf declared := by
  rw [room, h, Option.map_some, Option.getD_some]

theorem Size.exceeds_iff {s k : Size} : s.exceeds k = true ↔ k.bound < s.bound := by
  cases s <;> cases k <;> simp [Size.exceeds, Size.bound]

theorem roomOf_of_decimal {declared : List Size} {f : DecimalFormat}
    (h : precisionAndScale declared = some (f.precision, f.scale)) :
    roomOf declared = (f.scale, (f.wholeDigits : ℕ∞)) := by
  unfold DecimalFormat.wholeDigits
  -- Without a scale the whole precision stands before the point.
  match declared, h with
  | [.ofNat _], h | [.ofNat _, .ofNat _], h =>
      obtain ⟨hp, hs⟩ := Prod.mk.inj (Option.some.inj h)
      rw [← hp, ← hs]
      rfl

/-! ## Narrowing as an order -/

/-- Lengths and decimals are compared in different ways, but either way by their room. -/
theorem sizesExceed_iff_of_admits {kind : SizeKind} {s k : List Size}
    (hs : kind.admits s = true) (hk : kind.admits k = true) :
    sizesExceed s k = true ↔ ¬ roomOf s ≤ roomOf k := by
  cases kind with
  | length =>
      obtain ⟨x, rfl⟩ := admits_length_iff.1 hs
      obtain ⟨y, rfl⟩ := admits_length_iff.1 hk
      show x.exceeds y = true ↔ ¬ ((0, x.bound) : ℕ × ℕ∞) ≤ (0, y.bound)
      rw [Size.exceeds_iff, Prod.mk_le_mk, not_and, not_le]
      exact ⟨fun hlt _ => hlt, fun h => h le_rfl⟩
  | decimal =>
      obtain ⟨f, hf⟩ := admits_decimal_iff.1 hs
      obtain ⟨g, hg⟩ := admits_decimal_iff.1 hk
      rw [sizesExceed_iff hf hg, roomOf_of_decimal hf, roomOf_of_decimal hg, Prod.mk_le_mk,
        not_and_or, not_le, not_le, Nat.cast_lt]

theorem exists_kind_of_sizesExceed {s k : List Size} (h : sizesExceed s k = true) :
    ∃ kind : SizeKind, kind.admits s = true ∧ kind.admits k = true := by
  unfold sizesExceed at h
  split at h
  · exact ⟨.length, rfl, rfl⟩
  · split at h
    · next hs hk =>
      exact ⟨.decimal, admits_decimal_iff.2 ⟨⟨_, _⟩, hs⟩, admits_decimal_iff.2 ⟨⟨_, _⟩, hk⟩⟩
    · cases h

/-- A type is narrowed to those types of the same kind that leave less room after the point or
before it, and to no others. -/
theorem narrows_iff_not_room_le {source sink : String} :
    narrows source sink = true ↔ SameKind source sink ∧ ¬ room source ≤ room sink := by
  cases hs : sizes source with
  | none => simp [narrows, SameKind, hs, not_declares_of_sizes hs]
  | some s =>
      cases hk : sizes sink with
      | none => simp [narrows, SameKind, hk, not_declares_of_sizes hk]
      | some k =>
          have hnarrows : narrows source sink = sizesExceed s k := by rw [narrows, hs, hk]
          rw [hnarrows, room_of_sizes hs, room_of_sizes hk, SameKind]
          simp only [declares_iff_of_sizes hs, declares_iff_of_sizes hk]
          constructor
          · intro h
            obtain ⟨kind, hadmits⟩ := exists_kind_of_sizesExceed h
            exact ⟨⟨kind, hadmits⟩, (sizesExceed_iff_of_admits hadmits.1 hadmits.2).1 h⟩
          · rintro ⟨⟨kind, hadmits⟩, hroom⟩
            exact (sizesExceed_iff_of_admits hadmits.1 hadmits.2).2 hroom

theorem not_narrows_of_room_le {source sink : String} (h : room source ≤ room sink) :
    narrows source sink = false := by
  rw [← Bool.not_eq_true, narrows_iff_not_room_le]
  exact fun hnarrows => hnarrows.2 h

/-! ## Copies -/

/-- A column is copied into a type of the same kind that is not narrower. -/
structure Preserves (source sink : String) : Prop where
  sameKind : SameKind source sink
  not_narrows : narrows source sink = false

theorem Preserves.room_le {source sink : String} (h : Preserves source sink) :
    room source ≤ room sink := by
  by_contra hroom
  exact Bool.eq_false_iff.1 h.not_narrows (narrows_iff_not_room_le.2 ⟨h.sameKind, hroom⟩)

/-- However often a column is copied, it is not narrowed if no copy narrows it. -/
theorem not_narrows_of_copies {a c : String} (h : Relation.ReflTransGen Preserves a c) :
    narrows a c = false := by
  have hroom : room a ≤ room c := by
    induction h with
    | refl => exact le_rfl
    | tail _ hcopy ih => exact ih.trans hcopy.room_le
  exact not_narrows_of_room_le hroom

/-- No type is narrowed to itself. Among types whose sizes are all lengths, or all decimals, a
narrowing is seen at every intermediate type, before it or behind it. -/
theorem not_narrowing_is_preorder :
    (∀ a, narrows a a = false) ∧
      ∀ (kind : SizeKind) (a b c : String), Declares kind a → Declares kind b → Declares kind c →
        narrows a c = true → narrows a b = true ∨ narrows b c = true := by
  refine ⟨fun a => not_narrows_of_room_le le_rfl, fun kind a b c ha hb hc h => ?_⟩
  by_contra hseen
  obtain ⟨hab, hbc⟩ := not_or.1 hseen
  have hfirst : Preserves a b := ⟨⟨kind, ha, hb⟩, Bool.eq_false_iff.2 hab⟩
  have hsecond : Preserves b c := ⟨⟨kind, hb, hc⟩, Bool.eq_false_iff.2 hbc⟩
  have hcopied := not_narrows_of_copies ((Relation.ReflTransGen.single hfirst).tail hsecond)
  exact Bool.eq_false_iff.1 hcopied h

/-- The largest precision is copied through a scale that exceeds its precision, and `max` through a
number. -/
theorem not_narrowing_is_preorder_sized :
    (Declares .decimal "decimal(18446744073709551615,3)" ∧
      Declares .decimal "Numeric ( 2 , 5 )" ∧ Declares .decimal "number(7)" ∧
      narrows "decimal(18446744073709551615,3)" "number(7)" = true ∧
      (narrows "decimal(18446744073709551615,3)" "Numeric ( 2 , 5 )" = true ∨
        narrows "Numeric ( 2 , 5 )" "number(7)" = true)) ∧
    Declares .length "nvarchar(MAX)" ∧ Declares .length "varchar(50)" ∧
      Declares .length "char(10)" ∧ narrows "nvarchar(MAX)" "char(10)" = true ∧
      (narrows "nvarchar(MAX)" "varchar(50)" = true ∨ narrows "varchar(50)" "char(10)" = true) := by
  have hlarge : Declares .decimal "decimal(18446744073709551615,3)" := by decide +kernel
  have hscaled : Declares .decimal "Numeric ( 2 , 5 )" := by decide +kernel
  have hplain : Declares .decimal "number(7)" := by decide +kernel
  have hmax : Declares .length "nvarchar(MAX)" := by decide +kernel
  have hfifty : Declares .length "varchar(50)" := by decide +kernel
  have hten : Declares .length "char(10)" := by decide +kernel
  have hdecimals : narrows "decimal(18446744073709551615,3)" "number(7)" = true := by
    decide +kernel
  have hlengths : narrows "nvarchar(MAX)" "char(10)" = true := by decide +kernel
  obtain ⟨-, hseen⟩ := not_narrowing_is_preorder
  exact ⟨⟨hlarge, hscaled, hplain, hdecimals,
      hseen .decimal _ _ _ hlarge hscaled hplain hdecimals⟩,
    hmax, hfifty, hten, hlengths, hseen .length _ _ _ hmax hfifty hten hlengths⟩

/-- The types have to be of one kind: `max` is no decimal, so a decimal hides how much is lost. -/
example : narrows "varchar(max)" "varchar(10)" = true ∧
    narrows "varchar(max)" "numeric(10,0)" = false ∧
    narrows "numeric(10,0)" "varchar(10)" = false := by
  decide +kernel

end SchemaCrosswalk.Spelling
