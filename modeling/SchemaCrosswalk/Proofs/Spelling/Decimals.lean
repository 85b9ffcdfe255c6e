import Mathlib.Algebra.Order.Group.Unbundled.Int
import Mathlib.Data.Rat.Cast.Defs
import Mathlib.Tactic.NormNum
import Mathlib.Tactic.Positivity
import Mathlib.Tactic.Ring
import SchemaCrosswalk.Spelling

/-!
# Decimals — the numbers that fit into a declared precision and scale

A precision says how many digits a number has, a scale how many of them stand after the point. The
scale may exceed the precision: then zeros follow the point that no number fills. Narrowing compares
the scales and the digits before the point; it does not compare these zeros.

* `DecimalFormat.Holds`: the numbers of a precision and a scale
* `DecimalFormat.fitsInto_iff`: when every number of one format is one of another
* `Spelling.narrows_iff`: what narrowing compares
* `Spelling.fitsInto_iff_not_narrows`: when it is right that nothing is lost
-/

namespace SchemaCrosswalk

/-! ## Formats and their numbers -/

/-- The digits of a number, and how many of them stand after the point. -/
structure DecimalFormat where
  precision : Nat
  scale : Nat
  deriving DecidableEq, Repr

namespace DecimalFormat

variable {f g : DecimalFormat}

/-- The numbers `n / 10 ^ scale` of which `n` has no more digits than the precision. -/
def Holds (f : DecimalFormat) (x : ℚ) : Prop :=
  ∃ n : ℤ, |n| < 10 ^ f.precision ∧ x = n / 10 ^ f.scale

/-- Every number of one format is one of another. -/
def FitsInto (f g : DecimalFormat) : Prop := ∀ x, f.Holds x → g.Holds x

/-- The digits before the point. -/
def wholeDigits (f : DecimalFormat) : Nat := f.precision - f.scale

/-- The zeros after the point that no number of the format fills. -/
def leadingZeros (f : DecimalFormat) : Nat := f.scale - f.precision

/-- A quotient of a power of ten is a number of a format if, put over the scale of the format, it
has no more digits than the precision. -/
theorem holds_div_iff {n : ℤ} {s : Nat} :
    g.Holds (n / 10 ^ s) ↔ ∃ m : ℤ, |m| < 10 ^ g.precision ∧ n * 10 ^ g.scale = m * 10 ^ s := by
  unfold Holds
  refine exists_congr fun m => and_congr_right fun _ => ?_
  have hs : (10 : ℚ) ^ s ≠ 0 := by positivity
  have ht : (10 : ℚ) ^ g.scale ≠ 0 := by positivity
  rw [div_eq_div_iff hs ht]
  exact_mod_cast Iff.rfl

theorem scale_le_of_fitsInto (hdigits : 0 < f.precision) (h : f.FitsInto g) :
    f.scale ≤ g.scale := by
  -- The smallest positive number of the format decides.
  have hone : f.Holds ((1 : ℤ) / 10 ^ f.scale) := ⟨1, by
    rw [abs_one]
    exact one_lt_pow₀ (by norm_num) hdigits.ne', rfl⟩
  obtain ⟨m, -, hm⟩ := holds_div_iff.1 (h _ hone)
  rw [one_mul] at hm
  have hdvd : (10 : ℤ) ^ f.scale ∣ 10 ^ g.scale := ⟨m, by rw [hm, mul_comm]⟩
  have hnat : 10 ^ f.scale ∣ 10 ^ g.scale := by exact_mod_cast hdvd
  exact (Nat.pow_dvd_pow_iff_le_right (by norm_num)).1 hnat

theorem precision_add_scale_le_of_fitsInto (hdigits : 0 < f.precision) (h : f.FitsInto g) :
    f.precision + g.scale ≤ g.precision + f.scale := by
  obtain ⟨d, hd⟩ := Nat.exists_eq_add_of_le (scale_le_of_fitsInto hdigits h)
  obtain ⟨p, hp⟩ := Nat.exists_eq_add_of_lt hdigits
  rw [Nat.zero_add] at hp
  -- A number with a single digit in the first place needs as many digits as any.
  have hfirst : f.Holds (((10 : ℤ) ^ p : ℤ) / 10 ^ f.scale) := ⟨10 ^ p, by
    rw [abs_of_nonneg (by positivity), hp]
    exact pow_lt_pow_right₀ (by norm_num) p.lt_succ_self, rfl⟩
  obtain ⟨m, hbound, hm⟩ := holds_div_iff.1 (h _ hfirst)
  have hvalue : m = 10 ^ (p + d) := by
    have hs : (10 : ℤ) ^ f.scale ≠ 0 := by positivity
    refine mul_right_cancel₀ hs ?_
    calc m * 10 ^ f.scale = 10 ^ p * 10 ^ g.scale := hm.symm
      _ = 10 ^ (p + d) * 10 ^ f.scale := by rw [hd, ← pow_add, ← pow_add]; congr 1; omega
  rw [hvalue, abs_of_nonneg (by positivity)] at hbound
  have hlt : p + d < g.precision := (pow_lt_pow_iff_right₀ (by norm_num)).1 hbound
  omega

/-- Numbers fit if the format has room for them on either side of the point. -/
theorem fitsInto_iff :
    f.FitsInto g ↔
      f.precision = 0 ∨ f.scale ≤ g.scale ∧ f.precision + g.scale ≤ g.precision + f.scale := by
  constructor
  · intro h
    rcases Nat.eq_zero_or_pos f.precision with hzero | hdigits
    · exact Or.inl hzero
    · exact Or.inr ⟨scale_le_of_fitsInto hdigits h, precision_add_scale_le_of_fitsInto hdigits h⟩
  · rintro h x ⟨n, hn, rfl⟩
    rcases h with hzero | ⟨hscale, hroom⟩
    · -- Without digits there is no number but zero.
      rw [hzero, pow_zero, Int.abs_lt_one_iff] at hn
      exact holds_div_iff.2 ⟨0, by rw [abs_zero]; positivity, by rw [hn, zero_mul, zero_mul]⟩
    · obtain ⟨d, hd⟩ := Nat.exists_eq_add_of_le hscale
      refine holds_div_iff.2 ⟨n * 10 ^ d, ?_, by rw [hd, pow_add]; ring⟩
      have hpower : (0 : ℤ) < 10 ^ d := by positivity
      calc |n * 10 ^ d| = |n| * 10 ^ d := by rw [abs_mul, abs_of_pos hpower]
        _ < 10 ^ f.precision * 10 ^ d := mul_lt_mul_of_pos_right hn hpower
        _ = 10 ^ (f.precision + d) := (pow_add _ _ _).symm
        _ ≤ 10 ^ g.precision := pow_le_pow_right₀ (by norm_num) (by omega)

/-- The room on either side of the point, told by digits before it and zeros after it. -/
theorem fitsInto_iff_digits :
    f.FitsInto g ↔
      f.precision = 0 ∨ (f.scale ≤ g.scale ∧ f.wholeDigits ≤ g.wholeDigits) ∧
        g.leadingZeros ≤ f.leadingZeros := by
  rw [fitsInto_iff]
  unfold wholeDigits leadingZeros
  omega

end DecimalFormat

/-! ## Declared formats -/

namespace Spelling

variable {source sink : String} {f g : DecimalFormat}

/-- The precision and the scale that a spelling declares by one number or by two. -/
def decimalFormat? (raw : String) : Option DecimalFormat := do
  let (precision, scale) ← precisionAndScale (← sizes raw)
  return ⟨precision, scale⟩

/-- Two lone numbers are compared as lengths, which comes to the same as comparing precisions. -/
theorem sizesExceed_iff {s k : List Size}
    (hs : precisionAndScale s = some (f.precision, f.scale))
    (hk : precisionAndScale k = some (g.precision, g.scale)) :
    sizesExceed s k = true ↔ g.scale < f.scale ∨ g.wholeDigits < f.wholeDigits := by
  unfold sizesExceed DecimalFormat.wholeDigits
  split
  · next x y =>
    cases x with
    | unlimited => cases hs
    | ofNat p =>
        cases y with
        | unlimited => cases hk
        | ofNat q =>
            obtain ⟨hp, hscale⟩ := Prod.mk.inj (Option.some.inj hs)
            obtain ⟨hq, hscale'⟩ := Prod.mk.inj (Option.some.inj hk)
            rw [← hp, ← hq, ← hscale, ← hscale']
            simp [Size.exceeds]
  · rw [hs, hk]
    simp

theorem sizes_of_decimalFormat? (h : decimalFormat? source = some f) :
    ∃ declared, sizes source = some declared ∧
      precisionAndScale declared = some (f.precision, f.scale) := by
  unfold decimalFormat? at h
  simp only [Option.bind_eq_bind, Option.bind_eq_some_iff] at h
  obtain ⟨declared, hsizes, ⟨p, s⟩, hread, hformat⟩ := h
  cases hformat
  exact ⟨declared, hsizes, hread⟩

/-- Narrowing compares the scales and the digits before the point. -/
theorem narrows_iff (hsource : decimalFormat? source = some f)
    (hsink : decimalFormat? sink = some g) :
    narrows source sink = true ↔ g.scale < f.scale ∨ g.wholeDigits < f.wholeDigits := by
  obtain ⟨s, hs, hreadSource⟩ := sizes_of_decimalFormat? hsource
  obtain ⟨k, hk, hreadSink⟩ := sizes_of_decimalFormat? hsink
  unfold narrows
  rw [hs, hk]
  exact sizesExceed_iff hreadSource hreadSink

/-- All numbers of a format fit into another one exactly if it is not narrowed to it and the other
one has no more zeros after the point that are never filled. -/
theorem fitsInto_iff_not_narrows (hsource : decimalFormat? source = some f)
    (hsink : decimalFormat? sink = some g) :
    f.FitsInto g ↔
      f.precision = 0 ∨ narrows source sink = false ∧ g.leadingZeros ≤ f.leadingZeros := by
  have hkept : narrows source sink = false ↔
      f.scale ≤ g.scale ∧ f.wholeDigits ≤ g.wholeDigits := by
    rw [← Bool.not_eq_true, narrows_iff hsource hsink, not_or, Nat.not_lt, Nat.not_lt]
  rw [DecimalFormat.fitsInto_iff_digits, hkept]

theorem fitsInto_iff_not_narrows_small :
    decimalFormat? "NUMERIC ( 2 , 5 )" = some ⟨2, 5⟩ ∧
      decimalFormat? "decimal(4,7)" = some ⟨4, 7⟩ ∧
      (⟨2, 5⟩ : DecimalFormat).FitsInto ⟨4, 7⟩ := by
  have hsource : decimalFormat? "NUMERIC ( 2 , 5 )" = some ⟨2, 5⟩ := by decide +kernel
  have hsink : decimalFormat? "decimal(4,7)" = some ⟨4, 7⟩ := by decide +kernel
  refine ⟨hsource, hsink, (fitsInto_iff_not_narrows hsource hsink).2 (Or.inr ⟨?_, ?_⟩)⟩
  · decide +kernel
  · decide

/-- A number of two digits is said to fit into a format with one digit less. -/
theorem lost_digit_is_not_narrowing :
    decimalFormat? "numeric(2,5)" = some ⟨2, 5⟩ ∧ decimalFormat? "numeric(1,5)" = some ⟨1, 5⟩ ∧
      narrows "numeric(2,5)" "numeric(1,5)" = false ∧
      (⟨2, 5⟩ : DecimalFormat).Holds (99 / 10 ^ 5) ∧
      ¬ (⟨1, 5⟩ : DecimalFormat).Holds (99 / 10 ^ 5) := by
  refine ⟨by decide +kernel, by decide +kernel, by decide +kernel, ⟨99, by decide, rfl⟩, ?_⟩
  intro h
  have hquotient : (⟨1, 5⟩ : DecimalFormat).Holds ((99 : ℤ) / 10 ^ 5) := h
  obtain ⟨m, hbound, hm⟩ := DecimalFormat.holds_div_iff.1 hquotient
  have hvalue : m = 99 := mul_right_cancel₀ (by norm_num) hm.symm
  rw [hvalue] at hbound
  exact absurd hbound (by decide)

end Spelling

end SchemaCrosswalk
