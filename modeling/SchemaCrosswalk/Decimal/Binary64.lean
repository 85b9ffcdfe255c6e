/-!
# Binary64 — numbers with 53 binary digits

The finite numbers of the IEEE 754 format with 64 bits, as exact fractions. A decimal fraction is
rounded to the nearest of them, a tie to the one with an even mantissa.

- `Binary64.ofDecimal`: the number nearest to a decimal fraction, unless that is too large
-/

namespace SchemaCrosswalk.Decimal

/-- A finite number: `mantissa * 2 ^ exponent` with a sign. -/
structure Binary64 where
  negative : Bool
  mantissa : Nat
  exponent : Int
  deriving DecidableEq, Repr

namespace Binary64

/-- The least exponent. -/
def minExponent : Int := -1074

/-- The greatest exponent. -/
def maxExponent : Int := 971

/-- A fraction scaled by a power of two: numerator and denominator of `num / (den * 2 ^ q)`. -/
def scale (num den : Nat) (q : Int) : Nat × Nat :=
  if 0 ≤ q then (num, den * Nat.pow 2 q.toNat) else (num * Nat.pow 2 (-q).toNat, den)

/-- The natural number nearest to a fraction, the even one of two. -/
def roundDiv (num den : Nat) : Nat :=
  let floor := num / den
  let twice := 2 * (num % den)
  if twice < den then floor
  else if den < twice then floor + 1
  else if floor % 2 = 0 then floor else floor + 1

/-- Mantissa and exponent of the number nearest to a positive fraction. -/
def ofRatio (num den : Nat) : Option (Nat × Int) :=
  let low : Int := (num.log2 : Int) - (den.log2 : Int) - 53
  let (n, d) := scale num den low
  let q := max (if d * Nat.pow 2 53 ≤ n then low + 1 else low) minExponent
  let (n, d) := scale num den q
  let m := roundDiv n d
  let (m, q) := if m = Nat.pow 2 53 then (Nat.pow 2 52, q + 1) else (m, q)
  if q ≤ maxExponent then some (m, q) else none

/-- The number nearest to `digits * 10 ^ exponent`, or nothing if it exceeds all finite numbers. -/
def ofDecimal (negative : Bool) (digits : Nat) (exponent : Int) : Option Binary64 :=
  let width : Int := (Nat.toDigits 10 digits).length
  if digits = 0 ∨ width + exponent < -330 then some ⟨negative, 0, minExponent⟩
  else if 310 < width + exponent then none
  else
    let (num, den) :=
      if 0 ≤ exponent then (digits * Nat.pow 10 exponent.toNat, 1)
      else (digits, Nat.pow 10 (-exponent).toNat)
    (ofRatio num den).map fun (m, q) => ⟨negative, m, q⟩

end Binary64

end SchemaCrosswalk.Decimal
