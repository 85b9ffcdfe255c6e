import SchemaCrosswalk.Decimal.Binary64

/-!
# Shortest decimals — the fewest digits that read back

A number is written with the fewest decimal digits that are rounded to it, and of those with the
digits nearest to it. A tie goes to the even digit.

- `Binary64.shortest`: the digits and the exponent
- `Binary64.render`: the text, positional for exponents near zero
-/

namespace SchemaCrosswalk.Decimal

namespace Binary64

/-- The number of decimal digits before the point of a positive fraction; zero or less if zeros
follow the point. -/
def pointPosition (num den : Nat) : Int :=
  if den ≤ num then (Nat.toDigits 10 (num / den)).length
  else
    let above := (den + num - 1) / num
    1 - (if above = 1 then 0 else ((Nat.toDigits 10 (above - 1)).length : Int))

/-- The multiple of `10 ^ grid` nearest to a number among those that are rounded to it. The number
is `4 * mantissa` quarters of a unit, and the fractions rounded to it lie between the two bounds,
which belong to them only if `closed`. -/
def onGrid (unitNum unitDen low value high : Nat) (closed : Bool) (grid : Int) : Option Nat :=
  let (stepNum, stepDen) : Nat × Nat :=
    if 0 ≤ grid then (Nat.pow 10 grid.toNat, 1) else (1, Nat.pow 10 (-grid).toNat)
  -- all quantities over the common denominator `unitDen * stepDen`
  let quarter := unitNum * stepDen
  let step := stepNum * unitDen
  let floor := value * quarter / step
  let inside (k : Nat) : Bool :=
    if closed then decide (low * quarter ≤ k * step ∧ k * step ≤ high * quarter)
    else decide (low * quarter < k * step ∧ k * step < high * quarter)
  let below := value * quarter - floor * step
  let above := (floor + 1) * step - value * quarter
  let nearer := if below < above || (below == above && floor % 2 == 0) then floor else floor + 1
  let other := if nearer = floor then floor + 1 else floor
  if inside nearer then some nearer else if inside other then some other else none

/-- The first grid that holds a fraction rounded to the number, from coarse to fine. -/
def firstGrid (hit : Int → Option Nat) : Nat → Int → Nat × Int
  | 0, grid => (0, grid)
  | steps + 1, grid =>
      match hit grid with
      | some k => (k, grid)
      | none => firstGrid hit steps (grid - 1)

/-- Move the zeros at the end of the digits into the exponent. -/
def dropZeros : Nat → Nat → Int → Nat × Int
  | 0, k, grid => (k, grid)
  | steps + 1, k, grid =>
      if k ≠ 0 ∧ k % 10 = 0 then dropZeros steps (k / 10) (grid + 1) else (k, grid)

/-- The shortest decimal `digits * 10 ^ exponent` that is rounded to the number. -/
def shortest (x : Binary64) : Nat × Int :=
  if x.mantissa = 0 then (0, 0)
  else
    let (unitNum, unitDen) : Nat × Nat :=
      let q := x.exponent - 2
      if 0 ≤ q then (Nat.pow 2 q.toNat, 1) else (1, Nat.pow 2 (-q).toNat)
    let value := 4 * x.mantissa
    let atPowerOfTwo := x.mantissa = Nat.pow 2 52 ∧ minExponent < x.exponent
    let low := if atPowerOfTwo then value - 1 else value - 2
    let closed := x.mantissa % 2 == 0
    let top := pointPosition (value * unitNum) unitDen
    let (k, grid) :=
      firstGrid (onGrid unitNum unitDen low value (value + 2) closed) 18 (top - 1)
    dropZeros 20 k grid

/-- The text of a number: with a point if at most sixteen digits stand before it or at most four
zeros after it, else with an exponent. -/
def render (x : Binary64) : String :=
  let (k, grid) := x.shortest
  let digits := Nat.toDigits 10 k
  let point : Int := digits.length + grid
  let sign := if x.negative then ['-'] else []
  let zeros (n : Int) : List Char := List.replicate n.toNat '0'
  let body :=
    if k = 0 then ['0', '.', '0']
    else if 0 ≤ grid ∧ point ≤ 16 then digits ++ zeros grid ++ ['.', '0']
    else if 0 < point ∧ point ≤ 16 then
      digits.take point.toNat ++ ['.'] ++ digits.drop point.toNat
    else if -5 < point ∧ point ≤ 0 then ['0', '.'] ++ zeros (-point) ++ digits
    else
      let fraction := if digits.length = 1 then [] else '.' :: digits.drop 1
      digits.take 1 ++ fraction ++ ['e'] ++ (toString (point - 1)).toList
  String.ofList (sign ++ body)

end Binary64

end SchemaCrosswalk.Decimal
