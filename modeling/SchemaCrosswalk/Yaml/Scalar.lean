import SchemaCrosswalk.Decimal.Shortest
import SchemaCrosswalk.Text.Numeral
import SchemaCrosswalk.Text.Blank

/-!
# Plain scalars — what an unquoted text stands for

A plain scalar is null, a truth value or a number if it is spelled like one, and text otherwise.

- `Scalar.ofPlain`: what a plain scalar stands for
- `natural`, `isNull`, `truth`: the spellings of single kinds
-/

namespace SchemaCrosswalk.Yaml

/-- A number: whole, fractional or not finite. -/
inductive Number
  | whole (n : Int)
  | real (x : Decimal.Binary64)
  | infinite (negative : Bool)
  | undefined
  deriving DecidableEq, Repr

/-- The text of a number. -/
def Number.render : Number → String
  | .whole n => toString n
  | .real x => x.render
  | .infinite negative => if negative then "-.inf" else ".inf"
  | .undefined => ".nan"

/-- Whether two numbers are equal; zeros are equal whatever their sign. -/
def Number.same : Number → Number → Bool
  | .real x, .real y => x == y || (x.mantissa == 0 && y.mantissa == 0)
  | a, b => a == b

namespace Scalar

/-- The spellings of null. -/
def isNull (text : String) : Bool := ["null", "Null", "NULL", "~"].contains text

/-- The truth value that a text spells. -/
def truth (text : String) : Option Bool :=
  if ["true", "True", "TRUE"].contains text then some true
  else if ["false", "False", "FALSE"].contains text then some false
  else none

/-- The characters after a beginning of a text. -/
def afterStart (start cs : List Char) : Option (List Char) :=
  if start.isPrefixOf cs then some (cs.drop start.length) else none

/-- Digits that start with a needless zero, with or without sign, are no number. -/
def hasNeedlessZero (cs : List Char) : Bool :=
  let digits := match cs with
    | '-' :: rest | '+' :: rest => rest
    | _ => cs
  match digits with
  | '0' :: c :: rest => (c :: rest).all Text.isDecimal
  | _ => false

/-- The natural number written after one of the marks of other bases. -/
def basedNatural (cs : List Char) : Option Nat :=
  [(['0', 'x'], 16), (['0', 'o'], 8), (['0', 'b'], 2)].findSome? fun (mark, base) =>
    (afterStart mark cs).bind (Text.readNat base)

/-- The natural number that a text spells, in base ten or after a mark in another base. -/
def natural (cs : List Char) : Option Nat :=
  let unsigned := (afterStart ['+'] cs).getD cs
  match basedNatural unsigned with
  | some n => some n
  | none => if hasNeedlessZero cs then none else Text.readNat 10 unsigned

/-- The amount of the negative number that a text spells. -/
def negated (cs : List Char) : Option Nat := do
  let amount ← afterStart ['-'] cs
  match basedNatural amount with
  | some n => some n
  | none => if hasNeedlessZero cs then none else Text.readNat 10 amount

/-- Mantissa digits and exponent of a decimal fraction: digits with or without a point, at least
one in all, and possibly an exponent. -/
def decimal (cs : List Char) : Option (Nat × Int) := do
  let whole := cs.takeWhile Text.isDecimal
  let rest := cs.dropWhile Text.isDecimal
  let (fraction, rest) := match rest with
    | '.' :: rest => (rest.takeWhile Text.isDecimal, rest.dropWhile Text.isDecimal)
    | _ => ([], rest)
  let digits ← Text.readNat 10 (whole ++ fraction)
  let exponent ← match rest with
    | [] => some 0
    | e :: rest =>
        if e == 'e' || e == 'E' then
          match rest with
          | '-' :: rest => (Text.readNat 10 rest).map fun n => -(n : Int)
          | '+' :: rest => (Text.readNat 10 rest).map fun n => (n : Int)
          | _ => (Text.readNat 10 rest).map fun n => (n : Int)
        else none
  some (digits, exponent - fraction.length)

/-- The number with a fraction, an exponent or infinite size that a text spells. -/
def real (text : String) : Option Number :=
  let cs := text.toList
  let (signed, negative, body) := match cs with
    | '-' :: rest => (true, true, rest)
    | '+' :: rest => (true, false, rest)
    | _ => (false, false, cs)
  if [".inf", ".Inf", ".INF"].contains (String.ofList body) then some (.infinite negative)
  else if !signed && [".nan", ".NaN", ".NAN"].contains text then some .undefined
  else do
    let (digits, exponent) ← decimal body
    (Decimal.Binary64.ofDecimal negative digits exponent).map .real

/-- What a plain scalar stands for. -/
inductive Plain
  | null
  | bool (b : Bool)
  | number (n : Number)
  | oversized
  | text
  deriving DecidableEq, Repr

/-- The whole number that a text spells; beyond 64 bits it is oversized, and beyond 128 bits it
counts as fractional. -/
def whole (cs : List Char) : Option Plain :=
  match natural cs, negated cs with
  | some n, _ =>
      if n < Nat.pow 2 64 then some (.number (.whole n))
      else if n < Nat.pow 2 128 then some .oversized
      else none
  | none, some n =>
      if n ≤ Nat.pow 2 63 then some (.number (.whole (-(n : Int))))
      else if n ≤ Nat.pow 2 127 then some .oversized
      else none
  | none, none => none

/-- What a plain scalar stands for. -/
def ofPlain (text : String) : Plain :=
  if text.isEmpty || isNull text then .null
  else
    match truth text with
    | some b => .bool b
    | none =>
        match whole text.toList with
        | some p => p
        | none =>
            if hasNeedlessZero text.toList then .text
            else ((real text).map .number).getD .text

end Scalar

end SchemaCrosswalk.Yaml
