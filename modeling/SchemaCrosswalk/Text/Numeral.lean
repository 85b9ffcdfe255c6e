/-!
# Numerals — natural numbers written in a positional base
-/

namespace SchemaCrosswalk.Text

/-- The value of a digit or a letter as a digit, `a` being ten. -/
def digitValue (c : Char) : Option Nat :=
  if '0' ≤ c ∧ c ≤ '9' then some (c.toNat - '0'.toNat)
  else if 'a' ≤ c ∧ c ≤ 'z' then some (c.toNat - 'a'.toNat + 10)
  else if 'A' ≤ c ∧ c ≤ 'Z' then some (c.toNat - 'A'.toNat + 10)
  else none

/-- Whether a character is a digit of the base. -/
def isDigitOf (base : Nat) (c : Char) : Bool := (digitValue c).any (fun d => decide (d < base))

/-- Whether a character is a decimal digit. -/
def isDecimal (c : Char) : Bool := isDigitOf 10 c

/-- The number written by the digits, continuing from the value read so far. -/
def readFrom (base : Nat) : Nat → List Char → Option Nat
  | acc, [] => some acc
  | acc, c :: cs =>
      match digitValue c with
      | some d => if d < base then readFrom base (acc * base + d) cs else none
      | none => none

/-- The number written by one or more digits of the base and nothing else. -/
def readNat (base : Nat) : List Char → Option Nat
  | [] => none
  | c :: cs => readFrom base 0 (c :: cs)

/-- A number below the bound, written in the base with an optional plus sign. -/
def readBounded (base bound : Nat) (cs : List Char) : Option Nat :=
  let digits := match cs with
    | '+' :: rest => rest
    | _ => cs
  (readNat base digits).bind (fun n => if n < bound then some n else none)

end SchemaCrosswalk.Text
