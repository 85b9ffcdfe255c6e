import SchemaCrosswalk.Text.Blank
import SchemaCrosswalk.Text.Numeral

/-!
# Timestamps — points in time as RFC 3339 writes them

A timestamp is kept in universal time. It is read from a date, a time and an offset, and written
with the offset `Z` and as many fraction digits as it needs: none, three, six or nine.

- `ofText?`: the timestamp that a text names
- `render`: the text of a timestamp
-/

namespace SchemaCrosswalk

/-- A point in time: days since the first of January 1970, seconds since midnight, and nanoseconds.
A leap second counts as nanoseconds beyond a second. -/
structure Timestamp where
  day : Int
  second : Nat
  nanos : Nat
  deriving DecidableEq, Repr, Inhabited

namespace Timestamp

/-! ## Dates -/

/-- Days since 1970 of a date. Years count from March, so that a leap day ends one. -/
def daysOfDate (year : Int) (month day : Nat) : Int :=
  let y := if month ≤ 2 then year - 1 else year
  let era := y.fdiv 400
  let yearOfEra := y - era * 400
  let shifted : Int := (month + 9) % 12
  let dayOfYear := (153 * shifted + 2) / 5 + day - 1
  let dayOfEra := yearOfEra * 365 + yearOfEra / 4 - yearOfEra / 100 + dayOfYear
  era * 146097 + dayOfEra - 719468

/-- The date, as year, month and day, of a number of days since 1970. -/
def dateOfDays (days : Int) : Int × Nat × Nat :=
  let z := days + 719468
  let era := z.fdiv 146097
  let dayOfEra := z - era * 146097
  let yearOfEra := (dayOfEra - dayOfEra / 1460 + dayOfEra / 36524 - dayOfEra / 146096) / 365
  let dayOfYear := dayOfEra - (365 * yearOfEra + yearOfEra / 4 - yearOfEra / 100)
  let shifted := (5 * dayOfYear + 2) / 153
  let day := dayOfYear - (153 * shifted + 2) / 5 + 1
  let month := if shifted < 10 then shifted + 3 else shifted - 9
  let year := yearOfEra + era * 400 + (if month ≤ 2 then 1 else 0)
  (year, month.toNat, day.toNat)

/-- Whether a year has a leap day. -/
def isLeap (year : Int) : Bool := year % 4 == 0 && (year % 100 != 0 || year % 400 == 0)

/-- The number of days in a month. -/
def monthLength (year : Int) (month : Nat) : Nat :=
  if month == 2 then (if isLeap year then 29 else 28)
  else if [4, 6, 9, 11].contains month then 30
  else 31

/-- The years that dates may have. -/
def yearInRange (year : Int) : Bool := -262143 ≤ year && year ≤ 262142

/-- The nanoseconds in a second. -/
def secondLength : Nat := 1000000000

/-! ## Reading -/

/-- The text without blanks at its start. -/
def skipBlanks (cs : List Char) : List Char := cs.dropWhile Text.isBlank

/-- A number of one to `width` digits after blanks, and the rest. -/
def digits (width : Nat) (cs : List Char) : Option (Nat × List Char) := do
  let cs := skipBlanks cs
  let taken := (cs.take width).takeWhile Text.isDecimal
  some (← Text.readNat 10 taken, cs.drop taken.length)

/-- A year: up to four digits, or any number of them after a sign. -/
def year (cs : List Char) : Option (Int × List Char) := do
  match skipBlanks cs with
  | '-' :: rest =>
      let (n, rest) ← digits rest.length (← notBlank rest)
      some (-(n : Int), rest)
  | '+' :: rest =>
      let (n, rest) ← digits rest.length (← notBlank rest)
      some ((n : Int), rest)
  | cs =>
      let (n, rest) ← digits 4 cs
      some ((n : Int), rest)
where
  /-- No blanks may follow the sign. -/
  notBlank (cs : List Char) : Option (List Char) :=
    if cs.head?.any Text.isBlank then none else some cs

/-- Pass one character after blanks. -/
def mark (c : Char) (cs : List Char) : Option (List Char) :=
  match skipBlanks cs with
  | d :: rest => if d == c then some rest else none
  | [] => none

/-- The fraction of a second in nanoseconds, if a point stands here; digits beyond nine are passed
over. -/
def fraction (cs : List Char) : Option (Nat × List Char) :=
  match cs with
  | '.' :: rest => do
      let taken := (rest.take 9).takeWhile Text.isDecimal
      let n ← Text.readNat 10 taken
      some (n * Nat.pow 10 (9 - taken.length), rest.dropWhile Text.isDecimal)
  | _ => some (0, cs)

/-- Two decimal digits. -/
def twoDigits (cs : List Char) : Option Nat :=
  if (cs.take 2).length == 2 then Text.readNat 10 (cs.take 2) else none

/-- An offset from universal time in seconds, and the rest. -/
def offset (cs : List Char) : Option (Int × List Char) := do
  match cs with
  | 'Z' :: rest | 'z' :: rest => some (0, rest)
  | sign :: rest =>
      if (String.ofList (cs.take 3)).toLower == "utc" then some (0, cs.drop 3)
      else
        let negative ← if sign == '+' then some false
          else if sign == '-' || sign == '−' then some true
          else none
        let hours ← twoDigits rest
        let rest := (rest.drop 2).dropWhile (fun c => c == ':' || Text.isBlank c)
        let minutes ← twoDigits rest
        if 59 < minutes then none
        else
          let seconds : Int := hours * 3600 + minutes * 60
          some (if negative then -seconds else seconds, rest.drop 2)
  | [] => none

/-- The timestamp that a text names. Blanks may stand between the parts, and a blank or a small `t`
may stand between date and time. -/
def ofText? (text : String) : Option Timestamp := do
  let (y, cs) ← year text.toList
  let (month, cs) ← digits 2 (← mark '-' cs)
  let (day, cs) ← digits 2 (← mark '-' cs)
  let cs ← match cs with
    | c :: rest => if c == 'T' || c == 't' || c == ' ' then some rest else none
    | [] => none
  let (hour, cs) ← digits 2 cs
  let (minute, cs) ← digits 2 (← mark ':' cs)
  let (second, cs) ← digits 2 (← mark ':' cs)
  let (nanos, cs) ← fraction cs
  let (shift, cs) ← offset (skipBlanks cs)
  if !(skipBlanks cs).isEmpty then none
  else if !(yearInRange y) || month < 1 || 12 < month || day < 1 || monthLength y month < day then
    none
  else if 23 < hour || 59 < minute || 60 < second || 86400 ≤ shift.natAbs then none
  else
    let (second, nanos) := if second == 60 then (59, nanos + secondLength) else (second, nanos)
    let total := daysOfDate y month day * 86400 + (hour * 3600 + minute * 60 + second : Nat) - shift
    let t : Timestamp := ⟨total.fdiv 86400, (total.fmod 86400).toNat, nanos⟩
    if yearInRange (dateOfDays t.day).1 then some t else none

/-! ## Writing -/

/-- The decimal digits of a number, with zeros in front up to a width. -/
def padded (width n : Nat) : String :=
  let ds := Nat.toDigits 10 n
  String.ofList (List.replicate (width - ds.length) '0' ++ ds)

/-- A year in four digits; one that needs more, or is negative, has a sign. -/
def renderYear (year : Int) : String :=
  if 0 ≤ year ∧ year ≤ 9999 then padded 4 year.toNat
  else (if year < 0 then "-" else "+") ++ padded 4 year.natAbs

/-- The fraction of a second in as few groups of three digits as it needs. -/
def renderFraction (nanos : Nat) : String :=
  if nanos == 0 then ""
  else if nanos % 1000000 == 0 then "." ++ padded 3 (nanos / 1000000)
  else if nanos % 1000 == 0 then "." ++ padded 6 (nanos / 1000)
  else "." ++ padded 9 nanos

/-- The text of a timestamp. -/
def render (t : Timestamp) : String :=
  let (y, month, day) := dateOfDays t.day
  let leap := secondLength ≤ t.nanos
  let second := t.second % 60 + (if leap then 1 else 0)
  let nanos := if leap then t.nanos - secondLength else t.nanos
  s!"{renderYear y}-{padded 2 month}-{padded 2 day}T{padded 2 (t.second / 3600)}:" ++
    s!"{padded 2 (t.second / 60 % 60)}:{padded 2 second}{renderFraction nanos}Z"

end Timestamp

end SchemaCrosswalk
