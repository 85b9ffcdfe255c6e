import SchemaCrosswalk.Text.Lowercase
import SchemaCrosswalk.Text.Numeral

/-!
# Spellings — how the types of database engines are written

Every engine has its own open vocabulary of type names, so a type is known by its spelling.

- `normalize`: letter case and white space do not distinguish two spellings
- `strip`: a spelling without its parenthesized parameters
- `canonical`: a spelling as a type is looked up by
- `sizes`: the lengths, precisions and scales that a spelling declares
- `narrows`: whether values of one spelling may not fit into another
-/

namespace SchemaCrosswalk

/-- A type of one engine: a normalized spelling. -/
abbrev CanonicalType := String

namespace Spelling

/-! ## Normal form -/

/-- An opening parenthesis or a comma: no space is kept after it. -/
def joinsNext (c : Char) : Bool := c == '(' || c == ','

/-- A parenthesis or a comma: no space is kept before it. -/
def joinsPrevious (c : Char) : Bool := c == '(' || c == ')' || c == ','

/-- Drop the spaces next to separators, `last` being the character that was kept last. -/
def tightenFrom (last : Option Char) : List Char → List Char
  | [] => []
  | c :: cs =>
      if c == ' ' && (last.any joinsNext || cs.head?.any joinsPrevious) then tightenFrom last cs
      else c :: tightenFrom (some c) cs

/-- Lower case, single spaces between words and none next to separators. -/
def normalizeChars (cs : List Char) : List Char :=
  tightenFrom none (Text.lowercase (Text.collapse cs))

/-- The normal form of a spelling: lower case, words parted by single spaces, and no space after
`(` or `,` nor before `(`, `)` or `,`. -/
def normalize (raw : String) : String := String.ofList (normalizeChars raw.toList)

/-! ## Parameters -/

/-- The characters outside all parenthesized groups, `depth` groups being open; nothing if the
parentheses are not balanced. -/
def outsideGroups : (depth : Nat) → List Char → Option (List Char)
  | 0, [] => some []
  | _ + 1, [] => none
  | depth, c :: cs =>
      if c = '(' then outsideGroups (depth + 1) cs
      else if c = ')' then
        match depth with
        | 0 => none
        | d + 1 => outsideGroups d cs
      else if depth = 0 then (outsideGroups 0 cs).map (c :: ·)
      else outsideGroups depth cs

/-- A text without its parenthesized groups, or the text itself if it has none or they are not
balanced. -/
def stripChars (cs : List Char) : List Char :=
  if cs.contains '(' then
    match outsideGroups 0 cs with
    | some outside => Text.collapse outside
    | none => cs
  else cs

/-- A spelling without its parameters: `numeric(10,2)` is `numeric`, `timestamp(3) with time zone`
is `timestamp with time zone`. -/
def strip (spelling : String) : String := String.ofList (stripChars spelling.toList)

/-- The spelling that a type is looked up by: normalized and, if asked for, without parameters. -/
def canonical (raw : String) (stripParameters : Bool) : CanonicalType :=
  if stripParameters then strip (normalize raw) else normalize raw

/-! ## Sizes -/

/-- One size that a spelling declares: a number or `max`. -/
inductive Size
  | unlimited
  | ofNat (n : Nat)
  deriving DecidableEq, Repr

/-- Sizes are numbers of 64 bits. -/
def sizeBound : Nat := Nat.pow 2 64

/-- A size as it is written between parentheses. -/
def readSize (cs : List Char) : Option Size :=
  if cs = ['m', 'a', 'x'] then some .unlimited
  else (Text.readBounded 10 sizeBound cs).map .ofNat

/-- The sizes between the first opening parenthesis and the next closing one, if all of what
stands there is sizes. -/
def sizes (raw : String) : Option (List Size) := do
  let (_, afterOpen) ← Text.cutAt '(' (normalizeChars raw.toList)
  let (inside, _) ← Text.cutAt ')' afterOpen
  (Text.splitOn ',' inside).mapM readSize

/-- Whether a single size exceeds another; nothing exceeds `max`. -/
def Size.exceeds : Size → Size → Bool
  | _, .unlimited => false
  | .unlimited, .ofNat _ => true
  | .ofNat s, .ofNat k => decide (k < s)

/-- Precision and scale; a precision alone has scale 0. -/
def precisionAndScale : List Size → Option (Nat × Nat)
  | [.ofNat p] => some (p, 0)
  | [.ofNat p, .ofNat s] => some (p, s)
  | _ => none

/-- Whether declared sizes exceed others: lengths are compared as numbers, precisions by their
digits before and after the point. -/
def sizesExceed (source sink : List Size) : Bool :=
  match source, sink with
  | [s], [k] => s.exceeds k
  | _, _ =>
      match precisionAndScale source, precisionAndScale sink with
      | some (p, s), some (q, t) => decide (t < s) || decide (q - t < p - s)
      | _, _ => false

/-- Whether the source spelling declares more length, precision or scale than the sink spelling.
A side that declares no sizes never narrows. -/
def narrows (source sink : String) : Bool :=
  match sizes source, sizes sink with
  | some s, some k => sizesExceed s k
  | _, _ => false

end Spelling

end SchemaCrosswalk
