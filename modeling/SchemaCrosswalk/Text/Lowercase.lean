import SchemaCrosswalk.Text.Blank
import SchemaCrosswalk.Text.LetterCase

/-!
# Lower-casing — full Unicode lower case of a text

Every character is lower-cased on its own, except for the capital sigma, which becomes the final
form `ς` at the end of a word and `σ` elsewhere.
-/

namespace SchemaCrosswalk.Text

/-- Whether a character has a case. -/
def isCased (c : Char) : Bool := inRanges casedRanges c.toNat

/-- Whether a character is passed over when the letters around a sigma are looked for. -/
def isCaseIgnorable (c : Char) : Bool := inRanges caseIgnorableRanges c.toNat

/-- Whether the run shifts the character with this number. -/
def CaseRun.covers (run : CaseRun) (n : Nat) : Bool :=
  decide (run.first ≤ n ∧ n ≤ run.last ∧ (n - run.first) % run.step = 0)

/-- The lower case of a character by itself; the capital I with a dot keeps the dot as a character
of its own. -/
def lowerChar (c : Char) : List Char :=
  if c.toNat < 128 then [c.toLower]
  else if c = '\u0130' then ['i', '\u0307']
  else
    match caseRuns.find? (·.covers c.toNat) with
    | some run => [Char.ofNat (c.toNat + run.shift).toNat]
    | none => [c]

/-- Whether a cased character comes next once the ignorable ones are passed over. -/
def meetsCased (cs : List Char) : Bool := (cs.dropWhile isCaseIgnorable).head?.any isCased

/-- Lower case of the second part of a text, `before` being the first part in reverse. A capital
sigma is final if a cased character precedes it and none follows. -/
def lowercaseFrom (before : List Char) : List Char → List Char
  | [] => []
  | c :: cs =>
      (if c = 'Σ' then [if meetsCased before && !meetsCased cs then 'ς' else 'σ'] else lowerChar c)
        ++ lowercaseFrom (c :: before) cs

/-- Lower case of a text. -/
def lowercase (cs : List Char) : List Char := lowercaseFrom [] cs

/-- Lower case of a string. -/
def toLowercase (s : String) : String := String.ofList (lowercase s.toList)

/-- Two names match if they are equal or differ by case only. -/
def namesMatch (a b : String) : Bool := a == b || toLowercase a == toLowercase b

end SchemaCrosswalk.Text
