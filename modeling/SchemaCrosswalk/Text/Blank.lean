/-!
# Blanks — white space and what is between it

Blank characters are those with the Unicode property White_Space.

- `trim`: a text without the blanks at its ends
- `collapse`: a text whose words are parted by single spaces
- `splitOn`: a text cut at every occurrence of one character
-/

namespace SchemaCrosswalk.Text

/-- Whether a number lies in one of the closed ranges. -/
def inRanges (ranges : List (Nat × Nat)) (n : Nat) : Bool :=
  ranges.any (fun r => decide (r.1 ≤ n ∧ n ≤ r.2))

/-- The numbers of the blank characters. -/
def blankRanges : List (Nat × Nat) :=
  [(0x09, 0x0D), (0x20, 0x20), (0x85, 0x85), (0xA0, 0xA0), (0x1680, 0x1680), (0x2000, 0x200A),
    (0x2028, 0x2029), (0x202F, 0x202F), (0x205F, 0x205F), (0x3000, 0x3000)]

/-- Whether a character is white space. -/
def isBlank (c : Char) : Bool := inRanges blankRanges c.toNat

/-- Whether a text has no character but white space. -/
def isBlankText (s : String) : Bool := s.toList.all isBlank

/-- The characters without the blanks at their end. -/
def dropTrailing (cs : List Char) : List Char := (cs.reverse.dropWhile isBlank).reverse

/-- A text without the blanks at its ends. -/
def trim (s : String) : String := String.ofList (dropTrailing (s.toList.dropWhile isBlank))

/-- The words of a text with a space between two of them. `started` says that a word has begun,
`gap` that blanks have been passed since its last character. -/
def collapseFrom : (started gap : Bool) → List Char → List Char
  | _, _, [] => []
  | started, gap, c :: cs =>
      if isBlank c then collapseFrom started true cs
      else (if started && gap then [' ', c] else [c]) ++ collapseFrom true false cs

/-- The words of a text, parted by single spaces, with nothing at the ends. -/
def collapse (cs : List Char) : List Char := collapseFrom false false cs

/-- The pieces of a text between the occurrences of a character; there is one piece more than
occurrences. -/
def splitOn (mark : Char) : List Char → List (List Char)
  | [] => [[]]
  | c :: cs =>
      if c = mark then [] :: splitOn mark cs
      else
        match splitOn mark cs with
        | [] => [[c]]
        | piece :: pieces => (c :: piece) :: pieces

/-- What stands before the first occurrence of a character and what stands after it. -/
def cutAt (mark : Char) : List Char → Option (List Char × List Char)
  | [] => none
  | c :: cs =>
      if c = mark then some ([], cs)
      else (cutAt mark cs).map (fun p => (c :: p.1, p.2))

end SchemaCrosswalk.Text
