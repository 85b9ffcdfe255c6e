import SchemaCrosswalk.Text.Blank
import SchemaCrosswalk.Text.Numeral
import SchemaCrosswalk.Yaml.Unreadable

/-!
# Cursor — a place in a text that is being read

The cursor holds the text that is left and where it starts. Line ends are carriage return, line
feed, both in this order, next line, line separator and paragraph separator.

- `advance`, `takeWhile`: go on within a line
- `takeBreak`: go on to the next line, with the line end that was passed
- `takeGap`: pass blanks and line ends between the lines of one scalar
-/

namespace SchemaCrosswalk.Yaml

/-- Whether a character ends a line. -/
def isBreak (c : Char) : Bool :=
  c == '\n' || c == '\r' || c == '\u0085' || c == '\u2028' || c == '\u2029'

/-- A space or a tab. -/
def isGap (c : Char) : Bool := c == ' ' || c == '\t'

/-- Whether a line ends here. -/
def endsLine (next : Option Char) : Bool := next.all isBreak

/-- Whether a word ends here. -/
def endsWord (next : Option Char) : Bool := next.all (fun c => isGap c || isBreak c)

/-- Letters, digits, underscore and hyphen. -/
def isNameChar (c : Char) : Bool :=
  ('a' ≤ c && c ≤ 'z') || ('A' ≤ c && c ≤ 'Z') || ('0' ≤ c && c ≤ '9') || c == '_' || c == '-'

/-- A place in a text: what is left, how many characters came before, and line and column. -/
structure Cursor where
  rest : List Char
  index : Nat := 0
  line : Nat := 0
  column : Nat := 0

namespace Cursor

/-- The next character. -/
def peek (c : Cursor) : Option Char := c.rest.head?

/-- The character after `n` others. -/
def peekAt (c : Cursor) (n : Nat) : Option Char := c.rest[n]?

/-- The refusal of the text at this place. -/
def refuse {α : Type} (c : Cursor) : Except Unreadable α := .error (.token c.line c.column)

/-- Go past `n` characters of this line. -/
def advance (c : Cursor) (n : Nat := 1) : Cursor :=
  { c with rest := c.rest.drop n, index := c.index + n, column := c.column + n }

/-- Go past the characters of this line that satisfy a condition, which holds for no line end. -/
def takeWhile (p : Char → Bool) (c : Cursor) : List Char × Cursor :=
  let taken := c.rest.takeWhile p
  (taken, c.advance taken.length)

/-- Go to the next line. All line ends but the two separators count as a line feed. -/
def takeBreak (c : Cursor) : List Char × Cursor :=
  let nextLine (n : Nat) : Cursor :=
    { rest := c.rest.drop n, index := c.index + n, line := c.line + 1, column := 0 }
  match c.rest with
  | '\r' :: '\n' :: _ => (['\n'], nextLine 2)
  | '\r' :: _ | '\n' :: _ | '\u0085' :: _ => (['\n'], nextLine 1)
  | '\u2028' :: _ => (['\u2028'], nextLine 1)
  | '\u2029' :: _ => (['\u2029'], nextLine 1)
  | _ => ([], c)

/-- Whether three equal marks at the start of a line stand here, which begin or end a document. -/
def atMarks (c : Cursor) (mark : Char) : Bool :=
  c.column == 0 && c.rest.take 3 == [mark, mark, mark] && endsWord (c.peekAt 3)

/-- Whether a document begins or ends here. -/
def atDocumentMark (c : Cursor) : Bool := c.atMarks '-' || c.atMarks '.'

end Cursor

/-- What has been passed between two words of a scalar: the blanks if they stand on one line, else
the first line end and those that follow it. -/
structure Gap where
  blanks : List Char := []
  breaks : Option (List Char × List Char) := none

namespace Gap

/-- One more line end. -/
def addBreak (g : Gap) (b : List Char) : Gap :=
  match g.breaks with
  | none => { g with breaks := some (b, []) }
  | some (first, more) => { g with breaks := some (first, more ++ b) }

/-- What a gap contributes to the text: a single line feed becomes a space, further ones stay. -/
def fold (g : Gap) : List Char :=
  match g.breaks with
  | none => g.blanks
  | some (first, more) =>
      if first = ['\n'] then (if more.isEmpty then [' '] else more) else first ++ more

end Gap

/-- Pass blanks and line ends. After a line end no tab may stand left of the column `margin`.
The first argument bounds the number of steps. -/
def Cursor.takeGap (margin : Nat) : Nat → Cursor → Gap → Except Unreadable (Gap × Cursor)
  | 0, c, gap => .ok (gap, c)
  | steps + 1, c, gap =>
      match c.peek with
      | none => .ok (gap, c)
      | some ch =>
          if isGap ch then
            if gap.breaks.isSome then
              if ch == '\t' && c.column < margin then c.refuse
              else takeGap margin steps c.advance gap
            else takeGap margin steps c.advance { gap with blanks := gap.blanks ++ [ch] }
          else if isBreak ch then
            let (b, next) := c.takeBreak
            takeGap margin steps next (gap.addBreak b)
          else .ok (gap, c)

end SchemaCrosswalk.Yaml
