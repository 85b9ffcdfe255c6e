import SchemaCrosswalk.Yaml.Cursor
import SchemaCrosswalk.Yaml.Token

/-!
# Scalar tokens — plain, quoted and block scalars

Each reader starts at the first character of the scalar and returns its text with the cursor
behind it. Lines are folded as the style demands.
-/

namespace SchemaCrosswalk.Yaml.Token

/-! ## Plain scalars -/

/-- The marks that end a plain scalar inside brackets. -/
def isFlowMark (c : Char) : Bool := c == ',' || c == '[' || c == ']' || c == '\x7b' || c == '\x7d'

/-- The characters of a plain scalar up to white space or a mark. Inside brackets a colon may not
stand directly before a mark. -/
def plainRun (inFlow : Bool) : List Char → Option (List Char)
  | [] => some []
  | c :: cs =>
      if endsWord (some c) then some []
      else if inFlow && c == ':' && cs.head?.any (fun d => isFlowMark d || d == '?') then none
      else if (c == ':' && endsWord cs.head?) || (inFlow && isFlowMark c) then some []
      else (plainRun inFlow cs).map (c :: ·)

/-- The rest of a plain scalar: `text` has been read and `gap` passed since. In block context its
further lines start at the column `margin` or right of it. Also tells whether a line end has been
passed after the text. -/
def plainFrom (inFlow : Bool) (margin : Nat) :
    Nat → Cursor → List Char → Gap → Except Unreadable (List Char × Bool × Cursor)
  | 0, c, text, gap => .ok (text, gap.breaks.isSome, c)
  | steps + 1, c, text, gap =>
      if c.atDocumentMark || c.peek == some '#' then .ok (text, gap.breaks.isSome, c)
      else
        match plainRun inFlow c.rest with
        | none => c.refuse
        | some [] => .ok (text, gap.breaks.isSome, c)
        | some run => do
            let text := text ++ gap.fold ++ run
            let c := c.advance run.length
            let (gap, c) ← c.takeGap margin c.rest.length {}
            if !inFlow && c.column < margin then .ok (text, gap.breaks.isSome, c)
            else plainFrom inFlow margin steps c text gap

/-- A plain scalar. -/
def plain (inFlow : Bool) (margin : Nat) (c : Cursor) :
    Except Unreadable (List Char × Bool × Cursor) :=
  plainFrom inFlow margin (c.rest.length + 1) c [] {}

/-! ## Quoted scalars -/

/-- The characters for which a backslash and one letter stand. -/
def escapes : List (Char × Char) :=
  [('0', '\x00'), ('a', '\x07'), ('b', '\x08'), ('t', '\t'), ('\t', '\t'), ('n', '\n'),
    ('v', '\x0b'), ('f', '\x0c'), ('r', '\r'), ('e', '\x1b'), (' ', ' '), ('"', '"'), ('/', '/'),
    ('\\', '\\'), ('N', '\u0085'), ('_', '\u00a0'), ('L', '\u2028'), ('P', '\u2029')]

/-- How many hexadecimal digits follow the letter of a numeric escape. -/
def escapeLength : Char → Option Nat
  | 'x' => some 2
  | 'u' => some 4
  | 'U' => some 8
  | _ => none

/-- The character that a backslash and what follows it stand for, and how many characters that
takes after the backslash. -/
def escape (cs : List Char) : Option (Char × Nat) :=
  match cs with
  | [] => none
  | c :: cs =>
      match escapes.lookup c with
      | some out => some (out, 1)
      | none => do
          let n ← escapeLength c
          let digits := cs.take n
          let code ← Text.readNat 16 digits
          if digits.length = n ∧ code.isValidChar then some (Char.ofNat code, n + 1) else none

/-- The characters of a double-quoted scalar up to white space, the closing quote or an escaped
line end; the flag tells the last. -/
def doubleRun : Nat → Cursor → Except Unreadable (List Char × Bool × Cursor)
  | 0, c => .ok ([], false, c)
  | steps + 1, c =>
      match c.peek with
      | none => .ok ([], false, c)
      | some ch =>
          if endsWord (some ch) || ch == '"' then .ok ([], false, c)
          else if ch == '\\' then
            if (c.peekAt 1).any isBreak then .ok ([], true, c.advance.takeBreak.2)
            else
              match escape (c.rest.drop 1) with
              | none => c.refuse
              | some (out, n) => do
                  let (run, escaped, next) ← doubleRun steps (c.advance (n + 1))
                  .ok (out :: run, escaped, next)
          else do
            let (run, escaped, next) ← doubleRun steps c.advance
            .ok (ch :: run, escaped, next)

/-- The characters of a single-quoted scalar up to white space or the closing quote; a quote in the
text is written twice. -/
def singleRun : Nat → Cursor → List Char × Cursor
  | 0, c => ([], c)
  | steps + 1, c =>
      match c.rest with
      | [] => ([], c)
      | '\'' :: '\'' :: _ =>
          let (run, next) := singleRun steps (c.advance 2)
          ('\'' :: run, next)
      | ch :: _ =>
          if endsWord (some ch) || ch == '\'' then ([], c)
          else
            let (run, next) := singleRun steps c.advance
            (ch :: run, next)

/-- The rest of a quoted scalar, `text` having been read. -/
def quotedFrom (single : Bool) :
    Nat → Cursor → List Char → Except Unreadable (List Char × Cursor)
  | 0, c, _ => c.refuse
  | steps + 1, c, text => do
      if c.atDocumentMark || c.rest.isEmpty then c.refuse
      let (run, escaped, c) ←
        if single then
          let (run, next) := singleRun c.rest.length c
          .ok (run, false, next)
        else doubleRun c.rest.length c
      let text := text ++ run
      if c.peek == some (if single then '\'' else '"') then .ok (text, c.advance)
      else
        let gap : Gap := if escaped then { breaks := some ([], []) } else {}
        let (gap, c) ← c.takeGap 0 c.rest.length gap
        quotedFrom single steps c (text ++ gap.fold)

/-- A quoted scalar. -/
def quoted (single : Bool) (c : Cursor) : Except Unreadable (List Char × Cursor) :=
  quotedFrom single (c.rest.length + 1) c.advance []

/-! ## Block scalars -/

/-- What happens to the line ends at the end of a block scalar. -/
inductive Chomping
  | strip
  | clip
  | keep

/-- The chomping mark, if one stands here. -/
def chompingMark (c : Cursor) : Option Chomping :=
  match c.peek with
  | some '+' => some .keep
  | some '-' => some .strip
  | _ => none

/-- The indentation mark, a digit from 1 to 9, if one stands here. -/
def indentMark (c : Cursor) : Except Unreadable (Option Nat) :=
  match c.peek.bind Text.digitValue with
  | some 0 => c.refuse
  | some n => .ok (if n < 10 then some n else none)
  | none => .ok none

/-- The marks after the bar or the angle bracket, in either order. -/
def blockHeader (c : Cursor) : Except Unreadable (Chomping × Option Nat × Cursor) := do
  match chompingMark c with
  | some chomping =>
      let c := c.advance
      match ← indentMark c with
      | some n => .ok (chomping, some n, c.advance)
      | none => .ok (chomping, none, c)
  | none =>
      match ← indentMark c with
      | some n =>
          let c := c.advance
          match chompingMark c with
          | some chomping => .ok (chomping, some n, c.advance)
          | none => .ok (.clip, some n, c)
      | none => .ok (.clip, none, c)

/-- Pass the indentation and the empty lines before a line of a block scalar. While the indentation
is unknown all spaces belong to it; `widest` is the widest one seen. Returns the line ends. -/
def blockBreaks (indent : Option Nat) :
    Nat → Cursor → Nat → List Char → Except Unreadable (List Char × Nat × Cursor)
  | 0, c, widest, breaks => .ok (breaks, widest, c)
  | steps + 1, c, widest, breaks => do
      let inIndent (c : Cursor) : Bool := indent.all (fun n => decide (c.column < n))
      let spaces := (c.takeWhile (· == ' ')).1.length
      let width := match indent with
        | some n => min spaces (n - c.column)
        | none => spaces
      let c := c.advance width
      let widest := max widest c.column
      if inIndent c && c.peek == some '\t' then c.refuse
      else if c.peek.any isBreak then
        let (b, c) := c.takeBreak
        blockBreaks indent steps c widest (breaks ++ b)
      else .ok (breaks, widest, c)

/-- The lines of a block scalar. `text` has been read; `pending` is the last line end and `breaks`
are those of the empty lines after it; `wasGap` tells that the last line began with a blank. -/
def blockLines (literal : Bool) (indent : Nat) :
    Nat → Cursor → (text pending breaks : List Char) → Bool →
      Except Unreadable (List Char × List Char × List Char × Cursor)
  | 0, c, text, pending, breaks, _ => .ok (text, pending, breaks, c)
  | steps + 1, c, text, pending, breaks, wasGap => do
      if c.column != indent || c.rest.isEmpty then .ok (text, pending, breaks, c)
      else
        let startsGap := c.peek.any isGap
        let joint :=
          if !literal && pending == ['\n'] && !wasGap && !startsGap then
            (if breaks.isEmpty then [' '] else [])
          else pending
        let (line, c) := c.takeWhile (fun ch => !isBreak ch)
        let (pending, c) := c.takeBreak
        let (more, _, c) ← blockBreaks (some indent) (c.rest.length + 1) c 0 []
        blockLines literal indent steps c (text ++ joint ++ breaks ++ line) pending more startsGap

/-- A block scalar inside a collection indented to the column `level - 1`, where `level` is 0 at
the top of a document. -/
def block (literal : Bool) (level : Nat) (c : Cursor) :
    Except Unreadable (List Char × Cursor) := do
  let (chomping, given, c) ← blockHeader c.advance
  let c := (c.takeWhile isGap).2
  let c := if c.peek == some '#' then (c.takeWhile (fun ch => !isBreak ch)).2 else c
  if !endsLine c.peek then c.refuse
  let c := c.takeBreak.2
  let indent := given.map (fun n => level - 1 + n)
  let (breaks, widest, c) ← blockBreaks indent (c.rest.length + 1) c 0 []
  let indent := indent.getD (max widest (max level 1))
  let steps := c.rest.length + 1
  let (text, pending, breaks, c) ← blockLines literal indent steps c [] [] breaks false
  let tail := match chomping with
    | .strip => []
    | .clip => pending
    | .keep => pending ++ breaks
  .ok (text ++ tail, c)

end SchemaCrosswalk.Yaml.Token
