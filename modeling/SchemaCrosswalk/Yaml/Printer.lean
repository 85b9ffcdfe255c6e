import SchemaCrosswalk.Yaml.Cursor
import SchemaCrosswalk.Yaml.Scalar
import SchemaCrosswalk.Yaml.Token

/-!
# Printing documents — records and dictionaries in block style

A document is printed with one entry per line, nested entries being indented by two. A text is
written plain where that reads back as the same text, else in quotes, and as a literal block if it
has several lines.

- `Tree`: what is printed
- `Tree.render`: the text of a document
- `styleOf`: how a text is written
-/

namespace SchemaCrosswalk.Yaml

/-- What a document can hold when it is written: texts, numbers and entries under names. -/
inductive Tree
  | text (s : String)
  | number (n : Nat)
  | table (entries : List (String × Tree))

namespace Printer

/-! ## The style of a text -/

/-- Whether a character can be written as it is. -/
def isPrintable (c : Char) : Bool :=
  Text.inRanges [(0x0A, 0x0A), (0x20, 0x7E), (0xA0, 0xD7FF), (0xE000, 0xFEFE), (0xFF00, 0xFFFD),
    (0x10000, 0x10FFFF)] c.toNat

/-- Marks that a plain text may not start with. -/
def isLeadingMark (c : Char) : Bool := "#,[]\x7b\x7d&*!|>'\"%@\x60".toList.contains c

/-- Whether a mark stands in the text that plain style would take for structure. `before` is the
character before the text, none at its start. -/
def hasMark : (before : Option Char) → List Char → Bool
  | _, [] => false
  | before, c :: cs =>
      let blankNext := endsWord cs.head?
      let here := match before with
        | none => isLeadingMark c || ((c == '?' || c == ':' || c == '-') && blankNext)
        | some b => (c == ':' && blankNext) || (c == '#' && endsWord (some b))
      here || hasMark (some c) cs

/-- Whether a character satisfying `p` is directly followed by one satisfying `q`. -/
def hasPair (p q : Char → Bool) : List Char → Bool
  | c :: d :: cs => (p c && q d) || hasPair p q (d :: cs)
  | _ => false

/-- Whether a text starts with the marks of a document. -/
def startsWithMarks (cs : List Char) : Bool :=
  cs.take 3 == ['-', '-', '-'] || cs.take 3 == ['.', '.', '.']

/-- A space. Tabs are no spaces where lines are laid out. -/
def isSpace (c : Char) : Bool := c == ' '

/-- Whether quoted and block style would lose something of the text. -/
def needsEscapes (cs : List Char) : Bool :=
  cs.any (fun c => !isPrintable c) || hasPair isSpace isBreak cs

/-- Whether plain style would lose something of the text or take it for structure. -/
def plainAllowed (cs : List Char) : Bool :=
  !(needsEscapes cs || cs.any isBreak || cs.head?.any isSpace || cs.getLast?.any isSpace ||
    startsWithMarks cs || hasMark none cs)

/-- Whether single quotes keep the text. -/
def singleAllowed (cs : List Char) : Bool := !(needsEscapes cs || hasPair isBreak isSpace cs)

/-- Whether a literal block keeps the text. -/
def literalAllowed (cs : List Char) : Bool := !(needsEscapes cs || cs.getLast?.any isSpace)

/-- Whether a text would be read as something else than text if it were plain. -/
def readsOtherwise (s : String) : Bool :=
  Scalar.ofPlain s != .text || Scalar.hasNeedlessZero s.toList

/-- How a text is written. -/
def styleOf (s : String) : ScalarStyle :=
  let cs := s.toList
  if cs.contains '\n' then
    if literalAllowed cs then .literal else .doubleQuoted
  else if !readsOtherwise s && plainAllowed cs then .plain
  else if singleAllowed cs then .singleQuoted
  else .doubleQuoted

/-! ## Texts -/

/-- Indentation by a number of columns. -/
def spaces (n : Nat) : List Char := List.replicate n ' '

/-- The characters written as a backslash and a letter. -/
def letterEscapes : List (Char × Char) :=
  [('\x00', '0'), ('\x07', 'a'), ('\x08', 'b'), ('\t', 't'), ('\n', 'n'), ('\x0b', 'v'),
    ('\x0c', 'f'), ('\r', 'r'), ('\x1b', 'e'), ('"', '"'), ('\\', '\\'), ('\u0085', 'N'),
    ('\u2028', 'L'), ('\u2029', 'P')]

/-- A number in so many hexadecimal digits, in capitals. -/
def hex (width n : Nat) : List Char :=
  let ds := (Nat.toDigits 16 n).map Char.toUpper
  List.replicate (width - ds.length) '0' ++ ds

/-- A character between double quotes. -/
def escaped (c : Char) : List Char :=
  match letterEscapes.lookup c with
  | some letter => ['\\', letter]
  | none =>
      if isPrintable c then [c]
      else if c.toNat < 0x100 then '\\' :: 'x' :: hex 2 c.toNat
      else if c.toNat < 0x10000 then '\\' :: 'u' :: hex 4 c.toNat
      else '\\' :: 'U' :: hex 8 c.toNat

/-- The lines of a text, each but the empty ones indented. `fresh` says that a line starts. -/
def indented (indent : Nat) : (fresh : Bool) → List Char → List Char
  | _, [] => []
  | fresh, c :: cs =>
      if isBreak c then c :: indented indent true cs
      else (if fresh then spaces indent else []) ++ c :: indented indent false cs

/-- A text in single quotes. -/
def singleQuoted (indent : Nat) (cs : List Char) : List Char :=
  let body := indented indent false (cs.flatMap fun c => if c == '\'' then ['\'', '\''] else [c])
  let last := if cs.getLast?.any isBreak then spaces indent else []
  ['\''] ++ body ++ last ++ ['\'']

/-- The marks after the bar: an indentation if the text starts blank, and whether the line ends
after it are dropped or kept. -/
def literalHeader (cs : List Char) : List Char :=
  let start := if cs.head?.any (fun c => isSpace c || isBreak c) then ['2'] else []
  let ending := match cs.reverse with
    | [] => ['-']
    | [c] => if isBreak c then ['+'] else ['-']
    | c :: d :: _ => if !isBreak c then ['-'] else if isBreak d then ['+'] else []
  '|' :: start ++ ending

/-- A text in its style, its further lines indented. -/
def scalar (indent : Nat) (s : String) : List Char :=
  let cs := s.toList
  match styleOf s with
  | .plain => cs
  | .singleQuoted => singleQuoted indent cs
  | .literal | .folded => literalHeader cs ++ ['\n'] ++ indented indent true cs
  | .doubleQuoted => ['"'] ++ cs.flatMap escaped ++ ['"']

/-- End a line unless it is ended. -/
def endLine (cs : List Char) : List Char := if cs.getLast?.any isBreak then cs else cs ++ ['\n']

/-! ## Entries -/

/-- Whether a name can be written before its colon without a mark: it has one line and at most 128
bytes. -/
def isSimpleKey (key : String) : Bool := !key.toList.any isBreak && key.utf8ByteSize ≤ 128

/-- What stands before the value of an entry: the name, after a question mark if it is not simple,
and the colon. -/
def keyPart (indent : Nat) (key : String) : List Char :=
  if isSimpleKey key then scalar (indent + 2) key ++ [':']
  else endLine ('?' :: ' ' :: scalar (indent + 2) key) ++ spaces indent ++ [':']

mutual

/-- A value after the colon of its entry. -/
def valuePart (indent : Nat) (compact : Bool) : Tree → List Char
  | .text s => endLine (' ' :: scalar (indent + 2) s)
  | .number n => ' ' :: (toString n).toList ++ ['\n']
  | .table [] => [' ', '\x7b', '\x7d', '\n']
  | .table (e :: es) =>
      if compact then ' ' :: entriesPart (indent + 2) false (e :: es)
      else '\n' :: entriesPart (indent + 2) true (e :: es)

/-- Entries below each other; the first one is indented only if it starts a line. -/
def entriesPart (indent : Nat) (fresh : Bool) : List (String × Tree) → List Char
  | [] => []
  | (key, value) :: rest =>
      (if fresh then spaces indent else []) ++ keyPart indent key ++
        valuePart indent (!isSimpleKey key) value ++ entriesPart indent true rest

end

end Printer

/-- The text of a document. -/
def Tree.render : Tree → String
  | .text s => String.ofList (Printer.endLine (Printer.scalar 2 s))
  | .number n => toString n ++ "\n"
  | .table [] => "\x7b\x7d\n"
  | .table (e :: es) => String.ofList (Printer.entriesPart 0 true (e :: es))

end SchemaCrosswalk.Yaml
