import SchemaCrosswalk.Yaml.Token.Property
import SchemaCrosswalk.Yaml.Token.Scalar

/-!
# Token streams — the tokens of a text

The tokens are found from left to right. Indentation opens and closes block collections. A key
without the mark `?` is recognised only when its colon is met, so that the tokens before it are
put in place then; for that each level of brackets remembers the last place a key may start at.

- `ofText`: the tokens of a text, or why it has none
-/

namespace SchemaCrosswalk.Yaml.Token

/-- A place where a key may have started: the number of tokens before it, where in the text it
stands, and whether it can be nothing but a key. -/
structure KeyPlace where
  tokens : Nat
  index : Nat
  line : Nat
  column : Nat
  required : Bool

/-- The state between two tokens. A block collection at column `n` counts as level `n + 1`. -/
structure Stream where
  cursor : Cursor
  found : Array Token := #[]
  level : Nat := 0
  outerLevels : List Nat := []
  keyAllowed : Bool := true
  keyPlace : Option KeyPlace := none
  outerKeyPlaces : List (Option KeyPlace) := []

namespace Stream

/-- Whether brackets are open. -/
def inFlow (s : Stream) : Bool := !s.outerKeyPlaces.isEmpty

/-- One more token at the end. -/
def emit (s : Stream) (t : Token) : Stream := { s with found := s.found.push t }

/-- Put a token before the tokens found since there were `n`. -/
def emitAt (s : Stream) (n : Nat) (t : Token) : Stream :=
  { s with found := s.found.extract 0 n ++ #[t] ++ s.found.extract n s.found.size }

/-- Close the block collections above a level; the list holds the levels around the innermost. -/
def closeBlocks (target : Nat) : List Nat → Stream → Stream
  | outer, s =>
      if s.level ≤ target then { s with outerLevels := outer }
      else
        match outer with
        | [] => { s.emit .blockEnd with level := 0, outerLevels := [] }
        | level :: rest => closeBlocks target rest { s.emit .blockEnd with level := level }

/-- Close the block collections indented further than the level; inside brackets none is closed. -/
def closeTo (s : Stream) (target : Nat) : Stream :=
  if s.inFlow then s else closeBlocks target s.outerLevels s

/-- Open a block collection at a column unless one is open there, its mark standing before the
tokens found since there were `n`. -/
def openBlock (s : Stream) (column n : Nat) (t : Token) : Stream :=
  if s.inFlow || column < s.level then s
  else { s.emitAt n t with level := column + 1, outerLevels := s.level :: s.outerLevels }

/-- Forget the place of a key; one that had to be a key is an error. -/
def dropKeyPlace (s : Stream) : Except Unreadable Stream :=
  if s.keyPlace.any (·.required) then s.cursor.refuse else .ok { s with keyPlace := none }

/-- Remember this place as one where a key may start, if keys are allowed here. -/
def markKeyPlace (s : Stream) : Except Unreadable Stream := do
  if s.keyAllowed then
    let dropped ← s.dropKeyPlace
    .ok { dropped with keyPlace := some {
      tokens := s.found.size, index := s.cursor.index, line := s.cursor.line,
      column := s.cursor.column, required := !s.inFlow && s.level == s.cursor.column + 1 } }
  else .ok s

/-- The remembered place if the key can end here: a key without a mark stands on one line and has
at most 1024 characters. -/
def reachableKeyPlace (s : Stream) : Except Unreadable (Option KeyPlace) :=
  match s.keyPlace with
  | none => .ok none
  | some place =>
      if place.line < s.cursor.line || place.index + 1024 < s.cursor.index then
        if place.required then s.cursor.refuse else .ok none
      else .ok (some place)

/-! ## Between tokens -/

/-- Pass blanks, comments and line ends. Tabs count as blanks only where no indentation matters. -/
def skipBlanks : Nat → Stream → Stream
  | 0, s => s
  | steps + 1, s =>
      let c := s.cursor
      let c := if c.index == 0 && c.peek == some '\ufeff' then c.advance else c
      let tabs := s.inFlow || !s.keyAllowed
      let c := (c.takeWhile (fun ch => ch == ' ' || (tabs && ch == '\t'))).2
      let c := if c.peek == some '#' then (c.takeWhile (fun ch => !isBreak ch)).2 else c
      if c.peek.any isBreak then
        skipBlanks steps
          { s with cursor := c.takeBreak.2, keyAllowed := s.keyAllowed || !s.inFlow }
      else { s with cursor := c }

/-! ## One token -/

/-- The end of the text closes all block collections. -/
def finish (s : Stream) : Except Unreadable (Array Token) := do
  let s ← (s.closeTo 0).dropKeyPlace
  .ok s.found

/-- A mark of `n` characters that begins, ends or describes a document. -/
def documentMark (s : Stream) (t : Token) : Except Unreadable Stream := do
  let s ← (s.closeTo 0).dropKeyPlace
  .ok ({ s with keyAllowed := false, cursor := s.cursor.advance 3 }.emit t)

/-- A directive, which stands outside all collections. -/
def directiveLine (s : Stream) : Except Unreadable Stream := do
  let s ← (s.closeTo 0).dropKeyPlace
  let (t, c) ← directive s.cursor
  .ok ({ s with keyAllowed := false, cursor := c }.emit t)

/-- An opening bracket; a key may start there and inside. -/
def openFlow (s : Stream) (t : Token) : Except Unreadable Stream := do
  let s ← s.markKeyPlace
  .ok ({ s with
    keyAllowed := true, cursor := s.cursor.advance, keyPlace := none,
    outerKeyPlaces := s.keyPlace :: s.outerKeyPlaces }.emit t)

/-- A closing bracket. -/
def closeFlow (s : Stream) (t : Token) : Except Unreadable Stream := do
  let s ← s.dropKeyPlace
  let s := match s.outerKeyPlaces with
    | [] => s
    | place :: rest => { s with keyPlace := place, outerKeyPlaces := rest }
  .ok ({ s with keyAllowed := false, cursor := s.cursor.advance }.emit t)

/-- A comma between the entries of a collection in brackets; a key may start after it. -/
def flowEntryMark (s : Stream) : Except Unreadable Stream := do
  let s ← s.dropKeyPlace
  .ok ({ s with keyAllowed := true, cursor := s.cursor.advance }.emit .flowEntry)

/-- Open a block collection at the cursor, where a key could stand. -/
def openBlockHere (s : Stream) (t : Token) : Except Unreadable Stream :=
  if s.inFlow then .ok s
  else if s.keyAllowed then .ok (s.openBlock s.cursor.column s.found.size t)
  else s.cursor.refuse

/-- A hyphen before an item of a block sequence; a key may start after it. -/
def blockEntryMark (s : Stream) : Except Unreadable Stream := do
  let s ← (← s.openBlockHere .blockSequence).dropKeyPlace
  .ok ({ s with keyAllowed := true, cursor := s.cursor.advance }.emit .blockEntry)

/-- A question mark before a key; in block context a further key may start after it. -/
def keyMark (s : Stream) : Except Unreadable Stream := do
  let s ← (← s.openBlockHere .blockMapping).dropKeyPlace
  .ok ({ s with keyAllowed := !s.inFlow, cursor := s.cursor.advance }.emit .key)

/-- A colon makes a key of what stands at the remembered place. -/
def valueMark (s : Stream) : Except Unreadable Stream := do
  match ← s.reachableKeyPlace with
  | some place =>
      let s := s.emitAt place.tokens .key
      let s := s.openBlock place.column place.tokens .blockMapping
      .ok ({ s with keyAllowed := false, keyPlace := none, cursor := s.cursor.advance }.emit .value)
  | none =>
      let s ← s.openBlockHere .blockMapping
      .ok ({ s with
        keyAllowed := !s.inFlow, keyPlace := none, cursor := s.cursor.advance }.emit .value)

/-- A property or a scalar that may start a key. -/
def nodePart (s : Stream) (read : Cursor → Except Unreadable (Token × Cursor)) :
    Except Unreadable Stream := do
  let s ← s.markKeyPlace
  let (t, c) ← read s.cursor
  .ok ({ s with keyAllowed := false, cursor := c }.emit t)

/-- A literal or folded scalar; a key may start on the line after it. -/
def blockScalar (s : Stream) (isLiteral : Bool) : Except Unreadable Stream := do
  let s ← s.dropKeyPlace
  let (text, c) ← block isLiteral s.level s.cursor
  let style := if isLiteral then ScalarStyle.literal else ScalarStyle.folded
  .ok ({ s with keyAllowed := true, cursor := c }.emit (.scalar (String.ofList text) style))

/-- A scalar in quotes, which may be a key. -/
def quotedScalar (s : Stream) (single : Bool) : Except Unreadable Stream :=
  s.nodePart fun c => do
    let (text, c) ← quoted single c
    let style := if single then ScalarStyle.singleQuoted else ScalarStyle.doubleQuoted
    .ok (.scalar (String.ofList text) style, c)

/-- A scalar without quotes, which may be a key. After a line end a key may start. -/
def plainScalar (s : Stream) : Except Unreadable Stream := do
  let s ← s.markKeyPlace
  let (text, atLineStart, c) ← plain s.inFlow s.level s.cursor
  .ok ({ s with keyAllowed := atLineStart, cursor := c }.emit
    (.scalar (String.ofList text) .plain))

/-- Whether a plain scalar may start with this character, `next` being the one after it. -/
def startsPlain (inFlow : Bool) (ch : Char) (next : Option Char) : Bool :=
  if ch == '-' then !next.any isGap
  else if ch == '?' || ch == ':' then !inFlow && !endsWord next
  else !endsWord (some ch) && !",[]\x7b\x7d#&*!|>'\"%@\x60".toList.contains ch

/-- The next token, starting with `ch` at the cursor. -/
def nextToken (s : Stream) (ch : Char) : Except Unreadable Stream :=
  let c := s.cursor
  let markEnds := endsWord (c.peekAt 1)
  if c.column == 0 && ch == '%' then s.directiveLine
  else if c.atMarks '-' then s.documentMark .documentStart
  else if c.atMarks '.' then s.documentMark .documentEnd
  else if ch == '[' then s.openFlow .flowSequence
  else if ch == '\x7b' then s.openFlow .flowMapping
  else if ch == ']' then s.closeFlow .flowSequenceEnd
  else if ch == '\x7d' then s.closeFlow .flowMappingEnd
  else if ch == ',' then s.flowEntryMark
  else if ch == '-' && markEnds then s.blockEntryMark
  else if ch == '?' && (s.inFlow || markEnds) then s.keyMark
  else if ch == ':' && (s.inFlow || markEnds) then s.valueMark
  else if ch == '*' then
    s.nodePart fun c => (anchorName c).map fun (name, c) => (.reference name, c)
  else if ch == '&' then s.nodePart fun c => (anchorName c).map fun (name, c) => (.anchor name, c)
  else if ch == '!' then
    s.nodePart fun c => (tagText s.inFlow c).map fun (text, c) => (.tag text, c)
  else if ch == '|' && !s.inFlow then s.blockScalar true
  else if ch == '>' && !s.inFlow then s.blockScalar false
  else if ch == '\'' then s.quotedScalar true
  else if ch == '"' then s.quotedScalar false
  else if startsPlain s.inFlow ch (c.peekAt 1) then s.plainScalar
  else c.refuse

/-- All tokens from here on; every step passes at least one character. -/
def run : Nat → Stream → Except Unreadable (Array Token)
  | 0, s => s.cursor.refuse
  | steps + 1, s => do
      let s := s.skipBlanks (s.cursor.rest.length + 1)
      let s := s.closeTo (s.cursor.column + 1)
      match s.cursor.peek with
      | none => s.finish
      | some ch => run steps (← s.nextToken ch)

end Stream

/-! ## Texts -/

/-- Whether a character may stand in a document. -/
def isAllowed (c : Char) : Bool :=
  Text.inRanges [(0x09, 0x0A), (0x0D, 0x0D), (0x20, 0x7E), (0x85, 0x85), (0xA0, 0xD7FF),
    (0xE000, 0xFFFD), (0x10000, 0x10FFFF)] c.toNat

/-- The tokens of a text. -/
def ofText (text : String) : Except Unreadable (List Token) :=
  let cs := text.toList
  if cs.all isAllowed then
    (Stream.run (cs.length + 1) { cursor := { rest := cs } }).map Array.toList
  else .error (.character 0 (cs.takeWhile isAllowed).length)

end SchemaCrosswalk.Yaml.Token
