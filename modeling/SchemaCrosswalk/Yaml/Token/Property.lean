import SchemaCrosswalk.Yaml.Cursor
import SchemaCrosswalk.Yaml.Token

/-!
# Property tokens — anchors, references, tags and directives

Each reader starts at the indicator of the token and returns the token with the cursor behind it.
-/

namespace SchemaCrosswalk.Yaml.Token

/-! ## Anchors and references -/

/-- The name after `&` or `*`. A blank, a line end or one of a few marks must follow. -/
def anchorName (c : Cursor) : Except Unreadable (String × Cursor) :=
  let (name, next) := c.advance.takeWhile isNameChar
  if name.isEmpty then c.refuse
  else if endsWord next.peek || next.peek.any (fun ch => "?:,]\x7d%@\x60".toList.contains ch) then
    .ok (String.ofList name, next)
  else c.refuse

/-! ## Tags -/

/-- The characters of a tag; inside angle brackets and in directives also commas and square
brackets. -/
def isTagChar (wide : Bool) (c : Char) : Bool :=
  isNameChar c || ";/?:@&=+$.%!~*'()".toList.contains c || (wide && ",[]".toList.contains c)

/-- The bytes written as a percent sign and two hexadecimal digits at the start of a text, and the
rest. -/
def percentBytes : List Char → Option (List UInt8 × List Char)
  | '%' :: h :: l :: cs => do
      let byte ← Text.readNat 16 [h, l]
      let (bytes, rest) ← percentBytes cs
      some (UInt8.ofNat byte :: bytes, rest)
  | '%' :: _ => none
  | cs => some ([], cs)

/-- The characters of a tag with escaped bytes decoded; the first argument bounds the steps. -/
def decodeTag : Nat → List Char → Option (List Char)
  | _, [] => some []
  | 0, _ => none
  | steps + 1, c :: cs =>
      if c == '%' then do
        let (bytes, rest) ← percentBytes (c :: cs)
        let text ← String.fromUTF8? (ByteArray.mk bytes.toArray)
        (decodeTag steps rest).map (text.toList ++ ·)
      else (decodeTag steps cs).map (c :: ·)

/-- The suffix of a tag. It may be empty only if something of the tag has been read before. -/
def tagSuffix (wide mayBeEmpty : Bool) (c : Cursor) : Except Unreadable (List Char × Cursor) :=
  let (raw, next) := c.takeWhile (isTagChar wide)
  if raw.isEmpty && !mayBeEmpty then c.refuse
  else
    match decodeTag raw.length raw with
    | some text => .ok (text, next)
    | none => c.refuse

/-- A handle: an exclamation mark, a name and, if it stands there, a second exclamation mark. -/
def tagHandleText (c : Cursor) : Except Unreadable (List Char × Cursor) :=
  if c.peek != some '!' then c.refuse
  else
    let (name, next) := c.advance.takeWhile isNameChar
    if next.peek == some '!' then .ok ('!' :: name ++ ['!'], next.advance)
    else .ok ('!' :: name, next)

/-- A tag: `!<verbatim>`, `!handle!suffix` or `!suffix`. -/
def tagText (inFlow : Bool) (c : Cursor) : Except Unreadable (TagText × Cursor) := do
  let (text, next) ←
    if c.peekAt 1 == some '<' then do
      let (suffix, next) ← tagSuffix true false (c.advance 2)
      if next.peek != some '>' then c.refuse
      Except.ok (TagText.mk "" (String.ofList suffix), next.advance)
    else do
      let (handle, next) ← tagHandleText c
      if 2 ≤ handle.length && handle.getLast? == some '!' then
        let (suffix, next) ← tagSuffix false false next
        Except.ok (TagText.mk (String.ofList handle) (String.ofList suffix), next)
      else
        let (suffix, next) ← tagSuffix false true next
        let suffix := handle.drop 1 ++ suffix
        if suffix.isEmpty then Except.ok (TagText.mk "" "!", next)
        else Except.ok (TagText.mk "!" (String.ofList suffix), next)
  if endsWord next.peek || (inFlow && next.peek == some ',') then .ok (text, next)
  else c.refuse

/-! ## Directives -/

/-- A number of at most nine digits. -/
def versionNumber (c : Cursor) : Except Unreadable (Nat × Cursor) :=
  let (digits, next) := c.takeWhile Text.isDecimal
  match Text.readNat 10 digits with
  | some n => if digits.length ≤ 9 then .ok (n, next) else c.refuse
  | none => c.refuse

/-- A directive: a version or a tag handle. Only a comment may follow on its line. -/
def directive (c : Cursor) : Except Unreadable (Token × Cursor) := do
  let blanks (c : Cursor) : Cursor := (c.takeWhile isGap).2
  let (name, next) := c.advance.takeWhile isNameChar
  if !endsWord next.peek then c.refuse
  let (token, next) ←
    match String.ofList name with
    | "YAML" => do
        let (major, next) ← versionNumber (blanks next)
        if next.peek != some '.' then c.refuse
        let (minor, next) ← versionNumber next.advance
        Except.ok (Token.version major minor, next)
    | "TAG" => do
        let (handle, next) ← tagHandleText (blanks next)
        if handle.getLast? != some '!' then c.refuse
        if !next.peek.any isGap then c.refuse
        let (expansion, next) ← tagSuffix true false (blanks next)
        if !endsWord next.peek then c.refuse
        Except.ok (Token.tagHandle (String.ofList handle) (String.ofList expansion), next)
    | _ => c.refuse
  let next := blanks next
  let next := if next.peek == some '#' then (next.takeWhile (fun ch => !isBreak ch)).2 else next
  if endsLine next.peek then .ok (token, next.takeBreak.2) else c.refuse

end SchemaCrosswalk.Yaml.Token
