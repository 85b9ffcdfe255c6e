/-!
# JSON — results for other programs

Values and their text, with one entry or item per line and an indentation of two.
-/

namespace SchemaCrosswalk

/-- A JSON value without numbers; objects keep the order of their entries. -/
inductive Json
  | null
  | bool (b : Bool)
  | text (s : String)
  | array (items : List Json)
  | object (entries : List (String × Json))

namespace Json

/-- Texts as an array. -/
def texts (l : List String) : Json := .array (l.map .text)

/-- A character inside double quotes. -/
def escapedChar (c : Char) : List Char :=
  match c with
  | '"' => ['\\', '"']
  | '\\' => ['\\', '\\']
  | '\n' => ['\\', 'n']
  | '\r' => ['\\', 'r']
  | '\t' => ['\\', 't']
  | '\x08' => ['\\', 'b']
  | '\x0c' => ['\\', 'f']
  | c =>
      if c.toNat < 0x20 then
        ['\\', 'u', '0', '0', Nat.digitChar (c.toNat / 16), Nat.digitChar (c.toNat % 16)]
      else [c]

/-- A text between double quotes. -/
def quotedText (s : String) : String :=
  String.ofList (['"'] ++ s.toList.flatMap escapedChar ++ ['"'])

/-- Spaces for a depth. -/
def margin (depth : Nat) : String := String.ofList (List.replicate (2 * depth) ' ')

/-- Lines between brackets. -/
def bracketed (depth : Nat) (opening closing : String) (lines : List String) : String :=
  if lines.isEmpty then opening ++ closing
  else
    opening ++ "\n" ++ ",\n".intercalate (lines.map fun l => margin (depth + 1) ++ l) ++ "\n" ++
      margin depth ++ closing

mutual

/-- The text of a value whose first line stands at a depth. -/
def renderAt (depth : Nat) : Json → String
  | .null => "null"
  | .bool b => if b then "true" else "false"
  | .text s => quotedText s
  | .array items => bracketed depth "[" "]" (renderItems (depth + 1) items)
  | .object entries => bracketed depth "\x7b" "\x7d" (renderEntries (depth + 1) entries)

/-- The texts of items. -/
def renderItems (depth : Nat) : List Json → List String
  | [] => []
  | item :: items => item.renderAt depth :: renderItems depth items

/-- The texts of entries, each with its key. -/
def renderEntries (depth : Nat) : List (String × Json) → List String
  | [] => []
  | (key, value) :: entries =>
      (quotedText key ++ ": " ++ value.renderAt depth) :: renderEntries depth entries

end

/-- The text of a value. -/
def render (j : Json) : String := j.renderAt 0

end Json

end SchemaCrosswalk
