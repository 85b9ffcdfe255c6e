import SchemaCrosswalk.Text.Quoted
import SchemaCrosswalk.Yaml.Scalar

/-!
# Values — documents of any form

A value is what a node stands for when no particular form is expected of it.

- `Value.same`: equality as it decides whether a key is repeated
- `Value.describe`: a value in words, with its kind
-/

namespace SchemaCrosswalk.Yaml

/-- A value of any form. -/
inductive Value
  | null
  | bool (b : Bool)
  | number (n : Number)
  | text (s : String)
  | sequence (items : List Value)
  | mapping (entries : List (Value × Value))
  | tagged (tag : String) (value : Value)

namespace Value

mutual

/-- Whether two values are equal. The order of the entries of a mapping does not matter. -/
def same : Value → Value → Bool
  | .null, .null => true
  | .bool a, .bool b => a == b
  | .number a, .number b => a.same b
  | .text a, .text b => a == b
  | .sequence l, .sequence m => sameItems l m
  | .mapping l, .mapping m => l.length == m.length && entriesWithin l m
  | .tagged s a, .tagged t b => s == t && same a b
  | _, _ => false

/-- Whether two lists have equal items in the same order. -/
def sameItems : List Value → List Value → Bool
  | [], [] => true
  | a :: l, b :: m => same a b && sameItems l m
  | _, _ => false

/-- Whether every entry of the first list is one of the second. -/
def entriesWithin : List (Value × Value) → List (Value × Value) → Bool
  | [], _ => true
  | (k, a) :: l, m => m.any (fun p => same k p.1 && same a p.2) && entriesWithin l m

end

/-- Texts with commas between them. -/
def commaSeparated (texts : List String) : String := ", ".intercalate texts

mutual

/-- A value in words. -/
def describe : Value → String
  | .null => "Null"
  | .bool b => s!"Bool({b})"
  | .number n => s!"Number({n.render})"
  | .text s => s!"String({Text.quoted s})"
  | .sequence items => s!"Sequence [{commaSeparated (describeItems items)}]"
  | .mapping entries => "Mapping \x7b" ++ commaSeparated (describeEntries entries) ++ "\x7d"
  | .tagged tag value =>
      "TaggedValue \x7b tag: !" ++ tag ++ ", value: " ++ value.describe ++ " \x7d"

/-- Items in words. -/
def describeItems : List Value → List String
  | [] => []
  | item :: items => item.describe :: describeItems items

/-- Entries in words; the kind of a key is shown only if it is not simple. -/
def describeEntries : List (Value × Value) → List String
  | [] => []
  | (key, value) :: entries =>
      let shown := match key with
        | .bool b => toString b
        | .number n => n.render
        | .text s => Text.quoted s
        | other => other.describe
      (shown ++ ": " ++ value.describe) :: describeEntries entries

end

end Value

end SchemaCrosswalk.Yaml
