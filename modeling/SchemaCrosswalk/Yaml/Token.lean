/-!
# Tokens — the smallest pieces of a document

Opening and closing marks of collections, entries, keys and values, properties of nodes, and
scalars with the style they are written in.
-/

namespace SchemaCrosswalk.Yaml

/-- How a scalar is written. -/
inductive ScalarStyle
  | plain
  | singleQuoted
  | doubleQuoted
  | literal
  | folded
  deriving DecidableEq, Repr

/-- A tag as it is written: verbatim, or a handle with a suffix. -/
structure TagText where
  handle : String
  suffix : String
  deriving DecidableEq, Repr

/-- A token. Block marks are derived from indentation, all others stand in the text. -/
inductive Token
  | version (major minor : Nat)
  | tagHandle (handle expansion : String)
  | documentStart
  | documentEnd
  | blockSequence
  | blockMapping
  | blockEnd
  | flowSequence
  | flowSequenceEnd
  | flowMapping
  | flowMappingEnd
  | blockEntry
  | flowEntry
  | key
  | value
  | reference (name : String)
  | anchor (name : String)
  | tag (text : TagText)
  | scalar (text : String) (style : ScalarStyle)
  deriving DecidableEq, Repr

end SchemaCrosswalk.Yaml
