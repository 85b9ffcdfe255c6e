/-!
# Unreadable documents — why a text is not the document that was expected

A document is refused as a whole: because its text is not well formed, because its references do
not hold, or because what it holds does not have the expected form.
-/

namespace SchemaCrosswalk.Yaml

/-- The reason why a document could not be read. Lines and columns count from zero. -/
inductive Unreadable
  | character (line column : Nat)
  | token (line column : Nat)
  | illFormed
  | severalDocuments
  | unknownAnchor (name : String)
  | tooDeep
  | tooManyReferences
  | form (expected : String)
  | value (expected found : String)
  | missingField (name : String)
  | repeatedField (name : String)
  | content (message : String)
  deriving DecidableEq, Repr

/-- The reason in words. -/
def Unreadable.message : Unreadable → String
  | .character line column =>
      s!"character not allowed at line {line + 1} column {column + 1}"
  | .token line column => s!"unexpected text at line {line + 1} column {column + 1}"
  | .illFormed => "the document is not well formed"
  | .severalDocuments => "more than one document"
  | .unknownAnchor name => s!"unknown anchor {name}"
  | .tooDeep => "recursion limit exceeded"
  | .tooManyReferences => "repetition limit exceeded"
  | .form expected => s!"invalid type: expected {expected}"
  | .value expected found => s!"invalid value {found}: expected {expected}"
  | .missingField name => s!"missing field {name}"
  | .repeatedField name => s!"duplicate field {name}"
  | .content message => message

end SchemaCrosswalk.Yaml
