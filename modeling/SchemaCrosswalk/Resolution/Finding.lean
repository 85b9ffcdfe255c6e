/-!
# Findings — what is wrong with a mapping of columns, and what to do about it

- `Violation`: why an explicit mapping is refused
- `Guidance`: how a required sink column could be populated
-/

namespace SchemaCrosswalk

/-- Texts with a comma between them. -/
def commaList (texts : List String) : String := ", ".intercalate texts

/-- A reason to refuse explicit mappings. -/
inductive Violation
  | unknownSourceColumn (column : String) (available : List String)
  | unknownSinkColumn (column : String) (available : List String)
  | typeMismatch (sourceColumn sourceType sinkColumn sinkType : String)
  | duplicateSinkColumn (sinkColumn : String) (sourceColumns : List String)
  deriving DecidableEq, Repr

/-- The reason in words. -/
def Violation.message : Violation → String
  | .unknownSourceColumn column available =>
      s!"unknown source column '{column}' (available: {commaList available})"
  | .unknownSinkColumn column available =>
      s!"unknown sink column '{column}' (available: {commaList available})"
  | .typeMismatch sourceColumn sourceType sinkColumn sinkType =>
      s!"type mismatch: source column '{sourceColumn}' ({sourceType}) cannot populate " ++
        s!"sink column '{sinkColumn}' ({sinkType})"
  | .duplicateSinkColumn sinkColumn sourceColumns =>
      s!"sink column '{sinkColumn}' mapped more than once (from: {commaList sourceColumns})"

/-- What can be done for a required sink column that nothing populates. -/
inductive Guidance
  | incompatibleIdentity (sinkColumn sinkType sourceType : String) (candidates : List String)
  | noIdentityCandidate (sinkColumn sinkType : String) (availableSources : List String)
  deriving DecidableEq, Repr

namespace Guidance

/-- The sink column that the guidance is about. -/
def sinkColumn : Guidance → String
  | .incompatibleIdentity column _ _ _ => column
  | .noIdentityCandidate column _ _ => column

/-- The guidance in words. -/
def message : Guidance → String
  | .incompatibleIdentity column sinkType sourceType candidates =>
      s!"required sink column '{column}' ({sinkType}) has a same-named source column of type " ++
        s!"{sourceType}, which cannot populate it; add an explicit mapping from a compatible " ++
        "source column" ++
        (if candidates.isEmpty then "" else s!" (e.g. {commaList candidates})")
  | .noIdentityCandidate column sinkType available =>
      s!"required sink column '{column}' ({sinkType}) has no source column of the same name; " ++
        "map one explicitly" ++
        (if available.isEmpty then " (the source table has no columns)"
        else s!" (available: {commaList available})")

end Guidance

end SchemaCrosswalk
