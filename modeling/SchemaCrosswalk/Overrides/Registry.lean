import SchemaCrosswalk.Overrides.Document
import SchemaCrosswalk.PairTable

/-!
# Override registries — the overrides of one group in effect

A registry holds the document of a group with an index over it, by which a column is found
without a search.

- `OverrideRegistry.get?`: the override of a column
- `OverrideRegistry.effectiveType`: the type of a column, overridden or declared
-/

namespace SchemaCrosswalk

/-- Types by table and column, both in lower case. -/
abbrev OverrideIndex := PairTable String

/-- The index of overrides, a later one replacing an earlier one. -/
def OverrideIndex.ofEntries (entries : List OverrideEntry) : OverrideIndex :=
  entries.foldl
    (fun ix e => ix.put (Text.toLowercase e.table) (Text.toLowercase e.column) e.type)
    PairTable.empty

/-- The overrides of one group of services that read from one engine. -/
structure OverrideRegistry where
  group : String
  engine : String
  document : OverrideDocument
  index : OverrideIndex
  index_eq : index = OverrideIndex.ofEntries document.entries

namespace OverrideRegistry

/-- The registry of a document. -/
def ofDocument (group engine : String) (document : OverrideDocument) : OverrideRegistry :=
  ⟨group, engine, document, OverrideIndex.ofEntries document.entries, rfl⟩

/-- The registry of a group without overrides. -/
def empty (group engine : String) : OverrideRegistry := ofDocument group engine .empty

/-- The override of a column, if any. -/
def get? (r : OverrideRegistry) (table column : String) : Option String :=
  r.index.get? (Text.toLowercase table) (Text.toLowercase column)

/-- The type in effect for a column: its override, or else the declared type. -/
def effectiveType (r : OverrideRegistry) (table column declared : String) : String :=
  (r.get? table column).getD declared

/-- All overrides in order. -/
def entries (r : OverrideRegistry) : List OverrideEntry := r.document.entries

/-- The number of columns with an override. -/
def size (r : OverrideRegistry) : Nat := r.index.size

/-- Whether no column has an override. -/
def isEmpty (r : OverrideRegistry) : Bool := r.index.isEmpty

end OverrideRegistry

end SchemaCrosswalk
