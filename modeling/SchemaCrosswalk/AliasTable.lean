import SchemaCrosswalk.Dictionary
import SchemaCrosswalk.Fault
import SchemaCrosswalk.Spelling

/-!
# Alias tables — other spellings of the types of one engine

An alias leads from a normalized spelling, with its parameters, to the type it stands for. It does
so in one hop: no target is itself an alias for something else.

- `AliasTable.ofEntries`: the table that a document declares, if it is consistent
- `AliasTable.resolve`: the type that a spelling stands for
-/

namespace SchemaCrosswalk

/-- Aliases of one side: normalized spelling to type. -/
structure AliasTable where
  entries : Dictionary CanonicalType
  stripsParameters : Bool

namespace AliasTable

/-- One more alias. Neither name may be empty, and an alias has only one target. -/
def add (side : Side) (stripsParameters : Bool) (entries : Dictionary CanonicalType)
    (entry : String × String) : Except Misconfiguration (Dictionary CanonicalType) :=
  let name := Spelling.normalize entry.1
  let target := Spelling.canonical entry.2 stripsParameters
  if name.isEmpty || target.isEmpty then .error (.emptyTypeName s!"aliases.{side.name}")
  else
    match entries.get? name with
    | some existing =>
        if existing = target then .ok (entries.insert name target)
        else .error (.aliasConflict side name existing target)
    | none => .ok (entries.insert name target)

/-- The first alias whose target is an alias for another type: alias, target and that type. -/
def chain? (entries : Dictionary CanonicalType) : Option (String × String × String) :=
  entries.entries.findSome? fun (name, target) =>
    match entries.get? target with
    | some next => if next = target then none else some (name, target, next)
    | none => none

/-- The table of the aliases that a document declares for one side. -/
def ofEntries (raw : Dictionary String) (stripsParameters : Bool) (side : Side) :
    Except Misconfiguration AliasTable := do
  let entries ← raw.entries.foldlM (add side stripsParameters) Dictionary.empty
  match chain? entries with
  | some (name, target, next) => .error (.aliasChain side name target next)
  | none => .ok ⟨entries, stripsParameters⟩

/-- The type that a spelling stands for: the target of the whole spelling or, where parameters do
not count, of the spelling without them. A spelling that is no alias stands for itself. -/
def resolve (t : AliasTable) (raw : String) : CanonicalType :=
  let spelling := Spelling.normalize raw
  match t.entries.get? spelling with
  | some target => target
  | none =>
      if t.stripsParameters then
        let base := Spelling.strip spelling
        (t.entries.get? base).getD base
      else spelling

/-- The number of aliases. -/
def size (t : AliasTable) : Nat := t.entries.size

/-- Whether there are no aliases. -/
def isEmpty (t : AliasTable) : Bool := t.entries.isEmpty

end AliasTable

end SchemaCrosswalk
