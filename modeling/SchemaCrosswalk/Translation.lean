import SchemaCrosswalk.Column
import SchemaCrosswalk.Engine
import SchemaCrosswalk.Fault
import SchemaCrosswalk.Spelling
import SchemaCrosswalk.Yaml.Form

/-!
# Type translations — sink types for the columns of a cloned table

A translation names a sink type for every source type: the one it lists or its fallback. It is
declared for one ordered pair of engines and can be inverted to serve the other direction.

- `Translation.ofDocument`: the translation that a document declares
- `lookup`: the listed sink type, by exact spelling, by normal form, or without parameters
- `invert`: the translation for the other direction
- `mapType`, `mapColumn`, `cloneTable`: types and columns of a cloned table
-/

namespace SchemaCrosswalk

/-- The entries of a list by a key; of entries with one key the first one counts. -/
def firstWins (key : String → String) (entries : List (String × String)) : Dictionary String :=
  entries.foldl
    (fun d p => if d.contains (key p.1) then d else d.insert (key p.1) p.2)
    Dictionary.empty

/-- A translation for one ordered pair of engines, with its entries indexed by their spelling and
by its normal form. -/
structure Translation where
  sourceEngine : String
  sinkEngine : String
  origin : String
  entries : List (String × String)
  fallback : String
  reverseFallback : String
  inverted : Bool
  exact : Dictionary String
  folded : Dictionary String
  exact_eq : exact = firstWins id entries
  folded_eq : folded = firstWins Spelling.normalize entries

namespace Translation

/-! ## Documents -/

/-- The fallback of a translation that declares none. -/
def defaultFallback : String := "text"

/-- A translation as a document declares it. -/
structure Document where
  sourceEngine : Option String := none
  sinkEngine : Option String := none
  mappings : List (Yaml.Value × Yaml.Value) := []
  fallback : String := defaultFallback
  reverseFallback : Option String := none

open Yaml in
/-- The form of the mappings: a mapping with any distinct keys. -/
def mappingsForm : Form (List (Value × Value)) := Form.ofNode fun d node =>
  match node with
  | .mapping _ _ entries => do
      let value := Form.value {} (depthLimit - 2)
      let read ← entries.mapM fun p => do return (← value d p.1, ← value d p.2)
      Form.distinct read
  | other => if Form.isAbsent other then return [] else throw (.form "a mapping")

open Yaml in
/-- The form of a document. -/
def documentForm : Form Document :=
  Form.record ["source_engine", "sink_engine", "mappings", "fallback", "reverse_fallback"] []
    fun f => do
      let sourceEngine ← f.optional "source_engine" Form.string
      let sinkEngine ← f.optional "sink_engine" Form.string
      let mappings ← f.orElse "mappings" [] mappingsForm
      let fallback ← f.orElse "fallback" defaultFallback Form.string
      let reverseFallback ← f.optional "reverse_fallback" Form.string
      return { sourceEngine, sinkEngine, mappings, fallback, reverseFallback }

/-- The document that a text holds. -/
def Document.ofText (text origin : String) : Outcome Document :=
  (documentForm.read text).mapError fun reason =>
    Fault.inDocument origin (.malformed .typeTranslation reason)

/-! ## Translations -/

/-- The translation with the given entries. -/
def ofEntries (sourceEngine sinkEngine origin : String) (entries : List (String × String))
    (fallback reverseFallback : String) (inverted : Bool) : Translation :=
  { sourceEngine, sinkEngine, origin, entries, fallback, reverseFallback, inverted
    exact := firstWins id entries
    folded := firstWins Spelling.normalize entries
    exact_eq := rfl
    folded_eq := rfl }

/-- A declared engine has to be the one that the translation is used for. -/
def checkEngine (field : String) (declared : Option String) (expected : String) :
    Except Misconfiguration Unit :=
  match declared with
  | some name =>
      if Engine.normalize name = expected then .ok ()
      else .error (.engineMismatch field name expected)
  | none => .ok ()

/-- The text of a value, whatever its tag. -/
def valueText? : Yaml.Value → Option String
  | .text s => some s
  | .tagged _ value => valueText? value
  | _ => none

/-- An entry of the mappings: two texts that are not blank. -/
def entry (p : Yaml.Value × Yaml.Value) : Except Misconfiguration (String × String) :=
  match valueText? p.1, valueText? p.2 with
  | some source, some sink =>
      if Text.isBlankText source || Text.isBlankText sink then .error (.unusableEntry p.1 p.2)
      else .ok (source, sink)
  | _, _ => .error (.unusableEntry p.1 p.2)

/-- The translation that a document declares for a pair of engines, or what is wrong with it. -/
def ofDeclaration (d : Document) (sourceEngine sinkEngine origin : String) :
    Except Misconfiguration Translation := do
  let sourceEngine := Engine.normalize sourceEngine
  let sinkEngine := Engine.normalize sinkEngine
  checkEngine "source_engine" d.sourceEngine sourceEngine
  checkEngine "sink_engine" d.sinkEngine sinkEngine
  if Text.isBlankText d.fallback then throw (.emptyFallback "fallback")
  if d.reverseFallback.any Text.isBlankText then throw (.emptyFallback "reverse_fallback")
  let entries ← d.mappings.mapM entry
  return ofEntries sourceEngine sinkEngine origin entries d.fallback
    (d.reverseFallback.getD d.fallback) false

/-- The translation that a document declares for a pair of engines. -/
def ofDocument (d : Document) (sourceEngine sinkEngine origin : String) : Outcome Translation :=
  (ofDeclaration d sourceEngine sinkEngine origin).mapError (Fault.inDocument origin)

/-- The translation that a text declares for a pair of engines. -/
def ofText (text sourceEngine sinkEngine origin : String) : Outcome Translation := do
  ofDocument (← Document.ofText text origin) sourceEngine sinkEngine origin

/-- Entries with source and sink exchanged; of entries with one sink type the first one stays. -/
def swapped (seen : List String) : List (String × String) → List (String × String)
  | [] => []
  | (source, sink) :: rest =>
      if seen.contains sink then swapped seen rest
      else (sink, source) :: swapped (sink :: seen) rest

/-- The translation for the other direction. -/
def invert (t : Translation) : Translation :=
  ofEntries t.sinkEngine t.sourceEngine s!"{t.origin} (inverted)" (swapped [] t.entries)
    t.reverseFallback t.fallback (!t.inverted)

/-- The sink type listed for a source type: for its spelling, else for its normal form, else for
that without parameters. -/
def lookup (t : Translation) (type : String) : Option String :=
  let spelling := Spelling.normalize type
  (t.exact.get? type).or ((t.folded.get? spelling).or (t.folded.get? (Spelling.strip spelling)))

/-- The number of entries. -/
def size (t : Translation) : Nat := t.entries.length

/-- Whether there are no entries. -/
def isEmpty (t : Translation) : Bool := t.entries.isEmpty

/-! ## Cloning -/

/-- The sink type for a source type, with a warning if it is the fallback. -/
structure TypeMapping where
  target : String
  warning : Option String
  deriving DecidableEq, Repr

/-- Whether the source type was not recognized. -/
def TypeMapping.isLossy (m : TypeMapping) : Bool := m.warning.isSome

/-- The sink type for a source type. -/
def mapType (t : Translation) (type : String) : TypeMapping :=
  match t.lookup type with
  | some target => ⟨target, none⟩
  | none =>
      ⟨t.fallback,
        some s!"Unrecognized {t.sourceEngine} type '{type}' mapped to fallback '{t.fallback}'"⟩

/-- What is reported when the fallback is used for one of the types. -/
def notices (t : Translation) (types : List String) : List String :=
  (types.filter fun type => (t.lookup type).isNone).map fun type =>
    s!"No {t.sourceEngine} → {t.sinkEngine} translation for type '{type}', " ++
      s!"using fallback '{t.fallback}'"

/-- The column of a cloned table for a source column. -/
def mapColumn (t : Translation) (c : Column) : Column :=
  { c with type := (t.mapType c.type).target, hasDefault := false }

/-- Whether a column has a name and a type. -/
def isUsable (c : Column) : Bool := !Text.isBlankText c.name && !Text.isBlankText c.type

/-- The columns of a cloned table; columns without name or type are passed over. -/
def mapColumns (t : Translation) (columns : List Column) : List Column :=
  (columns.filter isUsable).map t.mapColumn

/-- The cloned table of a source table. -/
def cloneTable (t : Translation) (columns : List Column) : Outcome ColumnSet :=
  (ColumnSet.ofList (t.mapColumns columns)).mapError fun name =>
    Fault.ofCause (.duplicateColumn name)

end Translation

end SchemaCrosswalk
