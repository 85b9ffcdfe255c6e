import SchemaCrosswalk.Dictionary
import SchemaCrosswalk.Yaml.Node.Reader
import SchemaCrosswalk.Yaml.Value

/-!
# Forms — what the nodes of a document are expected to be

A form reads a node as a value of one type or refuses it. Following references is counted, so that
a small document cannot stand for an endless one.

- `Form.string`, `Form.bool`, `Form.natural`: scalars
- `Form.list`, `Form.dictionary`, `Form.optional`, `Form.record`: collections
- `Form.value`: any node
- `Form.read`: a text as a document of one form
-/

namespace SchemaCrosswalk.Yaml

/-- A step of reading; its state is the number of references followed so far. -/
abbrev Step := StateT Nat (Except Unreadable)

/-- How a node of a document is read. -/
def Form (α : Type) := Document → Node → Step α

/-- How deeply collections may be nested. -/
def depthLimit : Nat := 128

namespace Form

/-- The node that a node stands for. -/
def target (d : Document) (node : Node) : Step Node :=
  match node with
  | .reference n => do
      let followed := (← get) + 1
      if d.referenceLimit < followed then throw .tooManyReferences
      set followed
      return d.follow (.reference n)
  | node => return node

/-- A form for nodes that are no references. -/
def ofNode {α : Type} (f : Document → Node → Step α) : Form α := fun d node => do
  f d (← target d node)

/-! ## Scalars -/

/-- Any scalar, as the text it has in the document. -/
def string : Form String := ofNode fun _ node =>
  match node with
  | .scalar _ _ text _ => return text
  | _ => throw (.form "a string")

/-- The tag of a standard kind of scalars. -/
def standardTag (kind : String) : String := "tag:yaml.org,2002:" ++ kind

/-- Whether a scalar may be read as a value of a kind: it is plain, or a tagged literal text. -/
def isWritten (kind : String) (tag : Option String) (style : ScalarStyle) : Bool :=
  style == .plain || (style == .literal && tag == some (standardTag kind))

/-- A truth value. -/
def bool : Form Bool := ofNode fun _ node =>
  match node with
  | .scalar _ tag text style =>
      if isWritten "bool" tag style then
        match Scalar.truth text with
        | some b => return b
        | none => throw (.value "a boolean" text)
      else throw (.value "a boolean" text)
  | _ => throw (.form "a boolean")

/-- A natural number below a bound of at most 64 bits. -/
def natural (bound : Nat) : Form Nat := ofNode fun _ node =>
  match node with
  | .scalar _ tag text style =>
      match if isWritten "int" tag style then Scalar.natural text.toList else none with
      | some n => if n < bound then return n else throw (.value "a smaller number" text)
      | none => throw (.value "a number" text)
  | _ => throw (.form "a number")

/-! ## Collections -/

/-- Whether a scalar is empty and plain, as one that is not written out. -/
def isAbsent : Node → Bool
  | .scalar _ _ text style => text.isEmpty && style == .plain
  | _ => false

/-- Null in any spelling is nothing; anything else is read by the form. -/
def optional {α : Type} (form : Form α) : Form (Option α) := ofNode fun d node =>
  match node with
  | .scalar _ tag text .plain =>
      match tag with
      | some t =>
          if t == standardTag "null" then
            if Scalar.isNull text then return none else throw (.value "null" text)
          else some <$> form d node
      | none => if text.isEmpty || Scalar.isNull text then return none else some <$> form d node
  | node => some <$> form d node

/-- A sequence, each item read by the form; an empty one need not be written out. -/
def list {α : Type} (form : Form α) : Form (List α) := ofNode fun d node =>
  match node with
  | .sequence _ _ items => items.mapM (form d)
  | other => if isAbsent other then return [] else throw (.form "a sequence")

/-- The entries of a mapping whose keys are scalars; an empty one need not be written out. -/
def entries : Form (List (String × Node)) := ofNode fun d node =>
  match node with
  | .mapping _ _ entries => entries.mapM fun (key, value) => do return (← string d key, value)
  | other => if isAbsent other then return [] else throw (.form "a mapping")

/-- A mapping of any keys, each value read by the form; of equal keys the last one counts. -/
def dictionary {α : Type} (form : Form α) : Form (Dictionary α) := fun d node => do
  let read ← (← entries d node).mapM fun (key, value) => do return (key, ← form d value)
  return Dictionary.ofList read

/-! ## Records -/

/-- The fields of a record that are written out. -/
structure Fields where
  document : Document
  nodes : List (String × Node)

/-- A record: a mapping in which each known field occurs at most once. A synonym is another key for
a field; all other keys are passed over. -/
def record {α : Type} (known : List String) (synonyms : List (String × String))
    (build : Fields → Step α) : Form α := fun d node => do
  let named := (← entries d node).map fun (key, value) => ((synonyms.lookup key).getD key, value)
  let nodes := named.filter fun p => known.contains p.1
  match known.find? fun name => 1 < (nodes.filter (·.1 == name)).length with
  | some name => throw (.repeatedField name)
  | none => build { document := d, nodes }

namespace Fields

variable {α : Type}

/-- A field that has to be there. -/
def required (f : Fields) (name : String) (form : Form α) : Step α :=
  match f.nodes.lookup name with
  | some node => form f.document node
  | none => throw (.missingField name)

/-- A field with a default. -/
def orElse (f : Fields) (name : String) (default : α) (form : Form α) : Step α :=
  match f.nodes.lookup name with
  | some node => form f.document node
  | none => return default

/-- A field that may be missing or null. -/
def optional (f : Fields) (name : String) (form : Form α) : Step (Option α) :=
  f.orElse name none (form.optional)

end Fields

/-! ## Values of any form -/

/-- What a scalar stands for. A tag of a standard kind has to fit the text. -/
def scalarValue (tag : Option String) (text : String) (style : ScalarStyle) : Step Value :=
  let plain : Step Value :=
    match Scalar.ofPlain text with
    | .null => return .null
    | .bool b => return .bool b
    | .number n => return .number n
    | .oversized => throw (.value "a number of at most 64 bits" text)
    | .text => return .text text
  let refuse : Step Value := throw (.value "a scalar that fits its tag" text)
  match tag with
  | none => if style == .plain then plain else return .text text
  | some t =>
      if t == standardTag "bool" then
        match Scalar.truth text with
        | some b => return .bool b
        | none => refuse
      else if t == standardTag "int" then
        match Scalar.whole text.toList with
        | some (.number n) => return .number n
        | _ => refuse
      else if t == standardTag "float" then
        match Scalar.real text with
        | some n => return .number n
        | none => refuse
      else if t == standardTag "null" then
        if Scalar.isNull text then return .null else refuse
      else return .text text

/-- The name of an application's own tag, which starts with an exclamation mark. -/
def ownTag (tag : Option String) : Option String :=
  match tag.map String.toList with
  | some ('!' :: name) => some (String.ofList name)
  | _ => none

/-- Entries of a mapping, unless a key is repeated. -/
def distinct (entries : List (Value × Value)) : Step (List (Value × Value)) :=
  entries.foldlM
    (fun seen p =>
      if seen.any fun q => q.1.same p.1 then throw (.repeatedField p.1.describe)
      else return seen ++ [p])
    []

/-- What is accepted of values of any form. -/
structure ValueRules where
  ownTags : Bool := true
  repeatedKeys : Bool := false

/-- A value with its own tag, if it has one. -/
def withTag (rules : ValueRules) (tag : Option String) (v : Value) : Step Value :=
  match ownTag tag with
  | some name =>
      if rules.ownTags && !name.isEmpty then return .tagged name v
      else throw (.value "no tag" name)
  | none => return v

/-- Any node, the nodes inside a collection being read by `inner`; without it there may be no
collection. -/
def valueWith (rules : ValueRules) (inner : Option (Form Value)) : Form Value :=
  ofNode fun d node =>
    match node with
    | .scalar _ tag text style => do
        let standard := if (ownTag tag).isSome then none else tag
        withTag rules tag (← scalarValue standard text style)
    | .sequence _ tag items =>
        match inner with
        | none => throw .tooDeep
        | some form => do withTag rules tag (.sequence (← items.mapM (form d)))
    | .mapping _ tag entries =>
        match inner with
        | none => throw .tooDeep
        | some form => do
            let read ← entries.mapM fun p => do return (← form d p.1, ← form d p.2)
            let kept ← if rules.repeatedKeys then pure read else distinct read
            withTag rules tag (.mapping kept)
    | .reference _ => throw .illFormed

/-- Any node, with collections nested at most so deeply. -/
def value (rules : ValueRules) : (depth : Nat) → Form Value
  | 0 => valueWith rules none
  | depth + 1 => valueWith rules (some (value rules depth))

/-! ## Texts -/

/-- A text as a document of one form; an empty document counts as one that is not written out. -/
def read {α : Type} (form : Form α) (text : String) : Except Unreadable α := do
  let d ← Document.ofText text
  (form d (d.root.getD .absent)).run' 0

end Form

end SchemaCrosswalk.Yaml
