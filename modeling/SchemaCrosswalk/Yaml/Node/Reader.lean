import SchemaCrosswalk.Yaml.Node
import SchemaCrosswalk.Yaml.Token.Stream

/-!
# Reading nodes — from tokens to the tree of a document

The tokens are taken one by one; what may follow is decided by the next token alone.

- `Document.ofTokens`: the document that tokens stand for
- `Document.ofText`: the document of a text
-/

namespace SchemaCrosswalk.Yaml.Node.Reader

/-- The tokens that are left, the expansions of tag handles, and the anchors seen so far. -/
structure Reading where
  tokens : List Token
  handles : List (String × String) := []
  anchors : List (String × Nat) := []

/-- A step that takes tokens. -/
abbrev Read := StateT Reading (Except Unreadable)

/-- The next token. -/
def peek : Read (Option Token) := do return (← get).tokens.head?

/-- Take the next token. -/
def skip : Read Unit := modify fun r => { r with tokens := r.tokens.tail }

/-- The next token is none of those expected. -/
def refuse {α : Type} : Read α := throw Unreadable.illFormed

/-- Whether the next token is one of the given ones. -/
def atOneOf (ts : List Token) : Read Bool := do return (← peek).any ts.contains

/-- The number of a new anchor: a name that is used again gets a new number. -/
def numberAnchor (name : String) : Read Nat := do
  let r ← get
  let n := r.anchors.length
  let others := r.anchors.filter (fun p => p.1 != name)
  set { r with anchors := (name, n) :: others }
  return n

/-- What a tag stands for. -/
def expandTag (t : TagText) : Read String := do
  if t.handle.isEmpty then return t.suffix
  let known := (← get).handles ++ [("!", "!"), ("!!", "tag:yaml.org,2002:")]
  match known.lookup t.handle with
  | some expansion => return expansion ++ t.suffix
  | none => refuse

/-- The anchor and the tag before a node, in either order. -/
def properties : Read (Option String × Option String) := do
  match ← peek with
  | some (.anchor name) =>
      skip
      match ← peek with
      | some (.tag t) => skip; return (some name, some (← expandTag t))
      | _ => return (some name, none)
  | some (.tag t) =>
      skip
      match ← peek with
      | some (.anchor name) => skip; return (some name, some (← expandTag t))
      | _ => return (none, some (← expandTag t))
  | _ => return (none, none)

mutual

/-- A node. Block collections may start only if `inBlock`, and a sequence without indentation of
its own only if `bare`. The last argument bounds the nesting of calls. -/
def node (inBlock bare : Bool) : Nat → Read Node
  | 0 => refuse
  | fuel + 1 => do
      match ← peek with
      | some (.reference name) =>
          skip
          match (← get).anchors.lookup name with
          | some n => return .reference n
          | none => throw (Unreadable.unknownAnchor name)
      | _ =>
          let (anchor, tag) ← properties
          let numbered : Read (Option Nat) := anchor.mapM numberAnchor
          match ← peek with
          | some .blockEntry =>
              if bare then return .sequence (← numbered) tag (← bareItems fuel)
              else other anchor tag
          | some (.scalar text style) =>
              skip
              return .scalar (← numbered) (if tag = some "!" then none else tag) text style
          | some .flowSequence =>
              skip
              return .sequence (← numbered) tag (← flowItems true fuel)
          | some .flowMapping =>
              skip
              return .mapping (← numbered) tag (← flowEntries true fuel)
          | some .blockSequence =>
              if inBlock then
                skip
                return .sequence (← numbered) tag (← blockItems fuel)
              else other anchor tag
          | some .blockMapping =>
              if inBlock then
                skip
                return .mapping (← numbered) tag (← blockEntries fuel)
              else other anchor tag
          | _ => other anchor tag
where
  /-- A node of which only properties are written. -/
  other (anchor tag : Option String) : Read Node := do
    if anchor.isSome || tag.isSome then
      return .scalar (← anchor.mapM numberAnchor) tag "" .plain
    else refuse

/-- A node unless one of the given tokens comes next; then it is not written out. -/
def nodeUnless (inBlock bare : Bool) (ends : List Token) : Nat → Read Node
  | 0 => refuse
  | fuel + 1 => do
      if ← atOneOf ends then return .absent else node inBlock bare fuel

/-- The items of a block sequence. -/
def blockItems : Nat → Read (List Node)
  | 0 => refuse
  | fuel + 1 => do
      match ← peek with
      | some .blockEntry =>
          skip
          let item ← nodeUnless true false [.blockEntry, .blockEnd] fuel
          return item :: (← blockItems fuel)
      | some .blockEnd => skip; return []
      | _ => refuse

/-- The items of a sequence without indentation of its own. -/
def bareItems : Nat → Read (List Node)
  | 0 => refuse
  | fuel + 1 => do
      match ← peek with
      | some .blockEntry =>
          skip
          let item ← nodeUnless true false [.blockEntry, .key, .value, .blockEnd] fuel
          return item :: (← bareItems fuel)
      | _ => return []

/-- The entries of a block mapping. -/
def blockEntries : Nat → Read (List (Node × Node))
  | 0 => refuse
  | fuel + 1 => do
      match ← peek with
      | some .key =>
          skip
          let key ← nodeUnless true true [.key, .value, .blockEnd] fuel
          let value ←
            match ← peek with
            | some .value => do skip; nodeUnless true true [.key, .value, .blockEnd] fuel
            | _ => pure .absent
          return (key, value) :: (← blockEntries fuel)
      | some .blockEnd => skip; return []
      | _ => refuse

/-- The items of a sequence in brackets. -/
def flowItems (first : Bool) : Nat → Read (List Node)
  | 0 => refuse
  | fuel + 1 => do
      if ← atOneOf [.flowSequenceEnd] then
        skip
        return []
      if !first then
        if !(← atOneOf [.flowEntry]) then refuse
        skip
      match ← peek with
      | some .flowSequenceEnd => skip; return []
      | some .key =>
          skip
          let entry ← flowPair fuel
          return .mapping none none [entry] :: (← flowItems false fuel)
      | _ =>
          let item ← node false false fuel
          return item :: (← flowItems false fuel)

/-- A single entry of a mapping as an item of a sequence in brackets. -/
def flowPair : Nat → Read (Node × Node)
  | 0 => refuse
  | fuel + 1 => do
      let key ←
        if ← atOneOf [.value, .flowEntry, .flowSequenceEnd] then do skip; pure .absent
        else node false false fuel
      let value ←
        match ← peek with
        | some .value => do skip; nodeUnless false false [.flowEntry, .flowSequenceEnd] fuel
        | _ => pure .absent
      return (key, value)

/-- The entries of a mapping in braces. -/
def flowEntries (first : Bool) : Nat → Read (List (Node × Node))
  | 0 => refuse
  | fuel + 1 => do
      if ← atOneOf [.flowMappingEnd] then
        skip
        return []
      if !first then
        if !(← atOneOf [.flowEntry]) then refuse
        skip
      match ← peek with
      | some .flowMappingEnd => skip; return []
      | some .key =>
          skip
          let key ← nodeUnless false false [.value, .flowEntry, .flowMappingEnd] fuel
          let value ←
            match ← peek with
            | some .value => do skip; nodeUnless false false [.flowEntry, .flowMappingEnd] fuel
            | _ => pure .absent
          return (key, value) :: (← flowEntries false fuel)
      | _ =>
          let key ← node false false fuel
          return (key, .absent) :: (← flowEntries false fuel)

end

/-! ## Documents -/

/-- The directives before a document: at most one version, which has to be 1.1 or 1.2, and the
expansion of each tag handle at most once. -/
def directives : List Token → (versionSeen : Bool) → List (String × String) →
    Except Unreadable (List (String × String) × List Token)
  | .version major minor :: ts, versionSeen, handles =>
      if versionSeen || major != 1 || !(minor == 1 || minor == 2) then .error .illFormed
      else directives ts true handles
  | .tagHandle handle expansion :: ts, versionSeen, handles =>
      if (handles.lookup handle).isSome then .error .illFormed
      else directives ts versionSeen ((handle, expansion) :: handles)
  | ts, _, handles => .ok (handles, ts)

/-- Whether a token stands between documents. -/
def isOutside : Token → Bool
  | .version _ _ | .tagHandle _ _ | .documentStart | .documentEnd => true
  | _ => false

/-- The root of the first document and the tokens after it. -/
def firstRoot (ts : List Token) : Except Unreadable (Option Node × List Token) := do
  let bound (ts : List Token) : Nat := 3 * ts.length + 8
  match ts with
  | [] => .ok (none, [])
  | .version _ _ :: _ | .tagHandle _ _ :: _ | .documentStart :: _ =>
      let (handles, rest) ← directives ts false []
      match rest with
      | .documentStart :: rest =>
          if rest.head?.all isOutside then .ok (some .absent, rest)
          else
            let (root, r) ← (node true false (bound rest)).run { tokens := rest, handles }
            .ok (some root, r.tokens)
      | _ => .error .illFormed
  | _ =>
      let (root, r) ← (node true false (bound ts)).run { tokens := ts }
      .ok (some root, r.tokens)

end SchemaCrosswalk.Yaml.Node.Reader

namespace SchemaCrosswalk.Yaml.Document

/-- The only document in a list of tokens; only marks of its end may follow it. -/
def ofTokens (ts : List Token) : Except Unreadable Document := do
  let (root, rest) ← Node.Reader.firstRoot ts
  if rest.all (· == .documentEnd) then .ok (ofRoot root) else .error .severalDocuments

/-- The document of a text. -/
def ofText (text : String) : Except Unreadable Document := do
  ofTokens (← Token.ofText text)

end SchemaCrosswalk.Yaml.Document
