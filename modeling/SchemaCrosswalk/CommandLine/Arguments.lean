import SchemaCrosswalk.Column

/-!
# Arguments — what a command line asks for

General options come first, then a command with its own options and arguments. An option is given
as `--name value` or `--name=value`, at most once unless it is a list, and in any order.

- `Command`, `Invocation`: what can be asked for
- `Invocation.ofArguments`: the invocation that arguments ask for
-/

namespace SchemaCrosswalk.CommandLine

/-! ## Requests -/

/-- What the program is asked to do. -/
inductive Command
  | check (sourceEngine sinkEngine sourceType sinkType : String) (service : Option String)
      (place : Option ColumnContext)
  | map (sourceEngine sinkEngine : String) (types : List String)
  | cloneTable (sourceEngine sinkEngine table : String)
  | resolve (sourceEngine sinkEngine sourceTable sinkTable : String)
      (mappings : List ExplicitMapping) (modify apply : Bool) (service : Option String)
  | setOverride (service table column type : String)
  | removeOverride (service table column : String)
  | listOverrides (service : String)

/-- A command with the general options. -/
structure Invocation where
  config : Option String
  outputJson : Bool
  verbosity : String
  command : Command

/-- Whether warnings are shown. -/
def Invocation.showsWarnings (i : Invocation) : Bool := Text.toLowercase i.verbosity != "error"

/-- Arguments that are no invocation: they ask for the version or help, or are not understood. -/
inductive Refusal
  | version
  | help
  | usage
  deriving DecidableEq, Repr

/-! ## Options -/

/-- The options that a command knows: those with a value, which may have to be something, those that
may be repeated, flags, and one-letter names of options. -/
structure Known where
  single : List String
  nonEmpty : List String := []
  repeated : List String := []
  flags : List String := []
  letters : List (Char × String) := []
  positional : Bool := false
  takesCommand : Bool := false
  versioned : Bool := false

/-- The options and arguments given, in their order. -/
structure Given where
  values : List (String × String) := []
  flags : List String := []
  positional : List String := []

/-- The arguments that start with the name of a command. -/
abbrev Rest := List String

/-- One more option with a value. -/
def Given.addValue (g : Given) (known : Known) (name value : String) : Except Refusal Given :=
  if known.nonEmpty.contains name && value.isEmpty then .error .usage
  else if known.repeated.contains name ||
      (known.single.contains name && (g.values.lookup name).isNone) then
    .ok { g with values := g.values ++ [(name, value)] }
  else .error .usage

/-- One more flag. -/
def Given.addFlag (g : Given) (known : Known) (name : String) : Except Refusal Given :=
  if known.versioned && name == "version" then .error .version
  else if name == "help" then .error .help
  else if known.flags.contains name && !g.flags.contains name then
    .ok { g with flags := name :: g.flags }
  else .error .usage

/-- Whether an option takes a value. -/
def Known.takesValue (known : Known) (name : String) : Bool :=
  known.single.contains name || known.repeated.contains name

/-- Whether an argument looks like an option, so that it is no value. -/
def looksLikeOption (argument : String) : Bool :=
  match argument.toList with
  | '-' :: _ :: _ => true
  | _ => false

/-- The options and arguments, and what stands from the name of a command on. -/
def readOptions (known : Known) : Given → List String → Except Refusal (Given × Rest)
  | g, [] => .ok (g, [])
  | g, argument :: rest =>
      match argument.toList with
      | ['-', '-'] =>
          if known.positional then .ok ({ g with positional := g.positional ++ rest }, [])
          else if rest.isEmpty then .ok (g, [])
          else .error .usage
      | '-' :: '-' :: body =>
          match Text.cutAt '=' body with
          | some (name, value) => do
              readOptions known
                (← g.addValue known (String.ofList name) (String.ofList value)) rest
          | none =>
              let name := String.ofList body
              if known.takesValue name then
                match rest with
                | value :: rest =>
                    if looksLikeOption value then .error .usage
                    else do readOptions known (← g.addValue known name value) rest
                | [] => .error .usage
              else do readOptions known (← g.addFlag known name) rest
      | '-' :: letter :: attached =>
          match known.letters.lookup letter with
          | none => .error .usage
          | some name =>
              if known.takesValue name then
                match attached, rest with
                | [], value :: rest =>
                    if looksLikeOption value then .error .usage
                    else do readOptions known (← g.addValue known name value) rest
                | [], [] => .error .usage
                | '=' :: value, rest => do
                    readOptions known (← g.addValue known name (String.ofList value)) rest
                | value, rest => do
                    readOptions known (← g.addValue known name (String.ofList value)) rest
              else do
                let g ← g.addFlag known name
                if attached.isEmpty then readOptions known g rest else .error .usage
      | _ =>
          if known.takesCommand then .ok (g, argument :: rest)
          else if known.positional then
            readOptions known { g with positional := g.positional ++ [argument] } rest
          else .error .usage
termination_by _ arguments => arguments.length

/-- The value of an option that has to be given. -/
def Given.required (g : Given) (name : String) : Except Refusal String :=
  match g.values.lookup name with
  | some value => .ok value
  | none => .error .usage

/-- The value of an option that may be given. -/
def Given.optional (g : Given) (name : String) : Option String := g.values.lookup name

/-! ## Commands -/

/-- The name of the help option and its letter. -/
def helpLetter : Char × String := ('h', "help")

/-- The options of a command, all arguments being read. -/
def readAll (known : Known) (arguments : List String) : Except Refusal Given := do
  let known := { known with letters := helpLetter :: known.letters }
  let (g, _) ← readOptions known {} arguments
  .ok g

/-- The options of `check`: the types and, for overrides, the service and the place. -/
def readCheck (arguments : List String) : Except Refusal Command := do
  let g ← readAll
    { single := ["source-engine", "sink-engine", "source-type", "sink-type", "service", "table",
        "column"] } arguments
  let place ← match g.optional "table", g.optional "column" with
    | some table, some column => .ok (some ⟨table, column⟩)
    | none, none => .ok none
    | _, _ => .error .usage
  .ok (.check (← g.required "source-engine") (← g.required "sink-engine")
    (← g.required "source-type") (← g.required "sink-type") (g.optional "service") place)

/-- The options of `map`, and the types. -/
def readMap (arguments : List String) : Except Refusal Command := do
  let g ← readAll { single := ["source-engine", "sink-engine"], positional := true } arguments
  if g.positional.isEmpty then .error .usage
  else
    .ok (.map (← g.required "source-engine") (← g.required "sink-engine") g.positional)

/-- The options of `clone-table`. -/
def readCloneTable (arguments : List String) : Except Refusal Command := do
  let g ← readAll { single := ["source-engine", "sink-engine", "table"] } arguments
  .ok (.cloneTable (← g.required "source-engine") (← g.required "sink-engine")
    (← g.required "table"))

/-- The options of `resolve`; `--map` may be repeated. -/
def readResolve (arguments : List String) : Except Refusal Command := do
  let g ← readAll
    { single := ["source-engine", "sink-engine", "source-table", "sink-table", "service"]
      repeated := ["map"]
      flags := ["modify", "apply"] } arguments
  let mappings ← (g.values.filter fun p => p.1 == "map").mapM fun p =>
    match ExplicitMapping.ofText? p.2 with
    | some m => Except.ok m
    | none => .error .usage
  .ok (.resolve (← g.required "source-engine") (← g.required "sink-engine")
    (← g.required "source-table") (← g.required "sink-table") mappings
    (g.flags.contains "modify") (g.flags.contains "apply") (g.optional "service"))

/-- The commands below `override`. -/
def readOverride (arguments : List String) : Except Refusal Command := do
  let (_, rest) ← readOptions
    { single := [], takesCommand := true, letters := [helpLetter] } {} arguments
  match rest with
  | "set" :: arguments => do
      let g ← readAll { single := ["service", "table", "column", "type"] } arguments
      .ok (.setOverride (← g.required "service") (← g.required "table") (← g.required "column")
        (← g.required "type"))
  | "remove" :: arguments => do
      let g ← readAll { single := ["service", "table", "column"] } arguments
      .ok (.removeOverride (← g.required "service") (← g.required "table")
        (← g.required "column"))
  | "list" :: arguments => do
      let g ← readAll { single := ["service"] } arguments
      .ok (.listOverrides (← g.required "service"))
  | "help" :: _ => .error .help
  | _ => .error .usage

/-- The command that arguments start with. -/
def readCommand : List String → Except Refusal Command
  | "check" :: arguments => readCheck arguments
  | "map" :: arguments => readMap arguments
  | "clone-table" :: arguments => readCloneTable arguments
  | "resolve" :: arguments => readResolve arguments
  | "override" :: arguments => readOverride arguments
  | "help" :: _ => .error .help
  | _ => .error .usage

/-- The invocation that arguments ask for. -/
def Invocation.ofArguments (arguments : List String) : Except Refusal Invocation := do
  let known : Known := {
    single := ["config", "log-format", "verbosity"]
    nonEmpty := ["config"]
    flags := ["output-json"]
    letters := [('c', "config"), ('V', "version"), helpLetter]
    takesCommand := true
    versioned := true }
  let (g, rest) ← readOptions known {} arguments
  .ok {
    config := g.optional "config"
    outputJson := g.flags.contains "output-json"
    verbosity := (g.optional "verbosity").getD "info"
    command := ← readCommand rest }

end SchemaCrosswalk.CommandLine
