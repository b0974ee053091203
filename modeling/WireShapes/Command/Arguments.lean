import WireShapes.Settings
import WireShapes.Text.Split

/-!
Arguments of the command line.

* `Request`: what is to be done
* `UsageError`: why arguments are refused, or what is shown instead
* `parseArguments`: options in any order, `--name value`, `--name=value`, `-n value` or `-nvalue`

Options are taken one after the other, and what an option is given is checked when the next one starts
or the arguments end.
-/

namespace WireShapes.Command

/-- Where models and settings come from. -/
structure ModelOptions where
  models : List String := []
  settings : Option String := none
  target : Option Target := none
  publicConstrainedTypes : Option Bool := none
  service : Option String := none
deriving DecidableEq, Repr

/-- Where generated code goes. -/
inductive Output
  | standard
  | package (dir : String)
  | file (path : String)
deriving DecidableEq, Repr

/-- What is to be done. -/
inductive Request
  | generate (options : ModelOptions) (output : Output) (packageName : String)
    (supportPath : Option String) (noOp : Bool)
  | shapes (options : ModelOptions)
deriving DecidableEq, Repr

/-- Why arguments are refused, or what is shown instead. -/
inductive UsageError
  | help
  | helpOnMissing
  | version
  | unknownArgument
  | invalidSubcommand
  | invalidValue
  | conflict
  | missing
  | tooManyValues
deriving DecidableEq, Repr

/-- The options of the commands. -/
inductive Opt
  | model
  | settings
  | target
  | publicTypes
  | service
  | out
  | singleFile
  | packageName
  | supportPath
  | noOp
  | help
deriving DecidableEq, Repr

namespace Opt

def takesValue : Opt → Bool
  | noOp => false
  | help => false
  | _ => true

/-- Options of all commands, by their long names. -/
def common : List (String × Opt) :=
  [("model", model), ("settings", settings), ("target", target), ("public-constrained-types", publicTypes),
    ("service", service), ("help", help)]

/-- Options of `generate`, by their long names. -/
def ofGenerate : List (String × Opt) :=
  [("out", out), ("single-file", singleFile), ("crate-name", packageName), ("runtime-path", supportPath),
    ("no-op", noOp)]

def ofLong? (generates : Bool) (name : String) : Option Opt :=
  Entries.get? name (if generates then common ++ ofGenerate else common)

def ofShort? (generates : Bool) (c : Char) : Option Opt :=
  if c = 'm' then some model
  else if c = 'h' then some help
  else if c = 'o' ∧ generates then some out
  else none

end Opt

/-- What has been given so far. -/
structure Given where
  options : ModelOptions := {}
  out : Option String := none
  singleFile : Option String := none
  packageName : Option String := none
  supportPath : Option String := none
  noOp : Bool := false
  /-- The option that is being given values, with those it has. -/
  pending : Option (Opt × List String) := none
  /-- The pending option takes more values. -/
  isOpen : Bool := false

namespace Given

/-- Sets what may be set only once, to a value that has to be accepted. -/
def once {α : Type} (current : Option α) (value : Option α) : Except UsageError (Option α) :=
  if current.isSome then .error .conflict
  else match value with
    | some v => .ok (some v)
    | none => .error .invalidValue

/-- A path is not empty. -/
def path? (text : String) : Option String := if text.isEmpty then none else some text

def bool? : String → Option Bool
  | "true" => some true
  | "false" => some false
  | _ => none

/-- Gives an option its values, of which all but the models take one. -/
def apply (g : Given) (opt : Opt) (values : List String) : Except UsageError Given :=
  let o := g.options
  match opt, values with
  | .model, [] => .error .invalidValue
  | .model, values => .ok { g with options := { o with models := o.models ++ values } }
  | .help, _ => .error .help
  | .noOp, _ => if g.noOp then .error .conflict else .ok { g with noOp := true }
  | _, [] => .error .invalidValue
  | .settings, v :: _ => do
    .ok { g with options := { o with settings := ← once o.settings (path? v) } }
  | .target, v :: _ => do
    .ok { g with options := { o with target := ← once o.target (Target.ofName? v) } }
  | .publicTypes, v :: _ => do
    .ok { g with options := { o with publicConstrainedTypes := ← once o.publicConstrainedTypes (bool? v) } }
  | .service, v :: _ => do .ok { g with options := { o with service := ← once o.service (some v) } }
  | .out, v :: _ => do .ok { g with out := ← once g.out (path? v) }
  | .singleFile, v :: _ => do .ok { g with singleFile := ← once g.singleFile (path? v) }
  | .packageName, v :: _ => do .ok { g with packageName := ← once g.packageName (some v) }
  | .supportPath, v :: _ => do .ok { g with supportPath := ← once g.supportPath (path? v) }

/-- Gives the pending option its values. -/
def settle (g : Given) : Except UsageError Given :=
  match g.pending with
  | none => .ok g
  | some (opt, values) => { g with pending := none, isOpen := false }.apply opt values

/-- Starts an option, with the value that is attached to it. -/
def start (g : Given) (opt : Opt) (attached : Option String) : Except UsageError Given := do
  let g ← g.settle
  if opt.takesValue then
    match attached with
    | some v => g.apply opt [v]
    | none => .ok { g with pending := some (opt, []), isOpen := true }
  else g.apply opt []

/-- Takes an option by its long name. -/
def long (g : Given) (generates : Bool) (text : List Char) : Except UsageError Given :=
  let (name, attached) := match Text.splitOnce '=' text with
    | some (name, value) => (name, some (String.ofList value))
    | none => (text, none)
  match Opt.ofLong? generates (String.ofList name) with
  | none => .error .unknownArgument
  | some opt =>
    if !opt.takesValue && attached.isSome then .error .tooManyValues else g.start opt attached

/-- Takes an option by its letter; what follows the letter is its value. -/
def short (g : Given) (generates : Bool) : List Char → Except UsageError Given
  | [] => .ok g
  | c :: rest =>
    match Opt.ofShort? generates c with
    | none => .error .unknownArgument
    | some opt =>
      let attached := match rest with
        | [] => none
        | '=' :: value => some (String.ofList value)
        | value => some (String.ofList value)
      g.start opt attached

def value (g : Given) (text : String) : Except UsageError Given :=
  match g.pending with
  | some (opt, values) =>
    if g.isOpen then .ok { g with pending := some (opt, values ++ [text]), isOpen := opt == .model }
    else .error .unknownArgument
  | none => .error .unknownArgument

/-- Takes the arguments of a command. -/
def takeAll (generates : Bool) : Given → List String → Except UsageError Given
  | g, [] => g.settle
  | g, arg :: rest => do
    match arg.toList with
    | ['-', '-'] => if rest.isEmpty then g.settle else .error .unknownArgument
    | '-' :: '-' :: text => takeAll generates (← g.long generates text) rest
    | '-' :: c :: text => takeAll generates (← g.short generates (c :: text)) rest
    | _ => takeAll generates (← g.value arg) rest

end Given

/-- The request of a command with its arguments. -/
def parseCommand (generates : Bool) (args : List String) : Except UsageError Request := do
  let g ← Given.takeAll generates {} args
  if g.out.isSome && g.singleFile.isSome then .error .conflict
  else if g.options.models.isEmpty then .error .missing
  else if generates then
    let output := match g.out, g.singleFile with
      | some dir, _ => Output.package dir
      | none, some path => .file path
      | none, none => .standard
    .ok (.generate g.options output (g.packageName.getD "generated") g.supportPath g.noOp)
  else .ok (.shapes g.options)

def commandNames : List String := ["generate", "shapes", "help"]

/-- The request of the arguments. -/
def parseArguments : List String → Except UsageError Request
  | [] => .error .helpOnMissing
  | "generate" :: rest => parseCommand true rest
  | "shapes" :: rest => parseCommand false rest
  | "help" :: rest =>
    match rest with
    | [] => .error .help
    | [name] => if commandNames.contains name then .error .help else .error .invalidSubcommand
    | _ => .error .invalidSubcommand
  | arg :: rest =>
    match arg.toList with
    | ['-', '-'] =>
      match rest with
      | [] => .error .helpOnMissing
      | name :: _ => if commandNames.contains name then .error .unknownArgument else .error .invalidSubcommand
    | '-' :: '-' :: text =>
      match Text.splitOnce '=' text with
      | some (name, _) =>
        if name = "help".toList ∨ name = "version".toList then .error .tooManyValues
        else .error .unknownArgument
      | none =>
        if text = "help".toList then .error .help
        else if text = "version".toList then .error .version
        else .error .unknownArgument
    | '-' :: 'h' :: _ => .error .help
    | '-' :: 'V' :: _ => .error .version
    | '-' :: _ :: _ => .error .unknownArgument
    | _ => .error .invalidSubcommand

end WireShapes.Command
