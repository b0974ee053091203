import WireShapes.Code.Package
import WireShapes.Command.Arguments
import WireShapes.Command.Tree
import WireShapes.Model.Loading
import WireShapes.Model.Transform

/-!
What the commands do.

* `Storage`: how files are reached
* `Failure`: why a command fails
* `run`: does what is requested and gives what is printed
-/

namespace WireShapes.Command

/-- How files are reached. -/
structure Storage (m : Type → Type) where
  /-- The text of a file, if it can be read. -/
  read : String → m (Option String)
  /-- Writes a file and the directories on the way; tells whether it could. -/
  write : String → String → m Bool
  /-- The paths that a pattern matches, if it is well-formed. -/
  glob : String → m (Option (List String))

/-- Files in memory. -/
def Tree.storage : Storage (StateM Tree) where
  read path := do return (← get).read? path
  write path text := do
    match (← get).write? path text with
    | some t => set t; return true
    | none => return false
  glob pattern := do return (← get).glob? pattern

/-- What was going on when the model failed. -/
inductive Phase
  | loading
  | preparing
  | other
deriving DecidableEq, Repr

inductive Failure
  | model (phase : Phase) (error : ModelError)
  | badPattern (pattern : String)
  | noMatch (pattern : String)
deriving Repr

def Phase.message? : Phase → Option String
  | loading => some "failed to load the model"
  | preparing => some "failed to prepare the model"
  | other => none

/-- The first words about a failure. -/
def Failure.message : Failure → String
  | model phase error => phase.message?.getD error.message
  | badPattern pattern => s!"invalid glob pattern: {pattern}"
  | noMatch pattern => s!"glob pattern matched no files: {pattern}"

variable {m : Type → Type} [Monad m]

/-- A step that fails for a reason of the model. -/
def during {α : Type} (phase : Phase) (result : Except ModelError α) : ExceptT Failure m α :=
  match result with
  | .ok value => pure value
  | .error e => throw (.model phase e)

/-- The text of a file, which has to be readable. -/
def readFile (st : Storage m) (phase : Phase) (path : String) : ExceptT Failure m SourceText := do
  match ← (st.read path : m (Option String)) with
  | some text => return ⟨path, text⟩
  | none => throw (.model phase (.read path))

def writeFile (st : Storage m) (path text : String) : ExceptT Failure m Unit := do
  if ← (st.write path text : m Bool) then return ()
  else throw (.model .other (.write path))

/-- The settings of a file, changed by what the arguments say. -/
def loadSettings (st : Storage m) (o : ModelOptions) : ExceptT Failure m Settings := do
  let settings ← match o.settings with
    | some path => do during .other (Settings.parse (← readFile st .other path))
    | none => pure Settings.client
  return { settings with
    target := o.target.getD settings.target
    publicConstrainedTypes := o.publicConstrainedTypes.getD settings.publicConstrainedTypes
    service := o.service.or settings.service }

/-- The files of an argument: those that match, if it is a pattern. -/
def resolvePattern (st : Storage m) (pattern : String) : ExceptT Failure m (List String) := do
  if isGlob pattern then
    match ← (st.glob pattern : m (Option (List String))) with
    | none => throw (.badPattern pattern)
    | some [] => throw (.noMatch pattern)
    | some paths => return paths
  else return [pattern]

/-- The model of all files, each of which is parsed before the next is read. -/
def loadFiles (st : Storage m) (o : ModelOptions) : ExceptT Failure m Model := do
  let paths ← o.models.mapM (resolvePattern st)
  let docs ← (sortPaths paths.flatten).mapM fun path => do
    during .loading (parseDocument (← readFile st .loading path))
  let model ← during .loading (assemble docs)
  during .preparing model.prepare

def shapeLine (s : Code.Scope) (shape : Shape) : Except ModelError String := do
  let type ← match shape.kind with
    | .operation _ | .service _ => pure none
    | _ => (s.typeText .exposed shape).map some
  match type with
  | some type =>
    let mark := if s.isConstrained shape.id then " constrained" else ""
    .ok s!"{shape.id.text} {shape.kind.name} {type}{mark}\n"
  | none => .ok s!"{shape.id.text} {shape.kind.name}\n"

/-- Lines about shapes, up to the first that has none. -/
def shapeLines (s : Code.Scope) : List Shape → String × Option ModelError
  | [] => ("", none)
  | shape :: rest =>
    match shapeLine s shape with
    | .ok line =>
      let (more, failed) := shapeLines s rest
      (line ++ more, failed)
    | .error e => ("", some e)

/-- Writes generated code to where it goes, and gives what is printed. -/
def deliver (st : Storage m) (modules : List Code.Fragment) (output : Output) (packageName : String)
    (supportPath : Option String) : ExceptT Failure m String := do
  match output with
  | .standard => return Code.singleFile modules
  | .file path =>
    writeFile st path (Code.singleFile modules)
    return ""
  | .package dir =>
    (Code.packageFiles modules packageName supportPath).forM fun (path, text) =>
      writeFile st (join dir path) text
    return ""

/-- What a command prints, and why it failed if it did. -/
structure Result where
  printed : String
  failed : Option Failure

def run (st : Storage m) (request : Request) : m Result := do
  match request with
  | .generate options output packageName supportPath noOp =>
    if noOp then return ⟨"", none⟩
    let result ← (do
      let settings ← loadSettings st options
      let model ← loadFiles st options
      let modules ← during .other (Code.generate model settings)
      deliver st modules output packageName supportPath : ExceptT Failure m String)
    match result with
    | .ok printed => return ⟨printed, none⟩
    | .error e => return ⟨"", some e⟩
  | .shapes options =>
    let result ← (do
      let settings ← loadSettings st options
      let model ← loadFiles st options
      during .other (Code.Scope.make model settings) : ExceptT Failure m Code.Scope)
    match result with
    | .ok scope =>
      let (printed, failed) := shapeLines scope scope.model.userShapes
      return ⟨printed, failed.map (Failure.model .other)⟩
    | .error e => return ⟨"", some e⟩

end WireShapes.Command
