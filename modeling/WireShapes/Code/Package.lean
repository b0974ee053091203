import WireShapes.Code.Event
import WireShapes.Code.Http.Client
import WireShapes.Code.Http.Server
import WireShapes.Code.Structure

/-!
All modules of a run, and how they are laid out.

* `generate`: the modules of a model
* `singleFile`: all modules in one file
* `packageFiles`: a package with one file per module
-/

namespace WireShapes.Code

/-- The items of a shape: its types, and a module for its builder and what validates it. -/
def shapeSection (shape : Shape) (items : ShapeItems) : List Step :=
  let top := textOf items.top
  let inner := textOf items.inner
  if isBlank top && isBlank inner then []
  else
    let module := moduleName shape.id
    let own : List Step :=
      if isBlank inner then []
      else
        [.line s!"/// Builder and validation types for [`{module}`].",
          block s!"pub mod {module}" [.code inner],
          .blank]
    [Step.code top, .blank] ++ own

/-- The items of all shapes, in the order of the model. -/
def Scope.modelModule (s : Scope) : Except ModelError (List Step) := do
  let items ← s.model.userShapes.mapM fun shape => do
    let items ← s.shapeItems shape
    .ok (shapeSection shape items)
  .ok (items.flatten ++ [.needs .support])

def hasFunctions (s : Shape) : Bool :=
  match s.kind with
  | .struct _ => true
  | .list _ => true
  | .map _ _ => true
  | .union _ => !s.isEventStream
  | _ => false

def Scope.shapeFunctions (s : Scope) : Generator Unit :=
  (s.model.userShapes.filter hasFunctions).forM fun shape => do
    let _ ← writerFunction s shape
    let _ ← readerFunction s shape

def Scope.messageFunctions (s : Scope) : Generator Unit := do
  (← Generator.lift s.operations).forM fun operation => do
    if s.isServer then
      Http.serverRequest s operation
      Http.serverResponse s operation
      Http.serverErrors s operation
    else
      Http.clientRequest s operation
      Http.clientResponse s operation

/-- Fragments in one, a blank line between two of them. -/
def Fragment.merge (name : String) (fragments : List Fragment) : Fragment :=
  let kept := fragments.filter fun f => !f.isEmpty
  ⟨name, "\n".intercalate (kept.map (·.code)),
    [Dependency.support, .http].filter fun d => kept.any fun f => f.dependencies.contains d⟩

/-- The functions of all shapes and messages, and the module of event streams between them. -/
def Scope.exchange (s : Scope) : Generator (List Step) := do
  s.shapeFunctions
  let events ← s.eventModule
  s.messageFunctions
  return events

/-- The modules of a model. -/
def generate (m : Model) (settings : Settings) : Except ModelError (List Fragment) := do
  let s ← Scope.make m settings
  let types ← s.modelModule
  let errors ← s.errorModule
  match s.exchange {} with
  | (.error e, _) => .error e
  | (.ok events, functions) =>
    .ok [Fragment.ofSteps "constrained" constrainedSupport,
      Fragment.ofSteps "model" types,
      Fragment.ofSteps "error" (errors ++ [.needs .support]),
      Fragment.merge "protocol_serde" [functions.writers, functions.readers],
      Fragment.ofSteps "event_stream_serde" events,
      functions.messages]

/-! ### Files -/

/-- The first line of every file. -/
def fileHeader : List Step := [.line "// Code generated by shapegen. DO NOT EDIT.", .blank]

/-- What generated modules opt out of. -/
def moduleAttributes : String :=
  "#[allow(unused_mut, unused_variables, unused_imports, dead_code, private_interfaces, private_bounds, clippy::all)]"

/-- The fragment as code that is laid out already. -/
def Fragment.steps (f : Fragment) : List Step := if f.isEmpty then [] else [.code f.code]

def singleFile (modules : List Fragment) : String :=
  textOf (fileHeader ++ modules.flatMap fun m =>
    [.line moduleAttributes, block s!"pub mod {m.name}" m.steps, .blank])

def dependencies (modules : List Fragment) : List Dependency :=
  [Dependency.support, .http].filter fun d => modules.any fun m => m.dependencies.contains d

/-- The manifest of a package; the support library comes from a path or from the registry. -/
def manifest (modules : List Fragment) (packageName : String) (supportPath : Option String) : String :=
  let dependency (d : Dependency) : String :=
    match d, supportPath with
    | .support, some path => s!"{d.package} = \x7b path = {Text.quote path} \x7d"
    | .support, none => s!"{d.package} = \"0.1\""
    | .http, _ => s!"{d.package} = \"1\""
  joinLines (["[package]", s!"name = \"{packageName}\"", "version = \"0.1.0\"", "edition = \"2024\"", "",
    "[dependencies]"] ++ (dependencies modules).map dependency)

/-- The files of a package, each with its path. -/
def packageFiles (modules : List Fragment) (packageName : String) (supportPath : Option String) :
    List (String × String) :=
  [("Cargo.toml", manifest modules packageName supportPath)]
    ++ (modules.map fun m => (s!"src/{m.name}.rs", textOf (fileHeader ++ m.steps)))
    ++ [("src/lib.rs", textOf (fileHeader ++ modules.flatMap fun m =>
      lines [moduleAttributes, s!"pub mod {m.name};"]))]

end WireShapes.Code
