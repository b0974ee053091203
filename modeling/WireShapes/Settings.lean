import WireShapes.Model.Error
import WireShapes.Source.Ast

/-!
What to generate.

* `Settings`: target, paths, and whether constrained types are public
* `Settings.parse`: from a document, or from the `codegen` block of one
-/

namespace WireShapes

/-- Whom the code is for. -/
inductive Target
  | client
  | server
deriving DecidableEq, Repr

def Target.name : Target → String
  | client => "client"
  | server => "server"

def Target.ofName? : String → Option Target
  | "client" => some .client
  | "server" => some .server
  | _ => none

/-- What to generate. -/
structure Settings where
  /-- The service to whose operations generation is restricted. -/
  service : Option String
  target : Target
  /-- On a server, constrained types are part of the public interface. -/
  publicConstrainedTypes : Bool
  /-- The path of the support library in generated code. -/
  runtimePath : String
  /-- The path under which generated modules stand. -/
  root : String
deriving DecidableEq, Repr

namespace Settings

def client : Settings := ⟨none, .client, true, "::shapegen_runtime", "crate"⟩

def server (publicTypes : Bool) : Settings :=
  { client with target := .server, publicConstrainedTypes := publicTypes }

def withRoot (s : Settings) (root : String) : Settings := { s with root := root }

def isServer (s : Settings) : Bool := s.target == .server

end Settings

open Source

/-- A target: its name, or an object with the name as its only key and null behind it. -/
def targetName : Decoder Target := fun here cs =>
  let known (name : String) : Except Path Target := orFail here.path (Target.ofName? name)
  match skipBlanks cs with
  | '"' :: rest => do
    let (name, rest) ← orFail here.path (takeString? rest)
    .ok (← known name, rest)
  | '\x7b' :: rest => enter here do
    match skipBlanks rest with
    | '"' :: rest =>
      let (name, rest) ← orFail here.path (takeString? rest)
      let target ← known name
      let rest ← takeColon here.path rest
      let inside : Path := .key name :: here.path
      match skipBlanks rest with
      | 'n' :: rest =>
        let rest ← orFail inside (takeWord? "ull" rest)
        match skipBlanks rest with
        | '\x7d' :: rest => .ok (target, rest)
        | _ => .error here.path
      | _ => .error inside
    | _ => .error here.path
  | _ => .error here.path

structure SettingsParts where
  service : Option (Option String) := none
  target : Option Target := none
  publicConstrainedTypes : Option Bool := none
  runtimePath : Option String := none
  root : Option String := none

/-- Settings; what is not given has its default. -/
def SettingsParts.finish (s : SettingsParts) : Settings :=
  let d := Settings.client
  ⟨s.service.getD none, s.target.getD d.target, s.publicConstrainedTypes.getD d.publicConstrainedTypes,
    s.runtimePath.getD d.runtimePath, s.root.getD d.root⟩

/-- Settings without unknown keys. -/
def settings : Decoder Settings :=
  record
    [field "service" SettingsParts.service (fun s v => { s with service := some v }) (optional text) true,
      field "target" SettingsParts.target (fun s v => { s with target := some v }) targetName true,
      field "publicConstrainedTypes" SettingsParts.publicConstrainedTypes
        (fun s v => { s with publicConstrainedTypes := some v }) truth true,
      field "runtimeCrate" SettingsParts.runtimePath (fun s v => { s with runtimePath := some v }) text true,
      field "crateRoot" SettingsParts.root (fun s v => { s with root := some v }) text true]
    true {} fun s => some s.finish

def settingsBlock : Decoder Settings :=
  record
    [⟨"codegen", Option.isSome, fun _ p cs => (settings p cs).map fun r => (some r.1, r.2), false⟩]
    false (none : Option Settings) id

def hasBlock : Value → Bool
  | .object entries => (Entries.get? "codegen" entries).isSome
  | _ => false

/-- The settings of a document. It is read as a value first, so that it has to be well-formed
whatever is in it. -/
def Settings.parse (source : SourceText) : Except ModelError Settings :=
  let located {α : Type} (result : Except Path α) : Except ModelError α :=
    match result with
    | .ok v => .ok v
    | .error path => .error (.malformed source.origin path.text)
  do
    let v ← located (decode value source.text)
    if hasBlock v then located (decode settingsBlock source.text)
    else located (decode settings source.text)

end WireShapes
