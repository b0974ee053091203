import WireShapes.Code.Items

/-!
Functions that are generated when they are first needed.

* `Functions`: the functions that are known by name and those that are written
* `request`: the name of a function, which is written on the first request

A function is known from the moment its writing begins, so a shape that holds itself finds its own
function. What is known and written stays so when a later function fails.
-/

namespace WireShapes.Code

/-- What a function does for its shape. -/
inductive FunctionForm
  | writer
  /-- Writes only the members that travel in a body. -/
  | bodyWriter
  | reader
  /-- Reads only the members that travel in a body. -/
  | bodyReader
  /-- Reads a text that holds the document and nothing else. -/
  | textReader
  /-- Handles a whole HTTP message. -/
  | message
deriving DecidableEq, Repr

/-- The fragment that holds functions of a form. -/
inductive FunctionGroup
  | writers
  | readers
  | messages
deriving DecidableEq, Repr

def FunctionForm.group : FunctionForm → FunctionGroup
  | writer => .writers
  | bodyWriter => .writers
  | reader => .readers
  | bodyReader => .readers
  | textReader => .readers
  | message => .messages

structure Function where
  shape : ShapeId
  form : FunctionForm
  name : String
  code : List Step

/-- The functions that are known by name, and those that are written, in order. -/
structure Functions where
  known : List ((ShapeId × FunctionForm) × String) := []
  written : List Function := []
  /-- How many variables have been named. -/
  named : Nat := 0
deriving Inhabited

/-- Generation of functions; a failure keeps what is there. -/
abbrev Generator := ExceptT ModelError (StateM Functions)

namespace Generator

/-- A step that needs no functions. -/
def lift {α : Type} (result : Except ModelError α) : Generator α :=
  match result with
  | .ok value => pure value
  | .error e => throw e

/-- A variable that has not been named before. -/
def fresh (stem : String) : Generator String := do
  modify fun f => { f with named := f.named + 1 }
  return s!"{stem}_{(← get).named}"

def emit (shape : ShapeId) (form : FunctionForm) (name : String) (code : List Step) : Generator Unit :=
  modify fun f => { f with written := f.written ++ [⟨shape, form, name, code⟩] }

/-- The name of a function; on the first request it is written. -/
def request (shape : ShapeId) (form : FunctionForm) (name : String) (write : Generator (List Step)) :
    Generator String := do
  match Entries.get? (shape, form) (← get).known with
  | some known => return known
  | none =>
    modify fun f => { f with known := Entries.insert (shape, form) name f.known }
    emit shape form name (← write)
    return name

end Generator

/-- The functions of a group as a fragment, a blank line between two of them. -/
def Functions.fragment (f : Functions) (group : FunctionGroup) (name : String)
    (dependencies : List Dependency) : Fragment :=
  let functions := f.written.filter fun function => function.form.group = group
  let code := "\n".intercalate (functions.map fun function => textOf function.code)
  ⟨name, code, if code.isEmpty then [] else dependencies⟩

def Functions.writers (f : Functions) : Fragment := f.fragment .writers "protocol_serde::ser" [.support]

def Functions.readers (f : Functions) : Fragment := f.fragment .readers "protocol_serde::de" [.support]

def Functions.messages (f : Functions) : Fragment := f.fragment .messages "http_serde" [.support, .http]

/-- The path of a function for other modules. -/
def Scope.functionPath (s : Scope) (name : String) : String := s!"{s.root}::protocol_serde::{name}"

/-- The members that a document holds: all that are not event streams. -/
def Scope.documentMembers (s : Scope) (members : List Member) : List Member :=
  members.filter fun member => !s.isStreamMember member

end WireShapes.Code
