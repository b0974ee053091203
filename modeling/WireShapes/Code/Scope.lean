import WireShapes.Code.Names
import WireShapes.Constraint.Index
import WireShapes.Http.Binding

/-!
What all generated code shares.

* `Scope`: the model, the settings, the constrained shapes and the side of every structure
* paths of modules and types
* `Scope.hasNewtype`, `Scope.hasPublicNewtype`: which shapes have a type of validated values
* `Scope.operations`, `Scope.streamType`
-/

namespace WireShapes.Code

/-- What all generated code shares. -/
structure Scope where
  model : Model
  settings : Settings
  constrained : List ShapeId
  directions : List (ShapeId × Direction)

/-- The sides of the structures of operations; the last operation that uses a structure decides. -/
def directionsOf (m : Model) : List (ShapeId × Direction) :=
  Entries.ofList (m.operations.flatMap fun (_, op) =>
    (op.input.map fun id => (id, Direction.request)).toList
      ++ (op.output.map fun id => (id, Direction.response)).toList)

namespace Scope

/-- The scope of a model; the service of the settings has to be there. -/
def make (m : Model) (settings : Settings) : Except ModelError Scope := do
  match settings.service with
  | some id => let _ ← m.expect ⟨id⟩
  | none => pure ()
  .ok ⟨m, settings, constrainedShapes m settings.target, directionsOf m⟩

theorem eq_of_make {m : Model} {settings : Settings} {s : Scope} (h : make m settings = .ok s) :
    s = ⟨m, settings, constrainedShapes m settings.target, directionsOf m⟩ := by
  unfold make at h
  cases hservice : settings.service with
  | none =>
    rw [hservice] at h
    exact (Except.ok.inj h).symm
  | some id =>
    rw [hservice] at h
    cases hid : m.expect ⟨id⟩ with
    | error e => simp [hid, bind, Except.bind] at h
    | ok shape =>
      simp only [hid, bind, Except.bind] at h
      exact (Except.ok.inj h).symm

def isServer (s : Scope) : Bool := s.settings.isServer

/-- The path of the support library. -/
def rt (s : Scope) : String := s.settings.runtimePath

def root (s : Scope) : String := s.settings.root

def modelPath (s : Scope) : String := s.root ++ "::model"

/-- The module of a shape, with its builder and its violations. -/
def shapeModule (s : Scope) (id : ShapeId) : String := s.modelPath ++ "::" ++ moduleName id

/-- The type of a shape with a name of its own. -/
def namedType (s : Scope) (id : ShapeId) : String := s.modelPath ++ "::" ++ typeName id

def violationType (s : Scope) (id : ShapeId) : String := s.shapeModule id ++ "::ConstraintViolation"

def isConstrained (s : Scope) (id : ShapeId) : Bool := s.constrained.contains id

end Scope

/-- The format of a timestamp in a document: of the member, else of the target, else seconds. -/
def bodyTimeFormat (member : Option Member) (target : Shape) : TimeFormat :=
  match member.bind fun m => m.traits.timestampFormat with
  | some format => format
  | none => target.traits.timestampFormat.getD .epochSeconds

/-- Simple values and collections, which a newtype can hold. -/
def isWrappable (s : Shape) : Bool :=
  match s.kind with
  | .string => true
  | .number _ => true
  | .blob => true
  | .list _ => true
  | .map _ _ => true
  | _ => false

namespace Scope

/-- The shape has a newtype of validated values. -/
def hasNewtype (s : Scope) (shape : Shape) : Bool := s.isConstrained shape.id && isWrappable shape

/-- The newtype is part of the public interface. -/
def hasPublicNewtype (s : Scope) (shape : Shape) : Bool :=
  s.hasNewtype shape && s.settings.publicConstrainedTypes && shape.isDirectlyConstrained

/-- How a validated value becomes a public one. -/
def toPublic (s : Scope) (shape : Shape) : String :=
  if s.hasNewtype shape && !s.hasPublicNewtype shape then ".into_inner()" else ""

/-- The operations of the service of the settings, or all of the model. -/
def operations (s : Scope) : Except ModelError (List Shape) :=
  match s.settings.service with
  | some id => do
    match (← s.model.expect ⟨id⟩).kind with
    | .service service => service.operations.mapM s.model.expect
    | _ => .error (.unsupported ⟨id⟩ .notService)
  | none => .ok (s.model.operations.map (·.1))

def direction? (s : Scope) (id : ShapeId) : Option Direction := Entries.get? id s.directions

def isStreamMember (s : Scope) (member : Member) : Bool := s.model.isStreamMember member

/-- The type of an event stream in a structure: a sender on the side that sends. -/
def streamType (s : Scope) (container : ShapeId) (member : Member) : Except ModelError String :=
  match s.direction? container with
  | none => .error (.unsupported container .strayStream)
  | some direction =>
    let event := s.namedType member.target
    let sending := s.isServer == (direction == .response)
    if sending then .ok s!"{s.rt}::event_stream::Sender<{event}>"
    else
      .ok s!"{s.rt}::event_stream::Receiver<{event}, {s.root}::error::{typeName member.target}Error>"

def formatPath (s : Scope) (format : TimeFormat) : String :=
  let variant := match format with
    | .dateTime => "DateTime"
    | .httpDate => "HttpDate"
    | .epochSeconds => "EpochSeconds"
  s!"{s.rt}::date_time::Format::{variant}"

def buildIsFallible (s : Scope) (shape : Shape) : Bool :=
  if s.isServer then s.isConstrained shape.id
  else shape.members.any fun member => member.isMandatory || s.isStreamMember member

end Scope

end WireShapes.Code
