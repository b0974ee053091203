import WireShapes.Failure
import WireShapes.Http.Message
import WireShapes.Schema.Shape

/-!
Failures of a service as a client sees them.

* `ServiceError`: one of the errors of the model, or something else
* `ServiceError.message`, `code`, `chain`
* `errorText`: an error of the model in words
-/

namespace WireShapes.Schema

/-- The name of an error and its message if it has one. -/
def errorText (name : String) (v : Value) : String :=
  match v.get? "message" with
  | some message => name ++ ": " ++ message.plain
  | none => name

/-- A failure of an operation or of an event stream. -/
inductive ServiceError (ν : Type)
  | modeled (shape : ν) (value : Value)
  | unhandled (failure : Unhandled)
deriving Repr

namespace ServiceError

variable {ν : Type} (S : Schema ν)

def message : ServiceError ν → String
  | modeled shape value => errorText (S.name shape) value
  | unhandled failure => failure.text

def kind : ServiceError ν → String
  | modeled shape _ => S.name shape
  | unhandled _ => "Unhandled"

def code : ServiceError ν → Option String
  | modeled shape _ => some (S.name shape)
  | unhandled failure => failure.metadata.code

/-- The texts of the causes, the nearest first. -/
def chain : ServiceError ν → List String
  | modeled shape value => [errorText (S.name shape) value]
  | unhandled failure => failure.text :: failure.causes

end ServiceError

/-- The texts of a failure to read and of what is behind it. -/
def readCauses (e : Json.ReadError) : List String := e.message :: e.source?.toList

/-- The texts of a rejection and of what is behind it. -/
def rejectionCauses (e : Http.Rejection) : List String :=
  match e with
  | .body cause => e.message :: readCauses cause
  | _ => e.message :: e.source?.toList

end WireShapes.Schema
