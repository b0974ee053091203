import WireShapes.Schema.Request
import WireShapes.Schema.ServiceError

/-!
Responses of operations.

* `writeResponse`, `writeErrorResponse`: what a server answers
* `readResponse`: what a client makes of the answer
-/

namespace WireShapes.Schema

open Http

variable {ν : Type} (S : Schema ν)

def writeResponse (op : Operation ν) (v : Value) : Except WriteFault Response := do
  let members := S.members op.output
  let headers ← writeHeaders v members
  let (form, body) := writeBody v members
  .ok ⟨op.status, headers ++ form, body⟩

/-- The response with an error of the model, named in a header field. -/
def writeErrorResponse (shape : ν) (status : Nat) (v : Value) : Except WriteFault Response := do
  let members := S.members shape
  let headers ← writeHeaders v members
  let (form, body) := writeBody v members
  .ok ⟨status, (errorTypeHeader, Utf8.encode (S.name shape)) :: headers ++ form, body⟩

/-- A structure from the header fields and the body of a response, or the causes of a failure. -/
def readParts (shape : ν) (r : Response) : Except (List String) Value :=
  let members := S.members shape
  match S.readHeaders r.headers members [] with
  | .error e => .error (rejectionCauses e)
  | .ok fields =>
    match S.readStreamOrBody .client r.body members fields with
    | .error e => .error (readCauses e)
    | .ok fields =>
      match S.build .client shape (.struct fields) with
      | .error e => .error [e.message]
      | .ok v => .ok v

/-- The failure of which a response tells. -/
def readFailure (op : Operation ν) (r : Response) : ServiceError ν :=
  match Metadata.read r.body r.headers with
  | .error e => .unhandled (.ofCauses (readCauses e))
  | .ok metadata =>
    match op.errors.find? fun e => metadata.code == some (S.name e.1) with
    | none => .unhandled ⟨metadata, []⟩
    | some (shape, _) =>
      match S.readParts shape r with
      | .ok v => .modeled shape v
      | .error causes => .unhandled (.ofCauses causes)

/-- The output of an operation, or its failure. -/
def readResponse (op : Operation ν) (r : Response) : Except (ServiceError ν) Value :=
  if r.isSuccess then
    match S.readParts op.output r with
    | .ok v => .ok v
    | .error causes => .error (.unhandled (.ofCauses causes))
  else .error (S.readFailure op r)

end WireShapes.Schema
