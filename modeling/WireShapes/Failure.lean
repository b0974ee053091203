import WireShapes.Http.Header
import WireShapes.Json.Reader

/-!
What an error response says about itself.

* `Metadata`: a code and a message, either of which may be missing
* `errorCode`: a code without namespace and suffix
* `Metadata.read`: from the header fields and the body of a response
* `Unhandled`: a failure that the model does not describe
-/

namespace WireShapes

structure Metadata where
  code : Option String
  message : Option String
deriving DecidableEq, Repr

namespace Metadata

def text (m : Metadata) : String :=
  match m.code, m.message with
  | some code, some message => s!"{code}: {message}"
  | some code, none => code
  | none, some message => message
  | none, none => "unknown error"

end Metadata

/-- The code up to the first colon and after the last hash sign before it. -/
def errorCodeChars (cs : List Char) : List Char :=
  let short := cs.takeWhile (· != ':')
  (short.reverse.takeWhile (· != '#')).reverse

/-- A code without namespace and suffix. -/
def errorCode (code : String) : String := String.ofList (errorCodeChars code.toList)

/-- The header field that carries the code of an error. -/
def errorTypeHeader : String := "x-amzn-errortype"

/-- What the body of an error has said so far. -/
structure ErrorBody where
  type : Option String := none
  code : Option String := none
  message : Option String := none
deriving DecidableEq, Repr

open Json in
/-- One entry of the body after its key; only strings count. -/
def ErrorBody.readEntry (body : ErrorBody) (key : String) : Reader ErrorBody := do
  match ← Reader.peek with
  | some (.string _) =>
    if key = "__type" then return { body with type := ← Reader.string }
    else if key = "code" ∨ key = "Code" then return { body with code := ← Reader.string }
    else if key = "message" ∨ key = "Message" ∨ key = "errorMessage" then
      return { body with message := ← Reader.string }
    else
      Reader.skipValue
      return body
  | _ =>
    Reader.skipValue
    return body

open Json in
def ErrorBody.readEntries : Nat → ErrorBody → Reader ErrorBody
  | 0, _ => Reader.failContent .errorBody
  | rounds + 1, body => do
    match ← Reader.next with
    | some ⟨_, .endObject⟩ => return body
    | some ⟨_, .key raw⟩ => readEntries rounds (← body.readEntry raw)
    | _ => Reader.failContent .errorBody

open Json in
/-- The body of an error; what is no object says nothing. -/
def ErrorBody.read : Reader ErrorBody := do
  match ← Reader.next with
  | some ⟨_, .startObject⟩ => ErrorBody.readEntries (← Reader.rounds) {}
  | _ => return {}

/-- The code of the header field if it can be read, else the type of the body, else its code. -/
def Metadata.read (payload : List UInt8) (headers : Http.Headers) : Except Json.ReadError Metadata := do
  let body ← (ErrorBody.read (Json.tokenize payload)).1
  let fromHeader := (Http.get? errorTypeHeader headers).bind Http.fieldText?
  let code := (fromHeader.or (body.type.or body.code)).map errorCode
  .ok ⟨code, body.message⟩

/-- A failure that the model does not describe, and the texts of its causes, the nearest first. -/
structure Unhandled where
  metadata : Metadata
  causes : List String
deriving DecidableEq, Repr

def Unhandled.text (u : Unhandled) : String := s!"unhandled error ({u.metadata.text})"

/-- A failure known by its causes alone. -/
def Unhandled.ofCauses (causes : List String) : Unhandled := ⟨⟨none, none⟩, causes⟩

end WireShapes
