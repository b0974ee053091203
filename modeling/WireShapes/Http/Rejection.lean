import WireShapes.Json.Token

/-!
Why a request is not accepted and why a message cannot be written.

* `ValueFault`: what is wrong with a bound value
* `Rejection`: why an incoming request does not become an input
* `WriteFault`: why an outgoing message does not come about
-/

namespace WireShapes.Http

/-- What is wrong with a bound value. -/
inductive ValueFault
  | manyValues
  /-- Bytes that are not visible ASCII, space or tab. -/
  | notText
  | openEscape
  | openQuote
  | afterQuote (c : Char)
  | incompleteDate
  | encoding (cause : Utf8.Malformed)
  | notBool
deriving DecidableEq, Repr

def ValueFault.message : ValueFault → String
  | manyValues => "expected a single value"
  | notText => "failed to convert header to a str"
  | openEscape => "unterminated escape in quoted value"
  | openQuote => "unterminated quoted value"
  | afterQuote c => s!"unexpected `{c}` after quoted value"
  | incompleteDate => "incomplete http-date in list"
  | encoding cause => cause.message
  | notBool => "provided string was not `true` or `false`"

/-- Why an incoming request does not become an input. -/
inductive Rejection
  | method (expected found : String)
  | uri (path : String)
  | label (name : String) (fault : ValueFault)
  | header (name : String) (fault : ValueFault)
  | query (name : String) (fault : ValueFault)
  | body (cause : Json.ReadError)
  /-- The input breaks a constraint of the model; the message of the violation. -/
  | violation (message : String)
deriving DecidableEq, Repr

namespace Rejection

def message : Rejection → String
  | method expected found => s!"request method `{found}` does not match `{expected}`"
  | uri path => s!"request path `{path}` does not match the operation's URI pattern"
  | label name fault => s!"invalid value for label `{name}`: {fault.message}"
  | header name fault => s!"invalid value for header `{name}`: {fault.message}"
  | query name fault => s!"invalid value for query parameter `{name}`: {fault.message}"
  | body cause => s!"malformed request body: {cause.message}"
  | violation message => s!"request failed validation: {message}"

/-- The message of the cause behind a rejection, where there is one. -/
def source? : Rejection → Option String
  | body cause => some cause.message
  | violation message => some message
  | _ => none

end Rejection

/-- Why an outgoing message does not come about. -/
inductive WriteFault
  | headerValue (name : String)
  | emptyLabel (name : String)
  | message
deriving DecidableEq, Repr

def WriteFault.text : WriteFault → String
  | headerValue name => s!"invalid value for header `{name}`"
  | emptyLabel name => s!"label `{name}` must not be empty"
  | message => "failed to build HTTP message"

end WireShapes.Http
