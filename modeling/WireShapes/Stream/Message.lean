import WireShapes.Instant.Basic
import WireShapes.Text.Quoted

/-!
Messages of an event stream: typed header fields and a payload.

* `HeaderValue`, `Message`
* `StreamFault.message`: why a message is none of the stream's
* `Envelope.read`: what kind of message it is
-/

namespace WireShapes.Stream

inductive HeaderValue
  | bool (value : Bool)
  | byte (value : Int)
  | int16 (value : Int)
  | int32 (value : Int)
  | int64 (value : Int)
  | bytes (value : List UInt8)
  | string (value : String)
  | time (value : Instant)
deriving DecidableEq, Repr

namespace HeaderValue

/-- The value in a form that shows its type. -/
def debug : HeaderValue → String
  | bool value => s!"Bool({value})"
  | byte value => s!"Byte({value})"
  | int16 value => s!"Int16({value})"
  | int32 value => s!"Int32({value})"
  | int64 value => s!"Int64({value})"
  | bytes value =>
    let items := ", ".intercalate (value.map fun b => toString b.toNat)
    s!"ByteArray([{items}])"
  | string value => s!"String({Text.quote value})"
  | time value =>
    s!"Timestamp(DateTime \x7b seconds: {value.seconds}, subsecond_nanos: {value.nanos} \x7d)"

end HeaderValue

/-- Header fields in order and a payload. -/
structure Message where
  headers : List (String × HeaderValue)
  payload : List UInt8
deriving DecidableEq, Repr

/-- The first field of a name. -/
def Message.header? (m : Message) (name : String) : Option HeaderValue :=
  (m.headers.find? (·.1 == name)).map (·.2)

/-- Why a message cannot be read or written. -/
inductive StreamFault
  | unmarshalling (text : String)
  | marshalling (text : String)
  | missingHeader (name : String)
  | headerType (name : String) (found : HeaderValue)
deriving DecidableEq, Repr

def StreamFault.message : StreamFault → String
  | unmarshalling text => s!"failed to unmarshall message: {text}"
  | marshalling text => s!"failed to marshall message: {text}"
  | missingHeader name => s!"message is missing required header `{name}`"
  | headerType name found => s!"header `{name}` has the wrong type: {found.debug}"

def messageTypeHeader : String := ":message-type"
def eventTypeHeader : String := ":event-type"
def exceptionTypeHeader : String := ":exception-type"
def errorCodeHeader : String := ":error-code"
def contentTypeHeader : String := ":content-type"

/-- What kind of message it is, which one of the kind, and the form of its payload. -/
structure Envelope where
  messageType : String
  name : String
  contentType : Option String
deriving DecidableEq, Repr

/-- The text of a field that has to be a string if it is there. -/
def Message.string? (m : Message) (name : String) : Except StreamFault (Option String) :=
  match m.header? name with
  | none => .ok none
  | some (.string value) => .ok (some value)
  | some found => .error (.headerType name found)

/-- The text of a field that has to be there. -/
def Message.stringOf (m : Message) (name : String) : Except StreamFault String := do
  match ← m.string? name with
  | some value => .ok value
  | none => .error (.missingHeader name)

/-- The field that names a message of a type. -/
def nameHeader (messageType : String) : String :=
  if messageType = "event" then eventTypeHeader
  else if messageType = "exception" then exceptionTypeHeader
  else errorCodeHeader

def Envelope.read (m : Message) : Except StreamFault Envelope := do
  let messageType ← m.stringOf messageTypeHeader
  let name ← m.stringOf (nameHeader messageType)
  let contentType ← m.string? contentTypeHeader
  .ok ⟨messageType, name, contentType⟩

end WireShapes.Stream
