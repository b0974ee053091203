import WireShapes.Schema.Reading
import WireShapes.Schema.ServiceError
import WireShapes.Schema.Writing
import WireShapes.Stream.Channel

/-!
Events of a stream as messages.

* `EventStream`: the events and the errors that a stream carries
* `marshall`, `marshallError`: the message of an event or an error
* `unmarshall`: what a message stands for
-/

namespace WireShapes.Schema

open WireShapes.Stream

/-- The events and the errors of a stream, by the names that messages have for them. -/
structure EventStream (ν : Type) where
  name : String
  events : List (String × ν)
  errors : List (String × ν)
deriving Repr

variable {ν : Type} (S : Schema ν)

/-! ### Writing -/

def textHeader (name value : String) : String × HeaderValue := (name, .string value)

/-- The header fields of the members that travel in them. -/
def eventHeaders (v : Value) (members : List (Member ν)) : List (String × HeaderValue) :=
  members.filterMap fun m =>
    match m.place, v.get? m.name with
    | .eventHeader, some value => some (textHeader m.name value.plain)
    | _, _ => none

/-- The member whose bytes are the payload. -/
def payloadMember? (members : List (Member ν)) : Option (Member ν) :=
  members.find? fun m => decide (m.place = .eventPayload)

/-- The bytes of a blob; what is absent has none. -/
def blobBytes : Option Value → List UInt8
  | some (.blob bytes) => bytes
  | _ => []

/-- The form and the bytes of the payload of an event. -/
def eventPayload (v : Value) (members : List (Member ν)) : String × List UInt8 :=
  match payloadMember? members with
  | some m => ("application/octet-stream", blobBytes (v.get? m.name))
  | none => ("application/json", bodyBytes members v)

/-- The message of an event, which has to be one of the stream. -/
def marshall (es : EventStream ν) : Value → Except StreamFault Message
  | .variant name v =>
    match Entries.get? name es.events with
    | none => .error (.marshalling "cannot marshall an unknown event")
    | some shape =>
      let members := S.members shape
      let (form, payload) := eventPayload v members
      .ok ⟨[textHeader messageTypeHeader "event", textHeader eventTypeHeader name,
        textHeader contentTypeHeader form] ++ eventHeaders v members, payload⟩
  | _ => .error (.marshalling "cannot marshall an unknown event")

/-- The message of a failure that the model does not describe. -/
def unhandledMessage (failure : Unhandled) : Message :=
  let text := failure.metadata.message.map (textHeader ":error-message")
  ⟨[textHeader messageTypeHeader "error",
    textHeader errorCodeHeader (failure.metadata.code.getD "Unhandled")] ++ text.toList, []⟩

def marshallError [DecidableEq ν] (es : EventStream ν) : ServiceError ν → Message
  | .modeled shape v =>
    let name := ((es.errors.find? fun e => decide (e.2 = shape)).map (·.1)).getD (S.name shape)
    ⟨[textHeader messageTypeHeader "exception", textHeader exceptionTypeHeader name,
      textHeader contentTypeHeader "application/json"], Utf8.encode v.toJson⟩
  | .unhandled failure => unhandledMessage failure

/-! ### Reading -/

/-- The fields after the members that travel in header fields are put in. -/
def readEventHeaders (m : Message) :
    List (Member ν) → List (String × Draft) → Except StreamFault (List (String × Draft))
  | [], fields => .ok fields
  | member :: rest, fields =>
    if member.place = .eventHeader then do
      match ← m.string? member.name with
      | some value => readEventHeaders m rest (setField fields member.name (some (.text value)))
      | none => readEventHeaders m rest fields
    else readEventHeaders m rest fields

/-- The fields after the payload is put in. -/
def readEventPayload (F : Flavour) (shape : ν) (payload : List UInt8)
    (fields : List (String × Draft)) : Except StreamFault (List (String × Draft)) :=
  let members := S.members shape
  match payloadMember? members with
  | some m => .ok (setField fields m.name (some (.blob payload)))
  | none =>
    match S.readBody F (bodyMembers members) payload fields with
    | .ok fields => .ok fields
    | .error e => .error (.unmarshalling s!"failed to parse `{S.name shape}` payload: {e.message}")

def readEvent (F : Flavour) (shape : ν) (what : String) (m : Message) : Except StreamFault Value := do
  let fields ← readEventHeaders m (S.members shape) []
  let fields ← S.readEventPayload F shape m.payload fields
  match S.build F shape (.struct fields) with
  | .ok v => .ok v
  | .error e => .error (.unmarshalling s!"invalid {what}: {e.message}")

/-- An event that the stream does not list. -/
def unknownEvent (F : Flavour) (name : String) : Except StreamFault (Outcome Value (ServiceError ν)) :=
  match F with
  | .client => .ok (.event .unknown)
  | _ => .error (.unmarshalling s!"unrecognized event type `{name}`")

/-- An exception that the stream does not list: its type is its code. -/
def unknownException (name : String) (m : Message) :
    Except StreamFault (Outcome Value (ServiceError ν)) :=
  match Metadata.read m.payload [] with
  | .error e => .error (.unmarshalling s!"failed to parse exception: {e.message}")
  | .ok metadata => .ok (.failure (.unhandled ⟨⟨some name, metadata.message⟩, []⟩))

/-- The event or the error that a message stands for. -/
def unmarshall (F : Flavour) (es : EventStream ν) (m : Message) :
    Except StreamFault (Outcome Value (ServiceError ν)) := do
  let envelope ← Envelope.read m
  let name := envelope.name
  if envelope.messageType = "event" then
    match Entries.get? name es.events with
    | none => unknownEvent F name
    | some shape =>
      let v ← S.readEvent F shape s!"`{name}` event" m
      .ok (.event (.variant name v))
  else if envelope.messageType = "exception" then
    match Entries.get? name es.errors with
    | none => unknownException name m
    | some shape =>
      let v ← S.readEvent F shape s!"`{name}` exception" m
      .ok (.failure (.modeled shape v))
  else .error (.unmarshalling s!"unrecognized message type `{envelope.messageType}` ({name})")

end WireShapes.Schema
