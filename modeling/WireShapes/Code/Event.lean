import WireShapes.Code.Readers
import WireShapes.Code.Writers

/-!
Functions for the messages of event streams.

* `eventReader`: a message becomes an event or an error of the stream
* `eventWriter`: an event becomes a message
* `streamErrorWriter`: an error becomes a message
* `Scope.eventModule`: all three for every event stream

A member of an event travels in a header of its name, as the raw payload, or in the document that is
the payload.
-/

namespace WireShapes.Code

/-- The path of what the support library has for event streams. -/
def Scope.eventPath (s : Scope) : String := s.rt ++ "::event_stream"

def streamErrorType (s : Scope) (id : ShapeId) : String := s!"{s.root}::error::{typeName id}Error"

def unitType (name docs : String) : List Step :=
  lines [s!"/// {docs}", "#[non_exhaustive]", "#[derive(Debug, Clone, Copy, Default)]", s!"pub struct {name};"]
    ++ [.blank, block s!"impl {name}" [method "pub fn new() -> Self" [name]], .blank]

def eventStructure (s : Scope) (member : Member) : Except ModelError Shape := do
  let target ← s.model.target member
  if target.isStruct then .ok target else .error (.unsupported target.id .notEventStructure)

/-- The member that is the whole payload. -/
def payloadMember? (shape : Shape) : Option Member := shape.members.find? fun m => m.traits.eventPayload

/-- What becomes of the builder of an event. -/
def builtEvent (s : Scope) (shape : Shape) (what : String) : String :=
  if s.buildIsFallible shape then
    s!"builder\n    .build()\n    .map_err(|err| {s.eventPath}::EventStreamError::unmarshalling(::std::format!(\"invalid {what}: \x7b\x7d\", err)))?"
  else "builder.build()"

/-- Turns a fault of reading into one of the stream. -/
def asStreamFault (s : Scope) (what : String) : String :=
  s!".map_err(|err| {s.eventPath}::EventStreamError::unmarshalling(::std::format!(\"failed to parse {what}: \x7b\x7d\", err)))?"

/-! ### Reading -/

/-- The expression that reads a member from its header. -/
def headerRead (s : Scope) (member : Member) (target : Shape) : Except ModelError String :=
  let checked (accessor : String) : String :=
    s!"header.{accessor}().map_err(|found| {s.eventPath}::EventStreamError::invalid_header_type({Text.quote member.name}, found))?"
  let unsupported : Except ModelError String :=
    .error (.unsupported target.id (.headerKind target.kind.name))
  match target.kind with
  | .boolean => .ok (checked "as_bool")
  | .number kind =>
    match kind with
    | .byte => .ok (checked "as_byte")
    | .short => .ok (checked "as_int16")
    | .integer => .ok (checked "as_int32")
    | .long => .ok (checked "as_int64")
    | _ => unsupported
  | .string => .ok (checked "as_string" ++ ".to_string()")
  | .enum _ =>
    if s.isServer then .ok (checked "as_string" ++ ".to_string()")
    else .ok (s.namedType target.id ++ "::from(" ++ checked "as_string" ++ ")")
  | .blob => .ok (s.rt ++ "::Blob::new(" ++ checked "as_byte_array" ++ ".to_vec())")
  | .timestamp => .ok (checked "as_timestamp")
  | _ => unsupported

/-- The expression that reads a member that is the whole payload. -/
def payloadRead (s : Scope) (target : Shape) : Generator String := do
  match target.kind with
  | .blob => return s!"Some({s.rt}::Blob::new(message.payload().to_vec()))"
  | .string =>
    let fault := asStreamFault s "event payload as UTF-8"
    return s!"Some(::std::string::String::from_utf8(message.payload().to_vec()){fault})"
  | .struct _ | .union _ =>
    let function ← documentReader s target
    return s.functionPath function ++ "(message.payload())" ++ asStreamFault s "event payload"
  | kind => throw (.unsupported target.id (.payloadKind kind.name))

/-- Reads the headers of an event, as far as its members travel in headers. -/
def readEventHeaders (s : Scope) (shape : Shape) : Except ModelError (List Step) := do
  let headers ← shape.members.mapM fun member => do
    let target ← s.model.target member
    if member.traits.eventHeader then
      let read ← headerRead s member target
      .ok [method s!"if let Some(header) = message.header({Text.quote member.name})"
        [s!"builder = builder.{setterName member}(Some({read}));"]]
    else .ok []
  .ok headers.flatten

/-- Fills the builder of an event from the message. -/
def readEvent (s : Scope) (shape : Shape) : Generator (List Step) := do
  let headers ← Generator.lift (readEventHeaders s shape)
  match payloadMember? shape with
  | some member =>
    let target ← Generator.lift (s.model.target member)
    let read ← payloadRead s target
    return headers ++ [.line s!"builder = builder.{setterName member}({read});"]
  | none =>
    let body := shape.members.filter fun m => !m.traits.eventHeader && !m.traits.eventPayload
    let function ← bodyReader s shape body
    let fault := asStreamFault s s!"`{shape.id.name}` payload"
    return headers ++ [.line s!"builder = {s.functionPath function}(message.payload(), builder){fault};"]

/-- The arm that reads a message of one type, with the code that fills the builder. -/
def readArm (s : Scope) (member : Member) (target : Shape) (what : String) (reading : List Step)
    (result : Step) : Step :=
  .absorb [block s!"{Text.quote member.name} =>"
    ([.line s!"let mut builder = {s.shapeModule target.id}::Builder::default();"]
      ++ reading
      ++ [.line s!"let value = {builtEvent s target what};", result])]

def eventReadArm (s : Scope) (shape : Shape) (member : Member) (target : Shape) (reading : List Step) : Step :=
  let value := if member.traits.boxed then "::std::boxed::Box::new(value)" else "value"
  readArm s member target s!"`{member.name}` event" reading
    (.line s!"Ok({s.eventPath}::UnmarshalledMessage::Event({s.namedType shape.id}::{pascal member.name}({value})))")

def errorReadArm (s : Scope) (shape : Shape) (member : Member) (target : Shape) (reading : List Step) : Step :=
  readArm s member target s!"`{member.name}` exception" reading
    (.line s!"return Ok({s.eventPath}::UnmarshalledMessage::Error({streamErrorType s shape.id}::{pascal member.name}(value)));")

/-- The type that reads the messages of a stream, with the arms for its events and for its errors. -/
def messageReader (s : Scope) (shape : Shape) (events : List Member) (eventArms errorArms : List Step) :
    List Step :=
  let union := s.namedType shape.id
  let error := streamErrorType s shape.id
  let reader := typeName shape.id ++ "Unmarshaller"
  let es := s.eventPath
  let otherEvent :=
    if s.isServer then
      s!"unknown => Err({es}::EventStreamError::unmarshalling(::std::format!(\"unrecognized event type `\x7b\x7d`\", unknown))),"
    else
      s!"_ => Ok({es}::UnmarshalledMessage::Event({union}::{unknownVariant (events.map (·.name))})),"
  let knownErrors : List Step :=
    if errorArms.isEmpty then []
    else [block "match response_headers.smithy_type" (errorArms ++ [.line "_ => \x7b\x7d"])]
  let fault := asStreamFault s "exception"
  let exception : List Step :=
    knownErrors ++ lines
      [s!"let generic = {s.rt}::json::errors::parse_error_metadata(message.payload(), &::http::HeaderMap::new()){fault};",
        s!"let meta = {s.rt}::error::ErrorMetadata::new(",
        "    Some(response_headers.smithy_type.to_string()),",
        "    generic.message().map(::std::string::ToString::to_string),",
        ");",
        s!"Ok({es}::UnmarshalledMessage::Error({error}::generic(meta)))"]
  unitType reader s!"Reads `{shape.id.name}` events from event-stream messages."
    ++ [block s!"impl {es}::UnmarshallMessage for {reader}"
      [.line s!"type Output = {union};",
        .line s!"type Error = {error};",
        .blank,
        block s!"fn unmarshall(&self, message: &{es}::Message) -> ::std::result::Result<{es}::UnmarshalledMessage<Self::Output, Self::Error>, {es}::EventStreamError>"
          [.line s!"let response_headers = {es}::parse_response_headers(message)?;",
            block "match response_headers.message_type"
              [.block "\"event\" => match response_headers.smithy_type" "\x7d," (eventArms ++ [.line otherEvent]),
                block "\"exception\" =>" exception,
                .line s!"other => Err({es}::EventStreamError::unmarshalling(::std::format!(\"unrecognized message type `\x7b\x7d` (\x7b\x7d)\", other, response_headers.smithy_type))),"]]]]

/-- Generates the arm that reads an event of a stream. -/
def eventReading (s : Scope) (shape : Shape) (member : Member) : Generator Step := do
  let target ← Generator.lift (eventStructure s member)
  let reading ← readEvent s target
  return eventReadArm s shape member target reading

def errorReading (s : Scope) (shape : Shape) (member : Member) : Generator Step := do
  let target ← Generator.lift (s.model.target member)
  let reading ← readEvent s target
  return errorReadArm s shape member target reading

def eventReader (s : Scope) (shape : Shape) : Generator (List Step) := do
  let events ← Generator.lift (s.streamEvents shape)
  let errors ← Generator.lift (s.streamErrors shape)
  let eventArms ← events.mapM (eventReading s shape)
  let errorArms ← errors.mapM (errorReading s shape)
  return messageReader s shape events eventArms errorArms

/-! ### Writing -/

/-- The value of a header for a member. -/
def headerWrite (s : Scope) (target : Shape) : Except ModelError String :=
  let newtype := s.hasPublicNewtype target
  let value := if newtype then "value.inner()" else "value"
  let header (variant inner : String) : Except ModelError String :=
    .ok s!"{s.eventPath}::HeaderValue::{variant}({inner})"
  match target.kind with
  | .boolean => header "Bool" "*value"
  | .number kind =>
    match kind with
    | .byte => header "Byte" ("*" ++ value)
    | .short => header "Int16" ("*" ++ value)
    | .integer => header "Int32" ("*" ++ value)
    | .long => header "Int64" ("*" ++ value)
    | _ => .error (.unsupported target.id .headerNumber)
  | .string => header "String" (if newtype then "value.as_str().to_string()" else "value.clone()")
  | .enum _ => header "String" "value.as_str().to_string()"
  | .blob => header "ByteArray" (value ++ ".clone().into_inner()")
  | .timestamp => header "Timestamp" "*value"
  | kind => .error (.unsupported target.id (.headerKind kind.name))

def headerLine (s : Scope) (constant value : String) : String :=
  s!".add_header({s.eventPath}::Header::new({s.eventPath}::{constant}, {s.eventPath}::HeaderValue::String({Text.quote value}.into())))"

/-- The bytes of a value that is the whole payload, and their content type. -/
def payloadBytes (s : Scope) (target : Shape) : Generator (String × String) := do
  let newtype := s.hasPublicNewtype target
  match target.kind with
  | .blob =>
    return (if newtype then "value.inner().clone().into_inner()" else "value.clone().into_inner()",
      "application/octet-stream")
  | .string =>
    return (if newtype then "value.as_str().as_bytes().to_vec()" else "value.as_bytes().to_vec()", "text/plain")
  | .struct _ | .union _ =>
    let function ← writerFunction s target
    return (objectBytes s function "value", "application/json")
  | kind => throw (.unsupported target.id (.payloadKind kind.name))

/-- Binds the payload of an event; with its content type. -/
def writePayload (s : Scope) (shape : Shape) : Generator (List Step × String) := do
  match payloadMember? shape with
  | none =>
    let body := shape.members.filter fun m => !m.traits.eventHeader
    let function ← bodyWriter s shape body
    return ([.line ("let payload = " ++ objectBytes s function "&inner" ++ ";")], "application/json")
  | some member =>
    let target ← Generator.lift (s.model.target member)
    let (bytes, contentType) ← payloadBytes s target
    let field := fieldName member
    if member.isOptional then
      return ([.block s!"let payload = match &inner.{field}" "\x7d;"
        [block "Some(value) =>" [.code bytes], .line "None => ::std::vec::Vec::new(),"]], contentType)
    else return (lines [s!"let value = &inner.{field};", s!"let payload = {bytes};"], contentType)

def writeEventHeaders (s : Scope) (shape : Shape) : Except ModelError (List Step) := do
  let headers ← (shape.members.filter fun m => m.traits.eventHeader).mapM fun member => do
    let header ← headerWrite s (← s.model.target member)
    let add := s!"message = message.add_header({s.eventPath}::Header::new({Text.quote member.name}, {header}));"
    let field := fieldName member
    if member.isOptional then .ok [method s!"if let Some(value) = &inner.{field}" [add]]
    else .ok (braces (lines [s!"let value = &inner.{field};", add]))
  .ok headers.flatten

/-- The type that writes messages of one input type. -/
def messageWriter (s : Scope) (name docs input : String) (arms : List Step) : List Step :=
  let es := s.eventPath
  unitType name docs
    ++ [block s!"impl {es}::MarshallMessage for {name}"
      [.line s!"type Input = {input};",
        .blank,
        block s!"fn marshall(&self, input: Self::Input) -> ::std::result::Result<{es}::Message, {es}::EventStreamError>"
          [block "match input" arms]]]

/-- The arm that writes an event of a stream, with the code that binds the payload and the code that adds
header fields. -/
def eventWriteArm (s : Scope) (shape : Shape) (member : Member) (payload : List Step) (contentType : String)
    (headers : List Step) : Step :=
  .absorb [block s!"{s.namedType shape.id}::{pascal member.name}(inner) =>"
    (payload
      ++ lines
        [s!"let mut message = {s.eventPath}::Message::new(payload)",
          "    " ++ headerLine s "MESSAGE_TYPE" "event",
          "    " ++ headerLine s "EVENT_TYPE" member.name,
          "    " ++ headerLine s "CONTENT_TYPE" contentType ++ ";"]
      ++ headers
      ++ [.line "Ok(message)"])]

/-- The arm for an event that a client does not know. -/
def unknownWriteArms (s : Scope) (shape : Shape) (events : List Member) : List Step :=
  if s.isServer then []
  else
    [.line s!"{s.namedType shape.id}::{unknownVariant (events.map (·.name))} => Err({s.eventPath}::EventStreamError::marshalling(\"cannot marshall an unknown event\")),"]

/-- The type that writes the events of a stream, with the arms for them. -/
def eventMessageWriter (s : Scope) (shape : Shape) (arms : List Step) : List Step :=
  messageWriter s (typeName shape.id ++ "Marshaller") s!"Writes `{shape.id.name}` events as event-stream messages."
    (s.namedType shape.id) arms

def eventWriting (s : Scope) (shape : Shape) (member : Member) : Generator Step := do
  let target ← Generator.lift (eventStructure s member)
  let (payload, contentType) ← writePayload s target
  let headers ← Generator.lift (writeEventHeaders s target)
  return eventWriteArm s shape member payload contentType headers

def eventWriter (s : Scope) (shape : Shape) : Generator (List Step) := do
  let events ← Generator.lift (s.streamEvents shape)
  let arms ← events.mapM (eventWriting s shape)
  return eventMessageWriter s shape (arms ++ unknownWriteArms s shape events)

/-- The arm that writes an error of a stream, with the code that binds the payload. -/
def errorWriteArm (s : Scope) (shape : Shape) (member : Member) (payload : List Step) : Step :=
  .absorb [block s!"{streamErrorType s shape.id}::{pascal member.name}(inner) =>"
    (payload
      ++ lines
        [s!"Ok({s.eventPath}::Message::new(payload)",
          "    " ++ headerLine s "MESSAGE_TYPE" "exception",
          "    " ++ headerLine s "EXCEPTION_TYPE" member.name,
          "    " ++ headerLine s "CONTENT_TYPE" "application/json" ++ ")"])]

/-- The arm for an error that the stream does not have. -/
def unhandledWriteArm (s : Scope) (shape : Shape) : Step :=
  let es := s.eventPath
  block s!"{streamErrorType s shape.id}::Unhandled(inner) =>"
    (lines
      ["let meta = inner.meta();",
        s!"let mut message = {es}::Message::new(::std::vec::Vec::new())",
        "    " ++ headerLine s "MESSAGE_TYPE" "error",
        s!"    .add_header({es}::Header::new({es}::ERROR_CODE, {es}::HeaderValue::String(meta.code().unwrap_or(\"Unhandled\").to_string())));"]
      ++ [method "if let Some(text) = meta.message()"
          [s!"message = message.add_header({es}::Header::new(\":error-message\", {es}::HeaderValue::String(text.to_string())));"],
        .line "Ok(message)"])

/-- The type that writes the errors of a stream, with the arms for them. -/
def errorMessageWriter (s : Scope) (shape : Shape) (arms : List Step) : List Step :=
  messageWriter s (typeName shape.id ++ "ErrorMarshaller")
    s!"Writes `{shape.id.name}` errors as exception messages." (streamErrorType s shape.id) arms

def errorWriting (s : Scope) (shape : Shape) (member : Member) : Generator Step := do
  let target ← Generator.lift (s.model.target member)
  let function ← writerFunction s target
  return errorWriteArm s shape member [.line ("let payload = " ++ objectBytes s function "&inner" ++ ";")]

def streamErrorWriter (s : Scope) (shape : Shape) : Generator (List Step) := do
  let errors ← Generator.lift (s.streamErrors shape)
  let arms ← errors.mapM (errorWriting s shape)
  return errorMessageWriter s shape (arms ++ [unhandledWriteArm s shape])

/-- The types that read and write the messages of a stream. -/
def streamCode (s : Scope) (shape : Shape) : Generator (List Step) := do
  let reader ← eventReader s shape
  let writer ← eventWriter s shape
  let errors ← streamErrorWriter s shape
  return reader ++ [Step.blank] ++ writer ++ [.blank] ++ errors ++ [.blank, .needs .support, .needs .http]

/-- The module for all event streams of the model. -/
def Scope.eventModule (s : Scope) : Generator (List Step) := do
  let streams ← (s.model.userShapes.filter Shape.isEventStream).mapM (streamCode s)
  return streams.flatten

end WireShapes.Code
