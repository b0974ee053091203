import WireShapes.Code.Default
import WireShapes.Code.Readers
import WireShapes.Code.Writers

/-!
Parts of HTTP messages in generated code.

* `valueText`, `parseText`: a simple value as text, and back
* `writeHeaders`, `writeBody`: members into headers and body
* `readHeaders`, `readBody`: and back
-/

namespace WireShapes.Code.Http

open WireShapes.Http (Binding Location bindingTimeFormat)

/-- The path of what the support library has for HTTP. -/
def httpPath (s : Scope) : String := s.rt ++ "::http_binding"

/-- The type of what makes a request be refused. -/
def rejectionType (s : Scope) : String := httpPath s ++ "::RequestRejection"

/-! ### Values -/

/-- The text of a simple value that is held by reference. -/
def valueText (s : Scope) (target : Shape) (format : TimeFormat) (value : String) : Except ModelError String :=
  match target.kind with
  | .string | .enum _ => .ok s!"{value}.as_str().to_string()"
  | .boolean => .ok s!"{value}.to_string()"
  | .number _ =>
    if s.hasPublicNewtype target then .ok s!"{value}.inner().to_string()" else .ok s!"{value}.to_string()"
  | .timestamp => .ok s!"{value}.fmt({s.formatPath format})"
  | kind => .error (.unsupported target.id (.outsideBody kind.name))

/-- How a value that cannot be parsed is reported. -/
inductive Report
  /-- A server refuses the request, by a variant and the name of the value. -/
  | rejection (variant name : String)
  /-- A client hands the reason on. -/
  | reason

/-- The error of a reason. -/
def Report.expr (s : Scope) (reason : String) : Report → String
  | rejection variant name =>
    s!"{rejectionType s}::{variant} \x7b name: {Text.quote name}, reason: {reason} \x7d"
  | .reason => reason

/-- The expression that parses a text into a simple value before validation. -/
def parseText (s : Scope) (target : Shape) (format : TimeFormat) (report : Report) : Except ModelError String :=
  let orReport := ".map_err(|err| " ++ report.expr s "err.to_string()" ++ ")?"
  match target.kind with
  | .string => .ok "raw.to_string()"
  | .enum _ => if s.isServer then .ok "raw.to_string()" else .ok s!"{s.namedType target.id}::from(raw)"
  | .boolean => .ok s!"raw.parse::<bool>(){orReport}"
  | .number kind =>
    match kind.typeName? with
    | some primitive => .ok s!"raw.parse::<{primitive}>(){orReport}"
    | none => .error (.unsupported target.id .precision)
  | .timestamp => .ok s!"{s.rt}::DateTime::from_str(raw, {s.formatPath format}){orReport}"
  | kind => .error (.unsupported target.id (.outsideBody kind.name))

/-- The element of a list, and the expression that goes through its values. -/
def listItems? (s : Scope) (list : Shape) (value : String) : Except ModelError (Option (Shape × String)) :=
  match list.kind with
  | .list member => do
    let element ← s.model.target member
    let inner := if s.hasPublicNewtype list then s!"{value}.inner()" else value
    let flatten := if list.traits.sparse then ".flatten()" else ""
    .ok (some (element, s!"{inner}.iter(){flatten}"))
  | _ => .ok none

/-- Does something with the value of a member, if there is one. -/
def withMember (member : Member) (input : String) (body : List Step) : List Step :=
  let field := fieldName member
  if member.isOptional then [block s!"if let Some(value) = &{input}.{field}" body]
  else braces (.line s!"let value = &{input}.{field};" :: body)

/-- Dates of the format hold a comma themselves. -/
def isHttpDate (element : Shape) (format : TimeFormat) : Bool :=
  match element.kind with
  | .timestamp => format == .httpDate
  | _ => false

/-! ### Writing -/

/-- Writes a member into its header; an empty text is left out. -/
def writeHeader (s : Scope) (input : String) (b : Binding) (name : String) : Except ModelError (List Step) := do
  let format := bindingTimeFormat s.model b.member b.location
  let literal := Text.quote name
  let text ← match ← listItems? s b.target "value" with
    | some (element, items) => do
      let item ← valueText s element format "item"
      let quoted :=
        if isHttpDate element format then item
        else s!"{httpPath s}::quote_header_value(&{item}).into_owned()"
      pure s!"{items}\n    .map(|item| {quoted})\n    .collect::<::std::vec::Vec<_>>()\n    .join(\", \")"
    | none => valueText s b.target format "value"
  .ok (withMember b.member input
    [.line s!"let text = {text};",
      method "if !text.is_empty()"
        [s!"builder = builder.header({literal}, {httpPath s}::header_value({literal}, &text)?);"]])

def writeHeaders (s : Scope) (bindings : List Binding) (input : String) : Except ModelError (List Step) := do
  let headers ← bindings.mapM fun b =>
    match b.location with
    | .header name => writeHeader s input b name
    | _ => .ok []
  .ok headers.flatten

def contentType (value : String) : Step := .line s!"builder = builder.header(\"content-type\", {Text.quote value});"

/-- The members of the object in the body. -/
def bodyMembers (bindings : List Binding) : List Member :=
  (bindings.filter Binding.isDocument).map (·.member)

/-- The bytes of a value that is the whole body, and their content type. -/
def payloadBytes (s : Scope) (target : Shape) : Generator (String × String) := do
  match target.kind with
  | .blob =>
    let inner := if s.hasPublicNewtype target then "value.inner()" else "value"
    return (inner ++ ".clone().into_inner()", "application/octet-stream")
  | .string => return ("value.as_str().as_bytes().to_vec()", "text/plain")
  | .document =>
    return (s!"\x7b\n    let mut out = ::std::string::String::new();\n    {s.rt}::json::JsonValueWriter::new(&mut out).document(value);\n    out.into_bytes()\n\x7d",
      "application/json")
  | _ =>
    let function ← writerFunction s target
    return (objectBytes s function "value", "application/json")

def writeBody (s : Scope) (container : Shape) (bindings : List Binding) (input : String) :
    Generator (List Step) := do
  let empty : Step := .line "let body = ::std::vec::Vec::new();"
  match bindings.find? Binding.isPayload with
  | some payload =>
    if payload.target.isEventStream then
      return [empty, contentType "application/vnd.amazon.eventstream"]
    let (bytes, kind) ← payloadBytes s payload.target
    let field := fieldName payload.member
    if payload.member.isOptional then
      return [.block s!"let body = match &{input}.{field}" "\x7d;"
        [block "Some(value) =>" [contentType kind, .code bytes], .line "None => ::std::vec::Vec::new(),"]]
    else
      return [.line s!"let value = &{input}.{field};", contentType kind, .line s!"let body = {bytes};"]
  | none =>
    let members := bodyMembers bindings
    if members.isEmpty then return [empty]
    let function ← bodyWriter s container members
    return [contentType "application/json", .line s!"let body = {objectBytes s function input};"]

/-! ### Reading -/

/-- Parses all texts that `source` gives, and keeps them if there are any. -/
def readMany (source : List String) (each error parse setter : String) : List Step :=
  lines (source
    ++ [s!"    .map({each} -> ::std::result::Result<_, {error}> \x7b",
      "        let raw = raw.as_str();",
      s!"        Ok({parse})",
      "    \x7d)",
      "    .collect::<::std::result::Result<::std::vec::Vec<_>, _>>()?;"])
    ++ [method "if !values.is_empty()" [s!"builder = builder.{setter}(Some(values));"]]

def readHeader (s : Scope) (headers : String) (server : Bool) (b : Binding) (name : String) :
    Except ModelError (List Step) := do
  let format := bindingTimeFormat s.model b.member b.location
  let report : Report := if server then .rejection "InvalidHeader" name else .reason
  let setter := setterName b.member
  let literal := Text.quote name
  match ← listItems? s b.target "value" with
  | some (element, _) =>
    let helper := if isHttpDate element format then "many_http_dates" else "many_headers"
    let parse ← parseText s element format report
    let error := if server then rejectionType s else s.rt ++ "::error::BoxError"
    .ok (readMany [s!"let values = {httpPath s}::{helper}({headers}, {literal})?", "    .iter()"] "|raw|"
      error parse setter)
  | none =>
    let parse ← parseText s b.target format report
    .ok [method s!"if let Some(raw) = {httpPath s}::one_header({headers}, {literal})?"
      [s!"builder = builder.{setter}(Some({parse}));"]]

def readHeaders (s : Scope) (bindings : List Binding) (headers : String) (server : Bool) :
    Except ModelError (List Step) := do
  let reads ← bindings.mapM fun b =>
    match b.location with
    | .header name => readHeader s headers server b name
    | _ => .ok []
  .ok reads.flatten

def readBody (s : Scope) (container : Shape) (bindings : List Binding) (body : String) :
    Generator (List Step) := do
  match bindings.find? Binding.isPayload with
  | some payload =>
    let target := payload.target
    let setter := setterName payload.member
    if target.isEventStream then
      return [.line s!"builder = builder.{setter}(Some({s.rt}::event_stream::Receiver::new({s.root}::event_stream_serde::{typeName target.id}Unmarshaller::new())));"]
    let read ← match target.kind with
      | .blob => pure s!"Some({s.rt}::Blob::new({body}.clone()))"
      | .string =>
        pure s!"Some(::std::string::String::from_utf8({body}.clone()).map_err(|err| {s.rt}::json::DeserializeError::custom_source(\"payload is not valid UTF-8\", err))?)"
      | .document =>
        pure s!"Some({s.tokenPath}::expect_document(&mut {s.rt}::json::json_token_iter({body}).peekable())?)"
      | _ => do
        let function ← documentReader s target
        pure s!"{s.functionPath function}({body})?"
    return [method s!"if !{body}.is_empty()" [s!"builder = builder.{setter}({read});"]]
  | none =>
    let members := bodyMembers bindings
    if members.isEmpty then return []
    let function ← bodyReader s container members
    return [.line s!"builder = {s.functionPath function}({body}, builder)?;"]

end WireShapes.Code.Http
