import WireShapes.Code.Http.Parts

/-!
HTTP messages of a client.

* `clientRequest`: `ser_x_http_request`, which writes the input of an operation as a request
* `clientResponse`: `de_x_http_response`, which reads the output, or one of the errors
-/

namespace WireShapes.Code.Http

open WireShapes.Http (Binding Location UriPiece bindingTimeFormat operationBindings operationHttp
  operationStructure structureBindings uriPieces)

def writePiece (s : Scope) (operation : Shape) (bindings : List Binding) :
    UriPiece → Except ModelError (List Step)
  | .literal text => .ok [.line s!"uri.push_str({Text.quote text});"]
  | .label name greedy =>
    match bindings.find? fun b => b.member.name = name with
    | none => .error (.invalidTrait operation.id "smithy.api#http" (.missingLabel name))
    | some b => do
      let text ← valueText s b.target (bindingTimeFormat s.model b.member b.location) "value"
      .ok (withMember b.member "input"
        [.line s!"let encoded = {httpPath s}::fmt_label(&{text}, {boolLiteral greedy});",
          method "if encoded.is_empty()"
            [s!"return Err({httpPath s}::SerializationError::EmptyLabel({Text.quote name}));"],
          .line "uri.push_str(&encoded);"])

def writeQuery (s : Scope) (b : Binding) (key : String) : Except ModelError (List Step) := do
  let format := bindingTimeFormat s.model b.member b.location
  let literal := Text.quote key
  let insert ← match ← listItems? s b.target "value" with
    | some (element, items) => do
      let text ← valueText s element format "item"
      pure s!"for item in {items} \x7b\n    query.insert({literal}, &{text});\n\x7d"
    | none => do
      let text ← valueText s b.target format "value"
      pure s!"query.insert({literal}, &{text});"
  .ok (withMember b.member "input" [.code insert])

def writeQueries (s : Scope) (bindings : List Binding) : Except ModelError (List Step) := do
  let queries ← bindings.mapM fun b =>
    match b.location with
    | .query key => writeQuery s b key
    | _ => .ok []
  .ok queries.flatten

/-- The function that writes the input of an operation as a request. -/
def clientRequest (s : Scope) (operation : Shape) : Generator Unit := do
  let http := operationHttp operation
  let input ← Generator.lift (operationStructure s.model operation .request)
  let bindings ← Generator.lift (operationBindings s.model operation .request)
  let pieces ← Generator.lift ((uriPieces http.uri).mapM (writePiece s operation bindings))
  let queries ← Generator.lift (writeQueries s bindings)
  let headers ← Generator.lift (writeHeaders s bindings "input")
  let body ← writeBody s input bindings "input"
  let name := s!"ser_{stem operation.id}_http_request"
  Generator.emit operation.id .message name
    [.line s!"/// Renders `{operation.id.name}` as an HTTP request.",
      block s!"pub fn {name}(input: &{s.namedType input.id}) -> ::std::result::Result<::http::Request<::std::vec::Vec<u8>>, {httpPath s}::SerializationError>"
        ([.line "let mut uri = ::std::string::String::new();"]
          ++ pieces.flatten
          ++ [.line s!"let mut query = {httpPath s}::QueryWriter::new(uri);"]
          ++ queries
          ++ [.line s!"let mut builder = ::http::Request::builder().method({Text.quote http.method}).uri(query.build_uri());"]
          ++ headers ++ body ++ [.line "Ok(builder.body(body)?)"])]

def readResponse (s : Scope) (container : Shape) (bindings : List Binding) : Generator (List Step) := do
  let headers ← Generator.lift (readHeaders s bindings "response.headers()" false)
  let codes := (bindings.filter fun b => b.location = .responseCode).map fun b =>
    Step.line s!"builder = builder.{setterName b.member}(Some(i32::from(response.status().as_u16())));"
  let body ← readBody s container bindings "response.body()"
  let built := if s.buildIsFallible container then "Ok(builder.build()?)" else "Ok(builder.build())"
  return lines ["#[allow(unused_mut)]", s!"let mut builder = {s.shapeModule container.id}::Builder::default();"]
    ++ headers ++ codes ++ body ++ [.line built]

def responseType : String := "&::http::Response<::std::vec::Vec<u8>>"

/-- The function that reads an error structure from a response. -/
def clientError (s : Scope) (error : Shape) : Generator String := do
  let name := s!"de_{stem error.id}_http_error"
  let name ← Generator.request error.id .message name do
    let bindings ← Generator.lift (structureBindings s.model error .response)
    let body ← readResponse s error bindings
    return [block s!"pub fn {name}(response: {responseType}) -> ::std::result::Result<{s.namedType error.id}, {s.rt}::error::BoxError>"
      body]
  return s!"{s.root}::http_serde::{name}"

/-- The functions that read the response of an operation. -/
def clientResponse (s : Scope) (operation : Shape) : Generator Unit := do
  let output ← Generator.lift (operationStructure s.model operation .response)
  let bindings ← Generator.lift (operationBindings s.model operation .response)
  let stem := stem operation.id
  let type := s.namedType output.id
  let error := s!"{s.root}::error::{typeName operation.id}Error"
  let whole := s!"de_{stem}_http_response"
  let parts := s!"de_{stem}_http_response_parts"
  let dispatch := s!"de_{stem}_http_error"
  let reading ← readResponse s output bindings
  let errors ← match operation.kind with
    | .operation op => pure op.errors
    | _ => throw (.unsupported operation.id .notOperation)
  let arms ← errors.mapM fun id => do
    let shape ← Generator.lift (s.model.expect id)
    let function ← clientError s shape
    return Step.code s!"Some({Text.quote id.name}) => match {function}(response) \x7b\n    Ok(value) => {error}::{typeName id}(value),\n    Err(err) => {error}::unhandled(err),\n\x7d,"
  Generator.emit operation.id .message whole
    [.line s!"/// Reads the response of `{operation.id.name}`, dispatching error statuses to [`{dispatch}`].",
      block s!"pub fn {whole}(response: {responseType}) -> ::std::result::Result<{type}, {error}>"
        [method "if !response.status().is_success()" [s!"return Err({dispatch}(response));"],
          .line s!"{parts}(response).map_err({error}::unhandled)"],
      .blank,
      block s!"fn {parts}(response: {responseType}) -> ::std::result::Result<{type}, {s.rt}::error::BoxError>"
        reading,
      .blank,
      block s!"pub fn {dispatch}(response: {responseType}) -> {error}"
        [.block s!"let meta = match {s.rt}::json::errors::parse_error_metadata(response.body(), response.headers())" "\x7d;"
            (lines ["Ok(meta) => meta,", s!"Err(err) => return {error}::unhandled(err),"]),
          block "match meta.code()" (arms ++ [.line s!"_ => {error}::generic(meta),"])]]

end WireShapes.Code.Http
