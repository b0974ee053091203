import WireShapes.Code.Http.Parts

/-!
HTTP messages of a server.

* `serverRequest`: `de_x_http_request`, which reads a request into the input of an operation
* `serverResponse`: `ser_x_http_response`, which writes the output
* `serverErrors`: `ser_x_http_error`, which writes one of the errors
-/

namespace WireShapes.Code.Http

open WireShapes.Http (Binding Location bindingTimeFormat errorStatus operationBindings operationHttp
  operationStructure structureBindings)

def readLabels (s : Scope) (bindings : List Binding) : Except ModelError (List Step) := do
  let arms ← bindings.mapM fun b =>
    match b.location with
    | .label _ => do
      let name := b.member.name
      let parse ← parseText s b.target (bindingTimeFormat s.model b.member b.location)
        (.rejection "InvalidLabel" name)
      .ok [s!"{Text.quote name} => builder = builder.{setterName b.member}(Some({parse})),"]
    | _ => .ok []
  if arms.flatten.isEmpty then .ok []
  else
    .ok [block "for (name, raw) in &labels"
      [.line "let raw = raw.as_str();", method "match name.as_str()" (arms.flatten ++ ["_ => \x7b\x7d"])]]

def readQuery (s : Scope) (b : Binding) (key : String) : Except ModelError (List Step) := do
  let format := bindingTimeFormat s.model b.member b.location
  let setter := setterName b.member
  let report : Report := .rejection "InvalidQuery" key
  let literal := Text.quote key
  match ← listItems? s b.target "value" with
  | some (element, _) =>
    let parse ← parseText s element format report
    .ok (readMany ["let values = query", "    .iter()", s!"    .filter(|(key, _)| key == {literal})"] "|(_, raw)|"
      (rejectionType s) parse setter)
  | none =>
    let parse ← parseText s b.target format report
    .ok [method s!"if let Some((_, raw)) = query.iter().find(|(key, _)| key == {literal})"
      ["let raw = raw.as_str();", s!"builder = builder.{setter}(Some({parse}));"]]

def isQuery (b : Binding) : Bool :=
  match b.location with
  | .query _ => true
  | _ => false

def readQueries (s : Scope) (bindings : List Binding) : Except ModelError (List Step) := do
  let reads ← bindings.mapM fun b =>
    match b.location with
    | .query key => readQuery s b key
    | _ => .ok []
  if bindings.any isQuery then
    .ok (.line s!"let query = {httpPath s}::parse_query(request.uri().query().unwrap_or_default())?;"
      :: reads.flatten)
  else .ok []

/-- The function that reads a request into the input of an operation. -/
def serverRequest (s : Scope) (operation : Shape) : Generator Unit := do
  let http := operationHttp operation
  let input ← Generator.lift (operationStructure s.model operation .request)
  let bindings ← Generator.lift (operationBindings s.model operation .request)
  let rejection := rejectionType s
  let labels ← Generator.lift (readLabels s bindings)
  let queries ← Generator.lift (readQueries s bindings)
  let headers ← Generator.lift (readHeaders s bindings "request.headers()" true)
  let body ← readBody s input bindings "request.body()"
  let built :=
    if s.buildIsFallible input then
      ["builder", "    .build()",
        s!"    .map_err(|err| {rejection}::ConstraintViolation(::std::boxed::Box::new(err)))"]
    else ["Ok(builder.build())"]
  let name := s!"de_{stem operation.id}_http_request"
  Generator.emit operation.id .message name
    [.line s!"/// Reads an HTTP request into the input of `{operation.id.name}`.",
      block s!"pub fn {name}(request: &::http::Request<::std::vec::Vec<u8>>) -> ::std::result::Result<{s.namedType input.id}, {rejection}>"
        ([block s!"if request.method().as_str() != {Text.quote http.method}"
            [.block s!"return Err({rejection}::MethodMismatch" "\x7d);"
              (lines [s!"expected: {Text.quote http.method},", "found: request.method().to_string(),"])]]
          ++ lines
            [s!"let labels = {httpPath s}::match_uri_template({Text.quote http.uri}, request.uri().path())",
              s!"    .ok_or_else(|| {rejection}::UriMismatch(request.uri().path().to_string()))?;",
              "#[allow(unused_mut)]",
              s!"let mut builder = {s.shapeModule input.id}::Builder::default();"]
          ++ labels ++ queries ++ headers ++ body ++ lines built)]

/-- Writes the status of a member that chooses it. -/
def writeStatus (s : Scope) (input : String) (b : Binding) : List Step :=
  if b.location = .responseCode then
    let value := if s.hasPublicNewtype b.target then "*value.inner()" else "*value"
    withMember b.member input
      [method s!"if let Ok(status) = u16::try_from({value})" ["builder = builder.status(status);"]]
  else []

def writeResponse (s : Scope) (container : Shape) (bindings : List Binding) (input : String) :
    Generator (List Step) := do
  let headers ← Generator.lift (writeHeaders s bindings input)
  let body ← writeBody s container bindings input
  return bindings.flatMap (writeStatus s input) ++ headers ++ body ++ [.line "Ok(builder.body(body)?)"]

/-- What a function that writes a response gives. -/
def responseResult (s : Scope) : String :=
  s!"::std::result::Result<::http::Response<::std::vec::Vec<u8>>, {httpPath s}::SerializationError>"

/-- The function that writes the output of an operation. -/
def serverResponse (s : Scope) (operation : Shape) : Generator Unit := do
  let http := operationHttp operation
  let output ← Generator.lift (operationStructure s.model operation .response)
  let bindings ← Generator.lift (operationBindings s.model operation .response)
  let writing ← writeResponse s output bindings "output"
  let name := s!"ser_{stem operation.id}_http_response"
  Generator.emit operation.id .message name
    [.line s!"/// Renders the output of `{operation.id.name}` as an HTTP response.",
      block s!"pub fn {name}(output: &{s.namedType output.id}) -> {responseResult s}"
        (.line s!"let mut builder = ::http::Response::builder().status({http.code}u16);" :: writing)]

/-- The function that writes an error structure; without members for it the body is an empty object. -/
def serverError (s : Scope) (error : Shape) : Generator String := do
  let name := s!"ser_{stem error.id}_http_error"
  let name ← Generator.request error.id .message name do
    let bindings ← Generator.lift (structureBindings s.model error .response)
    let writing ←
      if bindings.any fun b => b.isDocument || b.isPayload then writeResponse s error bindings "error"
      else do
        let headers ← Generator.lift (writeHeaders s bindings "error")
        pure (headers ++ [contentType "application/json", .line "Ok(builder.body(b\"\x7b\x7d\".to_vec())?)"])
    return [block s!"pub fn {name}(error: &{s.namedType error.id}) -> {responseResult s}"
      (lines
        ["let mut builder = ::http::Response::builder()",
          s!"    .status({errorStatus error}u16)",
          s!"    .header({httpPath s}::ERROR_TYPE_HEADER, {Text.quote error.id.name});"]
        ++ writing)]
  return s!"{s.root}::http_serde::{name}"

/-- The function that writes one of the errors of an operation. -/
def serverErrors (s : Scope) (operation : Shape) : Generator Unit := do
  let errors ← match operation.kind with
    | .operation op => pure op.errors
    | _ => throw (.unsupported operation.id .notOperation)
  let error := s!"{s.root}::error::{typeName operation.id}Error"
  let arms ← errors.mapM fun id => do
    let shape ← Generator.lift (s.model.expect id)
    let function ← serverError s shape
    return s!"{error}::{typeName id}(inner) => {function}(inner),"
  let name := s!"ser_{stem operation.id}_http_error"
  Generator.emit operation.id .message name
    [.line s!"/// Renders a modeled error of `{operation.id.name}` as an HTTP response.",
      block s!"pub fn {name}(error: &{error}) -> {responseResult s}"
        (if arms.isEmpty then [.line "match *error \x7b\x7d"] else [method "match error" arms])]

end WireShapes.Code.Http
