import WireShapes.Code.Functions
import WireShapes.Code.Union

/-!
Functions that read values from documents.

* `readValue`: the expression that reads a value
* `readerFunction`: `de_x`, which reads a structure, union, list or map before validation, or null
* `documentReader`: `de_x_document`, which reads a text that holds nothing else
* `bodyReader`: `de_x_body`, which reads some of the members into a builder

A key that is not known is skipped with its value.
-/

namespace WireShapes.Code

/-- The path of the readers of single tokens. -/
def Scope.tokenPath (s : Scope) : String := s.rt ++ "::json::token"

/-- The arms for a token that is not expected, and for the end. -/
def unexpectedArms (s : Scope) (expected : String) : List Step :=
  lines
    [s!"Some(other) => return Err({s.rt}::json::DeserializeError::custom(::std::format!(\"expected {expected}, found \x7b\x7d\", other.describe())).with_offset(other.offset().0)),",
      s!"None => return Err({s.rt}::json::DeserializeError::unexpected_eos()),"]

/-- Nothing may follow. -/
def trailingCheck (s : Scope) : Step :=
  method "if tokens.next().is_some()"
    [s!"return Err({s.rt}::json::DeserializeError::custom(\"found more JSON tokens after completing parsing\"));"]

/-- The signature of a function that reads from tokens. -/
def readerSignature (s : Scope) (name output : String) : String :=
  s!"pub fn {name}<'a, I>(tokens: &mut ::std::iter::Peekable<I>) -> ::std::result::Result<::std::option::Option<{output}>, {s.rt}::json::DeserializeError>\nwhere\n    I: ::std::iter::Iterator<Item = ::std::result::Result<{s.rt}::json::Token<'a>, {s.rt}::json::DeserializeError>>,"

/-- How functions for other shapes are requested. -/
abbrev ReadCall := Shape → Generator String

/-- The expression that reads a value of a shape before validation, or null. -/
def readValue (s : Scope) (call : ReadCall) (member : Option Member) (target : Shape) : Generator String := do
  let token := s.tokenPath
  match target.kind with
  | .string => return s!"{token}::expect_owned_string_or_null(tokens.next())?"
  | .enum _ =>
    if s.isServer then return s!"{token}::expect_owned_string_or_null(tokens.next())?"
    else
      return s!"{token}::expect_string_or_null(tokens.next())?\n    .map(|value| value.to_unescaped().map(|text| {s.namedType target.id}::from(text.as_ref())))\n    .transpose()?"
  | .boolean => return s!"{token}::expect_bool_or_null(tokens.next())?"
  | .number kind =>
    match kind.typeName? with
    | some primitive =>
      return s!"{token}::expect_number_or_null(tokens.next())?\n    .map({primitive}::try_from)\n    .transpose()\n    .map_err(|err| {s.rt}::json::DeserializeError::custom_source(\"expected {primitive}\", err))?"
    | none => throw (.unsupported target.id .precision)
  | .blob => return s!"{token}::expect_blob_or_null(tokens.next())?"
  | .timestamp =>
    return s!"{token}::expect_timestamp_or_null(tokens.next(), {s.formatPath (bodyTimeFormat member target)})?"
  | .document => return s!"Some({token}::expect_document(tokens)?)"
  | .struct _ | .union _ | .list _ | .map _ _ =>
    let function ← call target
    return s!"{function}(tokens)?"
  | .operation _ | .service _ => throw (.unsupported target.id .notReadable)

/-- Goes through the keys of an open object. -/
def keyLoop (s : Scope) (close : String) (onKey : List Step) : Step :=
  block "loop"
    [block "match tokens.next().transpose()?"
      ([.line s!"Some({s.rt}::json::Token::EndObject \x7b .. \x7d) => break,",
        .block s!"Some({s.rt}::json::Token::ObjectKey \x7b key, .. \x7d) =>" close onKey]
        ++ unexpectedArms s "object key or end of object")]

/-- Reads the members of an open object into the builder. -/
def memberLoop (s : Scope) (call : ReadCall) (members : List Member) : Generator Step := do
  let arms ← members.mapM fun member => do
    let target ← Generator.lift (s.model.target member)
    let read ← readValue s call (some member) target
    return method s!"{Text.quote member.key} =>" [s!"builder = builder.{setterName member}({read});"]
  let skip : Step := .line s!"_ => {s.tokenPath}::skip_value(tokens)?,"
  return keyLoop s "\x7d," [block "match key.to_unescaped()?.as_ref()" (arms ++ [skip])]

/-- Reads null, or a container that `opening` opens. -/
def openContainer (s : Scope) (opening expected : String) (body : List Step) : Step :=
  block "match tokens.next().transpose()?"
    ([.line s!"Some({s.rt}::json::Token::ValueNull \x7b .. \x7d) => Ok(None),",
      block s!"Some({s.rt}::json::Token::{opening} \x7b .. \x7d) =>" body]
      ++ unexpectedArms s expected)

/-- What becomes of the builder when all members are read. -/
def finishedBuilder (s : Scope) (shape : Shape) : String :=
  if s.isServer && s.isConstrained shape.id then "builder"
  else if s.buildIsFallible shape then
    s!"builder\n    .build()\n    .map_err(|err| {s.rt}::json::DeserializeError::custom_source(\"invalid `{shape.id.name}`\", err))?"
  else "builder.build()"

def structureReader (s : Scope) (call : ReadCall) (name : String) (shape : Shape) (members : List Member) :
    Generator (List Step) := do
  let output ← Generator.lift (s.typeText .raw shape)
  let loop ← memberLoop s call members
  return [block (readerSignature s name output)
    [openContainer s "StartObject" "start of object or null"
      [.line "#[allow(unused_mut)]",
        .line s!"let mut builder = {s.shapeModule shape.id}::Builder::default();",
        loop,
        .line s!"Ok(Some({finishedBuilder s shape}))"]]]

/-- Keeps a value that was read; in a dense collection null is an error on a server and dropped on a
client. -/
def keepValue (s : Scope) (shape : Shape) (keep arm kind : String) : List Step :=
  if shape.traits.sparse then [.line keep]
  else if s.isServer then
    [method "match value"
      [s!"Some(value) => {arm}",
        s!"None => return Err({s.rt}::json::DeserializeError::custom(\"dense {kind} cannot contain null values\")),"]]
  else [method "if let Some(value) = value" [keep]]

def listReader (s : Scope) (call : ReadCall) (name : String) (shape : Shape) (member : Member) :
    Generator (List Step) := do
  let output ← Generator.lift (s.typeText .raw shape)
  let target ← Generator.lift (s.model.target member)
  let read ← readValue s call (some member) target
  return [block (readerSignature s name output)
    [openContainer s "StartArray" "start of array or null"
      [.line "let mut items = ::std::vec::Vec::new();",
        block "loop"
          [block "match tokens.peek()"
            [method s!"Some(Ok({s.rt}::json::Token::EndArray \x7b .. \x7d)) =>"
                ["tokens.next().transpose()?;", "break;"],
              block "_ =>"
                (.line s!"let value = {read};"
                  :: keepValue s shape "items.push(value);" "items.push(value)," "list")]],
        .line "Ok(Some(items))"]]]

def mapReader (s : Scope) (call : ReadCall) (name : String) (shape : Shape) (key value : Member) :
    Generator (List Step) := do
  let output ← Generator.lift (s.typeText .raw shape)
  let keyTarget ← Generator.lift (s.model.target key)
  let owned := "key.to_unescaped()?.into_owned()"
  let keyExpr ← match keyTarget.kind with
    | .string => pure owned
    | .enum _ =>
      pure (if s.isServer then owned
        else s!"{s.namedType keyTarget.id}::from(key.to_unescaped()?.as_ref())")
    | _ => throw (.unsupported shape.id .mapKeys)
  let target ← Generator.lift (s.model.target value)
  let read ← readValue s call (some value) target
  return [block (readerSignature s name output)
    [openContainer s "StartObject" "start of object or null"
      [.line "let mut map = ::std::collections::HashMap::new();",
        keyLoop s "\x7d"
          (lines [s!"let key = {keyExpr};", s!"let value = {read};"]
            ++ keepValue s shape "map.insert(key, value);" "\x7b map.insert(key, value); \x7d" "map"),
        .line "Ok(Some(map))"]]]

def variantArm (s : Scope) (output : String) (member : Member) (read : String) : Step :=
  let wrapped := if member.traits.boxed then "::std::boxed::Box::new(value)" else "value"
  method s!"{Text.quote member.key} =>"
    [s!"let value = {read}",
      s!"    .ok_or_else(|| {s.rt}::json::DeserializeError::custom(\"value for `{member.name}` cannot be null\"))?;",
      s!"Some({output}::{pascal member.name}({wrapped}))"]

def unionReader (s : Scope) (call : ReadCall) (name : String) (shape : Shape) : Generator (List Step) := do
  let output ← Generator.lift (s.typeText .raw shape)
  let variants ← Generator.lift (s.unionVariants shape)
  let unknown := unknownVariant (variants.map (·.name))
  let known := " | ".intercalate (variants.map fun member => Text.quote member.key)
  let arms ← variants.mapM fun member => do
    let target ← Generator.lift (s.model.target member)
    return variantArm s output member (← readValue s call (some member) target)
  let mixed : List Step :=
    if variants.isEmpty then []
    else
      [method s!"if variant.is_some() && matches!(key.as_ref(), {known})"
        [s!"return Err({s.rt}::json::DeserializeError::custom(\"encountered mixed variants in union\"));"]]
  let onKey : List Step :=
    [method s!"if let Some(Ok({s.rt}::json::Token::ValueNull \x7b .. \x7d)) = tokens.peek()"
        ["tokens.next().transpose()?;", "continue;"],
      .line "let key = key.to_unescaped()?;"]
      ++ mixed
      ++ [.block "variant = match key.as_ref()" "\x7d;"
        (arms ++ [method "_ =>" [s!"{s.tokenPath}::skip_value(tokens)?;", "variant"]])]
  let finish : Step :=
    if s.isServer then
      method "match variant"
        ["Some(variant) => Ok(Some(variant)),",
          s!"None => Err({s.rt}::json::DeserializeError::custom(\"union did not contain a valid variant\")),"]
    else .line s!"Ok(Some(variant.unwrap_or({output}::{unknown})))"
  return [block (readerSignature s name output)
    [openContainer s "StartObject" "start of object or null"
      [.line "let mut variant = None;", keyLoop s "\x7d" onKey, finish]]]

def readerCode (s : Scope) (call : ReadCall) (name : String) (shape : Shape) : Generator (List Step) :=
  match shape.kind with
  | .struct members => structureReader s call name shape (s.documentMembers members)
  | .union _ => unionReader s call name shape
  | .list member => listReader s call name shape member
  | .map key value => mapReader s call name shape key value
  | kind => throw (.unsupported shape.id (.readInline kind.name))

/-- The function that reads a shape; `depth` bounds how many functions are begun at once. -/
def readerWithin (s : Scope) : Nat → Shape → Generator String
  | 0, shape => throw (.unsupported shape.id .notReadable)
  | depth + 1, shape =>
    let name := "de_" ++ stem shape.id
    Generator.request shape.id .reader name (readerCode s (readerWithin s depth) name shape)

def readerFunction (s : Scope) (shape : Shape) : Generator String :=
  readerWithin s (s.model.shapes.length + 1) shape

/-- How a text becomes tokens; an empty text stands for `empty`. -/
def openTokens (s : Scope) (empty : String) : List Step :=
  lines
    [s!"let value: &[u8] = if value.is_empty() \x7b {empty} \x7d else \x7b value \x7d;",
      s!"let mut tokens_owned = {s.rt}::json::json_token_iter(value).peekable();",
      "let tokens = &mut tokens_owned;"]

/-- The code of the function that reads a text which holds a document of the shape and nothing else. -/
def documentCode (s : Scope) (call : ReadCall) (name : String) (shape : Shape) : Generator (List Step) := do
  let inner ← call shape
  let output ← Generator.lift (s.typeText .raw shape)
  let empty := if shape.isStruct then "b\"\x7b\x7d\"" else "b\"null\""
  return [block s!"pub fn {name}(value: &[u8]) -> ::std::result::Result<::std::option::Option<{output}>, {s.rt}::json::DeserializeError>"
    (openTokens s empty
      ++ [.line s!"let result = {inner}(tokens)?;", trailingCheck s, .line "Ok(result)"])]

/-- The function that reads a text which holds a document of the shape and nothing else. -/
def documentReader (s : Scope) (shape : Shape) : Generator String :=
  let name := s!"de_{stem shape.id}_document"
  Generator.request shape.id .textReader name (documentCode s (readerFunction s) name shape)

/-- The function that reads the members of a structure that travel in a body. -/
def bodyReader (s : Scope) (shape : Shape) (members : List Member) : Generator String :=
  let name := s!"de_{stem shape.id}_body"
  Generator.request shape.id .bodyReader name do
    let builder := s.shapeModule shape.id ++ "::Builder"
    let loop ← memberLoop s (readerFunction s) members
    return [block s!"pub fn {name}(value: &[u8], mut builder: {builder}) -> ::std::result::Result<{builder}, {s.rt}::json::DeserializeError>"
      (openTokens s "b\"\x7b\x7d\""
        ++ [.line s!"{s.tokenPath}::expect_start_object(tokens.next())?;",
          loop,
          trailingCheck s,
          .line "Ok(builder)"])]

end WireShapes.Code
