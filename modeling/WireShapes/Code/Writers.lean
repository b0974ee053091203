import WireShapes.Code.Functions
import WireShapes.Code.Union

/-!
Functions that write values as documents.

* `Operand`: the expression of a value that is written
* `writeValue`: the code that writes a value
* `writerFunction`: `ser_x`, which writes a structure or union into an open object and a list or map
  as one value
* `bodyWriter`: `ser_x_body`, which writes only some of the members

Writing never fails.
-/

namespace WireShapes.Code

/-- The expression of a value: a reference to it, or its place. -/
inductive Operand
  | reference (expr : String)
  | place (expr : String)
deriving DecidableEq, Repr

namespace Operand

def asReference : Operand → String
  | reference expr => expr
  | place expr => "&" ++ expr

/-- The value itself, which is copied. -/
def asValue : Operand → String
  | reference expr => "*" ++ expr
  | place expr => expr

/-- What a method is called on. -/
def receiver : Operand → String
  | reference expr => expr
  | place expr => expr

end Operand

/-- How functions for other shapes are requested. -/
abbrev Call := Shape → Generator String

/-- The code that writes a value of the public type of a shape through `writer`. -/
def writeValue (s : Scope) (call : Call) (writer : String) (member : Option Member) (target : Shape)
    (value : Operand) : Generator (List Step) := do
  let newtype := s.hasPublicNewtype target
  let recv := value.receiver
  let through (how : String) : Generator (List Step) := pure [.line s!"{writer}.{how};"]
  match target.kind with
  | .string =>
    let text := if newtype then recv ++ ".as_str()" else value.asReference
    through s!"string({text})"
  | .enum _ => through s!"string({recv}.as_str())"
  | .boolean => through s!"boolean({value.asValue})"
  | .number _ =>
    let number := if newtype then s!"*{recv}.inner()" else value.asValue
    through s!"number({s.rt}::Number::from({number}))"
  | .blob =>
    let blob := if newtype then recv ++ ".inner()" else value.asReference
    through s!"blob({blob})"
  | .timestamp =>
    through s!"date_time({value.asReference}, {s.formatPath (bodyTimeFormat member target)})"
  | .document => through s!"document({value.asReference})"
  | .struct _ | .union _ =>
    let function ← call target
    let object ← Generator.fresh "object"
    return braces (lines
      [s!"let mut {object} = {writer}.start_object();",
        s!"{function}(&mut {object}, {value.asReference});",
        s!"{object}.finish();"])
  | .list _ | .map _ _ =>
    let function ← call target
    return [.line s!"{function}({writer}, {value.asReference});"]
  | .operation _ | .service _ => throw (.unsupported target.id .notWritable)

/-- The code that writes a member of an open object. -/
def writeMember (s : Scope) (call : Call) (member : Member) : Generator (List Step) := do
  let target ← Generator.lift (s.model.target member)
  let writer := s!"object.key({Text.quote member.key})"
  let field := fieldName member
  if member.isOptional then
    let var ← Generator.fresh "var"
    let body ← writeValue s call writer (some member) target (.reference var)
    return [block s!"if let Some({var}) = &input.{field}" body]
  else writeValue s call writer (some member) target (.place s!"input.{field}")

/-- The function that writes members of a structure into an open object. -/
def structureWriter (s : Scope) (call : Call) (name : String) (shape : Shape) (members : List Member) :
    Generator (List Step) := do
  let body ← members.mapM (writeMember s call)
  return [block s!"pub fn {name}(object: &mut {s.rt}::json::JsonObjectWriter<'_>, input: &{s.namedType shape.id})"
    body.flatten]

/-- What a function for a collection goes through. -/
def collectionInput (s : Scope) (shape : Shape) : String :=
  if s.hasPublicNewtype shape then "input.inner()" else "input"

/-- The code that writes an element through `writer`; in a sparse collection it may be null. -/
def writeElement (s : Scope) (call : Call) (shape : Shape) (writer : String) (member : Member)
    (target : Shape) : Generator (List Step) := do
  let body ← writeValue s call writer (some member) target (.reference "item")
  if shape.traits.sparse then
    return [.block "if let Some(item) = item" "\x7d else \x7b" body, .indent,
      .line s!"{writer}.null();", .dedent, .line "\x7d"]
  else return body

def listWriter (s : Scope) (call : Call) (name : String) (shape : Shape) (member : Member) :
    Generator (List Step) := do
  let type ← Generator.lift (s.typeText .exposed shape)
  let target ← Generator.lift (s.model.target member)
  let body ← writeElement s call shape "array.value()" member target
  return [block s!"pub fn {name}(value: {s.rt}::json::JsonValueWriter<'_>, input: &{type})"
    [.line "let mut array = value.start_array();",
      block s!"for item in {collectionInput s shape}" body,
      .line "array.finish();"]]

def mapWriter (s : Scope) (call : Call) (name : String) (shape : Shape) (key value : Member) :
    Generator (List Step) := do
  let type ← Generator.lift (s.typeText .exposed shape)
  let keyTarget ← Generator.lift (s.model.target key)
  let valueTarget ← Generator.lift (s.model.target value)
  let keyExpr ← match keyTarget.kind with
    | .string => pure (if s.hasPublicNewtype keyTarget then "key.as_str()" else "key")
    | .enum _ => pure "key.as_str()"
    | _ => throw (.unsupported shape.id .mapKeys)
  let body ← writeElement s call shape s!"object.key({keyExpr})" value valueTarget
  return [block s!"pub fn {name}(value: {s.rt}::json::JsonValueWriter<'_>, input: &{type})"
    [.line "let mut object = value.start_object();",
      block s!"for (key, item) in {collectionInput s shape}" body,
      .line "object.finish();"]]

def unionWriter (s : Scope) (call : Call) (name : String) (shape : Shape) : Generator (List Step) := do
  let type := s.namedType shape.id
  let variants ← Generator.lift (s.unionVariants shape)
  let unknown := unknownVariant (variants.map (·.name))
  let arms ← variants.mapM fun member => do
    let target ← Generator.lift (s.model.target member)
    let body ← writeValue s call s!"object.key({Text.quote member.key})" (some member) target (.reference "inner")
    return block s!"{type}::{pascal member.name}(inner) =>" body
  let other : List Step := if s.isServer then [] else [.line s!"{type}::{unknown} => \x7b\x7d"]
  return [block s!"pub fn {name}(object: &mut {s.rt}::json::JsonObjectWriter<'_>, input: &{type})"
    [block "match input" (arms ++ other)]]

def writerCode (s : Scope) (call : Call) (name : String) (shape : Shape) : Generator (List Step) :=
  match shape.kind with
  | .struct members => structureWriter s call name shape (s.documentMembers members)
  | .union _ => unionWriter s call name shape
  | .list member => listWriter s call name shape member
  | .map key value => mapWriter s call name shape key value
  | kind => throw (.unsupported shape.id (.writtenInline kind.name))

/-- The function that writes a shape; `depth` bounds how many functions are begun at once. -/
def writerWithin (s : Scope) : Nat → Shape → Generator String
  | 0, shape => throw (.unsupported shape.id .notWritable)
  | depth + 1, shape =>
    let name := "ser_" ++ stem shape.id
    Generator.request shape.id .writer name (writerCode s (writerWithin s depth) name shape)

def writerFunction (s : Scope) (shape : Shape) : Generator String :=
  writerWithin s (s.model.shapes.length + 1) shape

/-- The function that writes the members of a structure that travel in a body. -/
def bodyWriter (s : Scope) (shape : Shape) (members : List Member) : Generator String :=
  let name := s!"ser_{stem shape.id}_body"
  Generator.request shape.id .bodyWriter name (structureWriter s (writerFunction s) name shape members)

/-- An expression that writes a value with a function for objects, and gives the bytes. -/
def objectBytes (s : Scope) (function input : String) : String :=
  s!"\x7b\n    let mut out = ::std::string::String::new();\n    let mut object = {s.rt}::json::JsonObjectWriter::new(&mut out);\n    {s.functionPath function}(&mut object, {input});\n    object.finish();\n    out.into_bytes()\n\x7d"

end WireShapes.Code
