import WireShapes.Code.Builder
import WireShapes.Code.Enumeration
import WireShapes.Code.Newtype
import WireShapes.Code.Union

/-!
Types of shapes and of the errors of operations.

* `Scope.structureType`: a structure; an error structure is also shown as its name and message
* `Scope.shapeItems`: all that the module of shapes holds for a shape
* `Scope.errorModule`: an enumeration of errors per operation and per event stream
-/

namespace WireShapes.Code

/-- The member that an error structure shows as its message. -/
def messageMember? (s : Scope) (members : List Member) : Option Member :=
  match members.find? fun m => m.name.toList.map Char.toLower = "message".toList with
  | some member =>
    match s.model.get? member.target with
    | some ⟨_, .string, _⟩ => some member
    | _ => none
  | none => none

/-- How an error structure is shown. -/
def errorStructure (s : Scope) (shape : Shape) (members : List Member) : List Step :=
  let name := typeName shape.id
  let message : List Step := match messageMember? s members with
    | some member =>
      let field := fieldName member
      if member.isOptional then
        [method s!"if let Some(message) = &self.{field}" ["write!(f, \": \x7b\x7d\", message)?;"]]
      else [.line s!"write!(f, \": \x7b\x7d\", self.{field})?;"]
    | none => []
  [displayImpl name ([.line s!"f.write_str({Text.quote name})?;"] ++ message ++ [.line "Ok(())"]),
    .blank,
    errorImpl name,
    .blank]

def Scope.structureType (s : Scope) (shape : Shape) (members : List Member) :
    Except ModelError (List Step) := do
  let fields ← members.mapM fun member => do
    let type ←
      if s.isStreamMember member then s.streamType shape.id member
      else (s.memberType .exposed member).map TypeRef.render
    .ok [Step.docs member.traits.documentation, .line s!"pub {fieldName member}: {type},"]
  let derives := if members.any s.isStreamMember then "Debug" else "Debug, Clone, PartialEq"
  .ok ([.docs shape.traits.documentation,
      .line s!"#[derive({derives})]",
      block s!"pub struct {typeName shape.id}" fields.flatten,
      .blank]
    ++ (if shape.isError then errorStructure s shape members else []))

/-- All that the module of shapes holds for a shape. -/
def Scope.shapeItems (s : Scope) (shape : Shape) : Except ModelError ShapeItems :=
  match shape.kind with
  | .struct members => do
    let type ← s.structureType shape members
    let builder ← s.builder shape
    .ok (ShapeItems.append ⟨type, []⟩ builder)
  | .union _ => do
    let type ← s.union shape
    if s.isServer && s.isConstrained shape.id then
      .ok (ShapeItems.append ⟨type, []⟩ (← s.constrainedUnion shape))
    else .ok ⟨type, []⟩
  | .enum _ => s.enumeration shape
  | .string | .number _ | .blob | .list _ | .map _ _ =>
    if s.hasNewtype shape then s.newtype shape else .ok .none
  | _ => .ok .none

/-- An enumeration of errors, each a variant and its type; `unhandled` adds a variant for all others. -/
def errorEnum (s : Scope) (name : String) (errors : List (String × String)) (unhandled : Bool) :
    List Step :=
  let other (text : String) : List String := if unhandled then [text] else []
  let perError (arm : String → String) (last : String) : List Step :=
    if errors.isEmpty && !unhandled then [.line "match *self \x7b\x7d"]
    else [method "match self" ((errors.map fun e => arm e.1) ++ other last)]
  let shown (variant : String) : String :=
    s!"Self::{variant}(inner) => ::std::fmt::Display::fmt(inner, f),"
  let held (variant : String) : String := s!"Self::{variant}(inner) => Some(inner),"
  let type : List Step :=
    [.line "#[derive(Debug)]",
      method s!"pub enum {name}"
        ((errors.map fun (variant, type) => s!"{variant}({type}),")
          ++ other "/// An error the model does not describe."
          ++ other s!"Unhandled({s.rt}::error::Unhandled),"),
      .blank]
  let constructors : List Step :=
    if unhandled then
      [block s!"impl {name}"
          [method s!"pub fn unhandled(source: impl ::std::convert::Into<{s.rt}::error::BoxError>) -> Self"
              [s!"Self::Unhandled({s.rt}::error::Unhandled::from_source(source))"],
            .blank,
            method s!"pub fn generic(meta: {s.rt}::error::ErrorMetadata) -> Self"
              [s!"Self::Unhandled({s.rt}::error::Unhandled::new(meta))"],
            .blank,
            block "pub fn code(&self) -> ::std::option::Option<&str>"
              [method "match self"
                ((errors.map fun (variant, _) => s!"Self::{variant}(_) => Some({Text.quote variant}),")
                  ++ ["Self::Unhandled(inner) => inner.meta().code(),"])]],
        .blank]
    else []
  let views : List Step :=
    [displayImpl name (perError shown (shown "Unhandled")),
      .blank,
      block s!"impl ::std::error::Error for {name}"
        [block "fn source(&self) -> ::std::option::Option<&(dyn ::std::error::Error + 'static)>"
          (perError held (held "Unhandled"))],
      .blank]
  let conversions : List Step := errors.flatMap fun (variant, type) =>
    [block s!"impl ::std::convert::From<{type}> for {name}"
        [method s!"fn from(value: {type}) -> Self" [s!"Self::{variant}(value)"]],
      .blank]
  type ++ constructors ++ views ++ conversions

def operationErrors (s : Scope) (shape : Shape) : Except ModelError (List Step) :=
  match shape.kind with
  | .operation op => do
    let errors ← op.errors.mapM fun id => do .ok (typeName id, s.namedType (← s.model.expect id).id)
    .ok (.line s!"/// Errors `{shape.id.name}` can fail with."
      :: errorEnum s (typeName shape.id ++ "Error") errors (!s.isServer))
  | _ => .ok []

def streamErrorEnum (s : Scope) (shape : Shape) : Except ModelError (List Step) := do
  let errors := (← s.streamErrors shape).map fun m => (pascal m.name, s.namedType m.target)
  .ok (.line s!"/// Modeled errors of the `{shape.id.name}` event stream."
    :: errorEnum s (typeName shape.id ++ "Error") errors true)

/-- The errors of all operations, then those of all event streams. -/
def Scope.errorModule (s : Scope) : Except ModelError (List Step) := do
  let operations ← (← s.operations).mapM (operationErrors s)
  let streams ← (s.model.userShapes.filter Shape.isEventStream).mapM (streamErrorEnum s)
  .ok (operations.flatten ++ streams.flatten)

end WireShapes.Code
