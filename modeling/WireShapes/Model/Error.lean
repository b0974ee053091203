import WireShapes.Model.Shape

/-!
Why code cannot be generated.

* `Reason`: why a shape is not supported
* `TraitReason`: what is wrong with a trait
* `ModelError.message`
-/

namespace WireShapes

inductive Reason
  | synthesis (id : ShapeId)
  | shapeType (name : String)
  | notOperation
  | notNormalized
  | notStructure
  | manyPayloads
  | payloadAndBody
  | member (name : String) (why : String)
  | noNumberType
  | notCollection
  | noNewtype
  | noOperationType
  | noType
  | notEnum
  | notUnion
  | unitMember (name : String)
  | readInline (kind : String)
  | writtenInline (kind : String)
  | precision
  | notReadable
  | notWritable
  | mapKeys
  | notService
  | strayStream
  | noBuilder
  | notEventStructure
  | headerKind (kind : String)
  | headerNumber
  | payloadKind (kind : String)
  | outsideBody (kind : String)
deriving DecidableEq, Repr

def Reason.message : Reason → String
  | synthesis id => s!"cannot synthesize `{id.text}`: a non-structure shape already uses that id"
  | shapeType name => s!"unknown shape type `{name}`"
  | notOperation => "not an operation"
  | notNormalized => "operation has not been normalized"
  | notStructure => "HTTP bindings apply to structures only"
  | manyPayloads => "more than one `@httpPayload` member"
  | payloadAndBody => "`@httpPayload` cannot be combined with members bound to the body"
  | member name why => s!"member `{name}`: {why}"
  | noNumberType => "arbitrary-precision numbers have no Rust representation"
  | notCollection => "not a collection"
  | noNewtype => "shape cannot be wrapped in a newtype"
  | noOperationType => "operations and services have no Rust type"
  | noType => "no Rust representation"
  | notEnum => "not an enum"
  | notUnion => "not a union"
  | unitMember name => s!"union member `{name}` targets smithy.api#Unit"
  | readInline kind => s!"{kind} shapes are deserialized inline"
  | writtenInline kind => s!"{kind} shapes are serialized inline"
  | precision => "arbitrary-precision numbers"
  | notReadable => "cannot be deserialized"
  | notWritable => "cannot be serialized"
  | mapKeys => "map keys must be strings or enums"
  | notService => "configured service is not a service shape"
  | strayStream => "event streams are only supported on operation inputs and outputs"
  | noBuilder => "builders are generated for structures only"
  | notEventStructure => "event stream members must target structures"
  | headerKind kind => s!"`{kind}` cannot be carried in an event header"
  | headerNumber => "event headers carry integers only"
  | payloadKind kind => s!"`{kind}` cannot be an event payload"
  | outsideBody kind => s!"`{kind}` cannot be bound outside the body"

/-- What is wrong with a trait. -/
inductive TraitReason
  /-- A value of the wrong type. -/
  | type (found : Source.Value) (expected : String)
  /-- A number that the type does not hold. -/
  | value (found : Source.Value) (expected : String)
  | length (n : Nat) (expected : String)
  | missingField (name : String)
  | format (name : String)
  | enumValue (found : Source.Value)
  | blame (name : String)
  | uri
  | missingMember (slot : String)
  | missingPlaceholder (template placeholder member : String)
  | missingLabel (name : String)
  | default (found : Source.Value) (member : String)
  | defaultEncoding (member why : String)
deriving Repr

def TraitReason.message : TraitReason → String
  | type found expected => s!"invalid type: {found.describe}, expected {expected}"
  | value found expected => s!"invalid value: {found.describe}, expected {expected}"
  | length n expected => s!"invalid length {n}, expected {expected}"
  | missingField name => s!"missing field `{name}`"
  | format name => s!"unknown format `{name}`"
  | enumValue found => s!"unexpected value {found.compact}"
  | blame name => s!"unknown fault `{name}`"
  | uri => "uri must start with `/`"
  | missingMember slot => s!"`{slot}` member is missing"
  | missingPlaceholder template placeholder member =>
    s!"uri `{template}` has no `{placeholder}` for label member `{member}`"
  | missingLabel name => s!"no `@httpLabel` member for `\x7b{name}\x7d`"
  | default found member => s!"default `{found.compact}` of member `{member}` cannot be rendered"
  | defaultEncoding member why => s!"default of member `{member}` is not valid base64: {why}"

/-- Why a run cannot go on. -/
inductive ModelError
  | unknownShape (id : ShapeId)
  | unknownTarget (shape : ShapeId) (member target : String)
  | unsupported (shape : ShapeId) (reason : Reason)
  | invalidTrait (shape : ShapeId) (traitName : String) (reason : TraitReason)
  | invalidPattern (shape : ShapeId) (pattern : String)
  | conflictingShape (id : ShapeId)
  /-- A document that cannot be decoded, and where. -/
  | malformed (origin path : String)
  | version (origin found : String)
  | read (path : String)
  | write (path : String)
deriving Repr

def ModelError.message : ModelError → String
  | unknownShape id => s!"unknown shape `{id.text}`"
  | unknownTarget shape member target =>
    s!"member `{member}` of `{shape.text}` targets unknown shape `{target}`"
  | unsupported shape reason => s!"`{shape.text}` is not supported: {reason.message}"
  | invalidTrait shape traitName reason =>
    s!"invalid `{traitName}` trait on `{shape.text}`: {reason.message}"
  | invalidPattern shape pattern => s!"invalid @pattern `{pattern}` on `{shape.text}`"
  | conflictingShape id => s!"shape `{id.text}` is defined more than once with different definitions"
  | malformed origin path => s!"failed to parse {origin}: at JSON path {path}"
  | version origin found => s!"failed to parse {origin}: unsupported model version `{found}`"
  | read path => s!"failed to read {path}"
  | write path => s!"failed to write {path}"

/-- A document and where it comes from. -/
structure SourceText where
  origin : String
  text : String
deriving DecidableEq, Repr

/-- The shape of an id, which has to be there. -/
def Model.expect (m : Model) (id : ShapeId) : Except ModelError Shape :=
  match m.get? id with
  | some s => .ok s
  | none => .error (.unknownShape id)

def Model.target (m : Model) (member : Member) : Except ModelError Shape := m.expect member.target

end WireShapes
