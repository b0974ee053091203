import WireShapes.Code.Scope

/-!
Types of shapes in generated code.

* `Form`: a shape has up to three types, which differ only where a constraint is
* `TypeRef`: a type with its name and its module
* `Scope.typeRef`, `Scope.memberType`, `Scope.newtypeInner`
-/

namespace WireShapes.Code

/-- Which type of a shape is meant. -/
inductive Form
  /-- What the application sees. -/
  | exposed
  /-- What validation gives. -/
  | constrained
  /-- What is read, before validation. -/
  | raw
deriving DecidableEq, Repr

structure TypeRef where
  name : String
  /-- The module of a generated type. -/
  home : Option String
  text : String
  optional : Bool := false
  boxed : Bool := false
deriving DecidableEq, Repr

namespace TypeRef

def external (name text : String) : TypeRef := ⟨name, none, text, false, false⟩

def generated (home name : String) : TypeRef := ⟨name, some home, home ++ "::" ++ name, false, false⟩

/-- The type, boxed and made optional as it has to be. -/
def render (t : TypeRef) : String :=
  let inner := if t.boxed then s!"::std::boxed::Box<{t.text}>" else t.text
  if t.optional then s!"::std::option::Option<{inner}>" else inner

end TypeRef

def stringType : String := "::std::string::String"

namespace Scope

/-- The type of a shape that is neither named nor a collection. -/
def simpleType? (s : Scope) (shape : Shape) : Except ModelError (Option TypeRef) :=
  match shape.kind with
  | .string => .ok (some (.external "String" stringType))
  | .boolean => .ok (some (.external "bool" "bool"))
  | .number kind =>
    match kind.typeName? with
    | some name => .ok (some (.external name name))
    | none => .error (.unsupported shape.id .noNumberType)
  | .blob => .ok (some (.external "Blob" (s.rt ++ "::Blob")))
  | .timestamp => .ok (some (.external "DateTime" (s.rt ++ "::DateTime")))
  | .document => .ok (some (.external "Document" (s.rt ++ "::Document")))
  | _ => .ok none

def named (s : Scope) (id : ShapeId) : TypeRef := .generated s.modelPath (typeName id)

/-- A list or a map, given the types of what it holds. -/
def collectionType (s : Scope) (form : Form) (shape : Shape)
    (typeOf : Shape → Except ModelError TypeRef) : Except ModelError TypeRef :=
  let element (member : Member) : Except ModelError String := do
    let rendered := (← typeOf (← s.model.target member)).render
    .ok (if shape.traits.sparse then s!"::std::option::Option<{rendered}>" else rendered)
  match shape.kind with
  | .list member => do
    let element ← element member
    .ok (.external "Vec" s!"::std::vec::Vec<{element}>")
  | .map key value => do
    let key ←
      if form = .raw && s.isServer then pure stringType
      else do pure (← typeOf (← s.model.target key)).render
    let value ← element value
    .ok (.external "HashMap" s!"::std::collections::HashMap<{key}, {value}>")
  | _ => .error (.unsupported shape.id .notCollection)

/-- The type of a shape; `depth` bounds how deep collections are nested. -/
def typeRefWithin (s : Scope) (form : Form) : Nat → Shape → Except ModelError TypeRef
  | 0, shape => .error (.unsupported shape.id .noType)
  | depth + 1, shape =>
    match shape.kind with
    | .struct _ =>
      if form = .raw && s.isConstrained shape.id then .ok (.generated (s.shapeModule shape.id) "Builder")
      else .ok (s.named shape.id)
    | .union _ =>
      if form = .raw && s.isConstrained shape.id then
        .ok (.generated (s.shapeModule shape.id) "Unconstrained")
      else .ok (s.named shape.id)
    | .enum _ =>
      if form = .raw && s.isServer then .ok (.external "String" stringType)
      else .ok (s.named shape.id)
    | .operation _ | .service _ => .error (.unsupported shape.id .noOperationType)
    | kind =>
      if (form = .constrained && s.hasNewtype shape) || (form = .exposed && s.hasPublicNewtype shape) then
        .ok (s.named shape.id)
      else match kind with
        | .list _ | .map _ _ => s.collectionType form shape (s.typeRefWithin form depth)
        | _ => do
          match ← s.simpleType? shape with
          | some t => .ok t
          | none => .error (.unsupported shape.id .noType)

def typeRef (s : Scope) (form : Form) (shape : Shape) : Except ModelError TypeRef :=
  s.typeRefWithin form (s.model.shapes.length + 1) shape

def typeText (s : Scope) (form : Form) (shape : Shape) : Except ModelError String :=
  (s.typeRef form shape).map TypeRef.render

/-- The type of a field or variant that holds a member. -/
def memberType (s : Scope) (form : Form) (member : Member) : Except ModelError TypeRef := do
  let t ← s.typeRef form (← s.model.target member)
  .ok { t with boxed := member.traits.boxed, optional := member.isOptional }

/-- The type that a newtype holds: the public type as it would be without the newtype. -/
def newtypeInner (s : Scope) (shape : Shape) : Except ModelError String :=
  if shape.isCollection then
    (s.collectionType .exposed shape (s.typeRef .exposed)).map TypeRef.text
  else do
    match ← s.simpleType? shape with
    | some t => .ok t.text
    | none => .error (.unsupported shape.id .noNewtype)

/-- The public type is also the type before validation. -/
def publicIsRaw (s : Scope) (shape : Shape) : Except ModelError Bool := do
  .ok ((← s.typeText .exposed shape) == (← s.typeText .raw shape))

end Scope

end WireShapes.Code
