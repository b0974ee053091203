import WireShapes.Instant.Basic
import WireShapes.Source.Value
import WireShapes.Text.Split

/-!
Shapes: what a model describes.

* `ShapeId`: a namespace and a name
* `Traits`: what is said about a shape or a member
* `Member`, `Kind`, `Shape`
* `Model`: shapes in order, each id once
-/

namespace WireShapes

/-- The id of a shape, `namespace#Name`. -/
structure ShapeId where
  text : String
deriving DecidableEq, Repr, Inhabited

namespace ShapeId

/-- The id of a name in a namespace. -/
def ofParts (space name : String) : ShapeId := ⟨space ++ "#" ++ name⟩

/-- The namespace, empty if there is none. -/
def space (id : ShapeId) : String :=
  match Text.splitOnce '#' id.text.toList with
  | some (before, _) => String.ofList before
  | none => ""

/-- The name behind the namespace. -/
def name (id : ShapeId) : String :=
  match Text.splitOnce '#' id.text.toList with
  | some (_, after) => String.ofList after
  | none => id.text

end ShapeId

/-- The namespace of the shapes that every model has. -/
def preludeSpace : String := "smithy.api"

inductive NumberKind
  | byte
  | short
  | integer
  | long
  | float
  | double
  | bigInteger
  | bigDecimal
deriving DecidableEq, Repr

namespace NumberKind

/-- The width of a kind of integer. -/
def width? : NumberKind → Option IntWidth
  | byte => some .w8
  | short => some .w16
  | integer => some .w32
  | long => some .w64
  | _ => none

def isInteger (k : NumberKind) : Bool := k.width?.isSome

/-- The name of the kind in models. -/
def name : NumberKind → String
  | byte => "byte"
  | short => "short"
  | integer => "integer"
  | long => "long"
  | float => "float"
  | double => "double"
  | bigInteger => "bigInteger"
  | bigDecimal => "bigDecimal"

/-- The type of the kind in generated code; numbers of any precision have none. -/
def typeName? : NumberKind → Option String
  | byte => some "i8"
  | short => some "i16"
  | integer => some "i32"
  | long => some "i64"
  | float => some "f32"
  | double => some "f64"
  | _ => none

end NumberKind

inductive Blame
  | client
  | server
deriving DecidableEq, Repr

def Blame.name : Blame → String
  | client => "client"
  | server => "server"

structure LengthBounds where
  min : Option Nat
  max : Option Nat
deriving DecidableEq, Repr

structure RangeBounds where
  min : Option Double
  max : Option Double
deriving DecidableEq, Repr

structure HttpTrait where
  method : String
  uri : String
  code : Nat
deriving DecidableEq, Repr

/-- What is said about a shape or a member. -/
structure Traits where
  required : Bool := false
  default : Option Source.Value := none
  length : Option LengthBounds := none
  pattern : Option String := none
  range : Option RangeBounds := none
  jsonName : Option String := none
  timestampFormat : Option TimeFormat := none
  enumValue : Option String := none
  sparse : Bool := false
  error : Option Blame := none
  httpError : Option Nat := none
  http : Option HttpTrait := none
  httpHeader : Option String := none
  httpQuery : Option String := none
  httpLabel : Bool := false
  httpPayload : Bool := false
  httpResponseCode : Bool := false
  streaming : Bool := false
  eventHeader : Bool := false
  eventPayload : Bool := false
  documentation : Option String := none
  /-- The member closes a cycle and is stored behind a pointer. -/
  boxed : Bool := false
  other : List (String × Source.Value) := []
deriving Repr, Inhabited

structure Member where
  name : String
  target : ShapeId
  traits : Traits
deriving Repr, Inhabited

namespace Member

/-- A member is optional if it is neither required nor has a default. -/
def isOptional (m : Member) : Bool := !m.traits.required && m.traits.default.isNone

/-- The key of the member in a document. -/
def key (m : Member) : String := m.traits.jsonName.getD m.name

end Member

structure Variant where
  name : String
  value : String
  documentation : Option String
deriving DecidableEq, Repr

structure Operation where
  input : Option ShapeId
  output : Option ShapeId
  errors : List ShapeId
deriving DecidableEq, Repr

structure Service where
  version : Option String
  operations : List ShapeId
deriving DecidableEq, Repr

inductive Kind
  | struct (members : List Member)
  | union (members : List Member)
  | list (member : Member)
  | map (key value : Member)
  | string
  | enum (variants : List Variant)
  | number (kind : NumberKind)
  | boolean
  | blob
  | timestamp
  | document
  | operation (operation : Operation)
  | service (service : Service)
deriving Repr, Inhabited

/-- The name of a kind in models. -/
def Kind.name : Kind → String
  | struct _ => "structure"
  | union _ => "union"
  | list _ => "list"
  | map _ _ => "map"
  | string => "string"
  | enum _ => "enum"
  | number kind => kind.name
  | boolean => "boolean"
  | blob => "blob"
  | timestamp => "timestamp"
  | document => "document"
  | operation _ => "operation"
  | service _ => "service"

structure Shape where
  id : ShapeId
  kind : Kind
  traits : Traits
deriving Repr, Inhabited

namespace Shape

/-- Members in order; a list has its element, a map its key and its value. -/
def members (s : Shape) : List Member :=
  match s.kind with
  | .struct members => members
  | .union members => members
  | .list member => [member]
  | .map key value => [key, value]
  | _ => []

def isStruct (s : Shape) : Bool :=
  match s.kind with
  | .struct _ => true
  | _ => false

def isUnion (s : Shape) : Bool :=
  match s.kind with
  | .union _ => true
  | _ => false

/-- Lists and maps. -/
def isCollection (s : Shape) : Bool :=
  match s.kind with
  | .list _ => true
  | .map _ _ => true
  | _ => false

def isError (s : Shape) : Bool := s.traits.error.isSome

/-- A union of events. -/
def isEventStream (s : Shape) : Bool := s.isUnion && s.traits.streaming

end Shape

/-- Shapes in order, each id once. -/
structure Model where
  shapes : List Shape
deriving Repr, Inhabited

namespace Model

def get? (m : Model) (id : ShapeId) : Option Shape := m.shapes.find? fun s => s.id == id

def contains (m : Model) (id : ShapeId) : Bool := m.shapes.any fun s => s.id == id

theorem mem_of_get? {m : Model} {id : ShapeId} {s : Shape} (h : m.get? id = some s) : s ∈ m.shapes :=
  List.mem_of_find?_eq_some h

theorem id_of_get? {m : Model} {id : ShapeId} {s : Shape} (h : m.get? id = some s) : s.id = id := by
  have hbeq : (s.id == id) = true := List.find?_some (p := fun s : Shape => s.id == id) h
  exact eq_of_beq hbeq

/-- Puts a shape in its place in a list: that of the shape with its id, or the end. -/
def place (shape : Shape) : List Shape → List Shape
  | [] => [shape]
  | s :: rest => if s.id = shape.id then shape :: rest else s :: place shape rest

def insert (m : Model) (shape : Shape) : Model := ⟨place shape m.shapes⟩

/-- The shapes that the model itself brings, in order. -/
def userShapes (m : Model) : List Shape := m.shapes.filter fun s => s.id.space != preludeSpace

def operations (m : Model) : List (Shape × Operation) :=
  m.shapes.filterMap fun s =>
    match s.kind with
    | .operation op => some (s, op)
    | _ => none

def services (m : Model) : List (Shape × Service) :=
  m.shapes.filterMap fun s =>
    match s.kind with
    | .service service => some (s, service)
    | _ => none

end Model

end WireShapes
