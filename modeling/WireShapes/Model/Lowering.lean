import WireShapes.Model.Error
import WireShapes.Pattern.Search
import WireShapes.Source.Ast

/-!
From definitions as they are written to shapes.

* `lowerTraits`: traits that mean something become fields, the rest is kept as it is
* `lowerShape`: a shape of its definition; resources have none
* `preludeShapes`: the shapes that every model has
* `checkTargets`: everything that is referred to is there
-/

namespace WireShapes

open Source (Value RawMember RawShape)

/-! ### Values of traits -/

/-- A result, or what is wrong with the value of a trait. -/
abbrev Typed (α : Type) := Except TraitReason α

def asText : Value → Typed String
  | .string s => .ok s
  | v => .error (.type v "a string")

/-- A natural number up to a bound, named for messages. -/
def asNatural (typeName : String) (bound : Nat) : Value → Typed Nat
  | .number (.natural n) =>
    if n.toNat < bound then .ok n.toNat else .error (.value (.number (.natural n)) typeName)
  | .number (.negative n) => .error (.value (.number (.negative n)) typeName)
  | v => .error (.type v typeName)

def asDouble : Value → Typed Double
  | .number n => .ok n.toDouble
  | v => .error (.type v "f64")

def asOptional {α : Type} (read : Value → Typed α) : Value → Typed (Option α)
  | .null => .ok none
  | v => (read v).map some

/-- One or several elements. -/
def elementCount (n : Nat) : String := if n = 1 then "1 element" else s!"{n} elements"

/-- A record is an object with its fields or an array of them in order; its name and the number of
its fields are for messages. -/
structure RecordValue where
  name : String
  count : Nat
  value : Value

/-- The value is an object or an array. -/
def RecordValue.check (r : RecordValue) : Typed Unit :=
  match r.value with
  | .object _ => .ok ()
  | .array _ => .ok ()
  | v => .error (.type v s!"struct {r.name}")

/-- The field of a name and a position: what an object without it means, and what an array that ends
before it means, if that is allowed. -/
def RecordValue.field {α : Type} (r : RecordValue) (name : String) (i : Nat) (read : Value → Typed α)
    (missing : Typed α) (ended : Option α) : Typed α :=
  match r.value with
  | .object entries =>
    match Entries.get? name entries with
    | some v => read v
    | none => missing
  | .array items =>
    match items[i]?, ended with
    | some v, _ => read v
    | none, some a => .ok a
    | none, none => .error (.length items.length s!"struct {r.name} with {elementCount r.count}")
  | v => .error (.type v s!"struct {r.name}")

/-- A field that may be missing or null. -/
def RecordValue.optional {α : Type} (r : RecordValue) (name : String) (i : Nat) (read : Value → Typed α) :
    Typed (Option α) :=
  r.field name i (asOptional read) (.ok none) none

def RecordValue.required {α : Type} (r : RecordValue) (name : String) (i : Nat) (read : Value → Typed α) :
    Typed α :=
  r.field name i read (.error (.missingField name)) none

/-- An array has no more elements than the record has fields. -/
def RecordValue.checkExtra (r : RecordValue) : Typed Unit :=
  match r.value with
  | .array items =>
    if r.count < items.length then .error (.length items.length "fewer elements in array") else .ok ()
  | _ => .ok ()

/-- Checks the fields of an object in the order in which the object has them, so that of several
faults the first one in the document is reported. -/
def RecordValue.checkInOrder (r : RecordValue) (check : String → Value → Typed Unit) : Typed Unit :=
  match r.value with
  | .object entries => entries.forM fun e => check e.1 e.2
  | _ => .ok ()

def naturalOf64 : Value → Typed Nat := asNatural "u64" 0x10000000000000000
def naturalOf16 : Value → Typed Nat := asNatural "u16" 0x10000

def asLength (v : Value) : Typed LengthBounds := do
  let r : RecordValue := ⟨"LengthTrait", 2, v⟩
  r.check
  r.checkInOrder fun k v =>
    if k = "min" ∨ k = "max" then discard (asOptional naturalOf64 v) else .ok ()
  let min ← r.optional "min" 0 naturalOf64
  let max ← r.optional "max" 1 naturalOf64
  r.checkExtra
  .ok ⟨min, max⟩

def asRange (v : Value) : Typed RangeBounds := do
  let r : RecordValue := ⟨"RangeTrait", 2, v⟩
  r.check
  r.checkInOrder fun k v =>
    if k = "min" ∨ k = "max" then discard (asOptional asDouble v) else .ok ()
  let min ← r.optional "min" 0 asDouble
  let max ← r.optional "max" 1 asDouble
  r.checkExtra
  .ok ⟨min, max⟩

/-- The status code of a response if none is given. -/
def defaultStatus : Nat := 200

def asHttp (v : Value) : Typed HttpTrait := do
  let r : RecordValue := ⟨"HttpTraitBody", 3, v⟩
  r.check
  r.checkInOrder fun k v =>
    if k = "method" ∨ k = "uri" then discard (asText v)
    else if k = "code" then discard (naturalOf16 v)
    else .ok ()
  let method ← r.required "method" 0 asText
  let uri ← r.required "uri" 1 asText
  let code ← r.field "code" 2 naturalOf16 (.ok defaultStatus) (some defaultStatus)
  r.checkExtra
  .ok ⟨method, uri, code⟩

/-- A variant as the trait of an enumeration defines it. -/
def asVariant (v : Value) : Typed Variant := do
  let r : RecordValue := ⟨"LegacyEnumDefinition", 3, v⟩
  r.check
  r.checkInOrder fun k v =>
    if k = "value" then discard (asText v)
    else if k = "name" ∨ k = "documentation" then discard (asOptional asText v)
    else .ok ()
  let value ← r.required "value" 0 asText
  let name ← r.optional "name" 1 asText
  let documentation ← r.optional "documentation" 2 asText
  r.checkExtra
  .ok ⟨name.getD value, value, documentation⟩

def asVariants : Value → Typed (List Variant)
  | .array items => items.mapM asVariant
  | v => .error (.type v "a sequence")

/-! ### Traits -/

/-- The name of a trait without the namespace that every model has. -/
def shortTraitName (name : String) : String :=
  let space := (preludeSpace ++ "#").toList
  if space.isPrefixOf name.toList then String.ofList (name.toList.drop space.length) else name

def asFormat (v : Value) : Typed TimeFormat := do
  let name ← asText v
  match TimeFormat.ofName? name with
  | some f => .ok f
  | none => .error (.format name)

def asBlame (v : Value) : Typed Blame := do
  let name ← asText v
  if name = "client" then .ok .client
  else if name = "server" then .ok .server
  else .error (.blame name)

def asEnumValue : Value → Typed String
  | .string s => .ok s
  | .number n => .ok (Source.numberText n)
  | v => .error (.enumValue v)

def asUriHttp (v : Value) : Typed HttpTrait := do
  let http ← asHttp v
  if http.uri.toList.head? = some '/' then .ok http else .error .uri

/-- The traits with one more. -/
def lowerTrait (id : ShapeId) (traits : Traits) (name : String) (v : Value) :
    Except ModelError Traits :=
  let typed {α : Type} (result : Typed α) (put : α → Traits) : Except ModelError Traits :=
    match result with
    | .ok a => .ok (put a)
    | .error reason => .error (.invalidTrait id name reason)
  match shortTraitName name with
  | "required" => .ok { traits with required := true }
  | "default" => .ok { traits with default := some v }
  | "length" => typed (asLength v) fun b => { traits with length := some b }
  | "range" => typed (asRange v) fun b => { traits with range := some b }
  | "pattern" => do
    let traits ← typed (asText v) fun p => { traits with pattern := some p }
    let pattern := traits.pattern.getD ""
    if (Pattern.compile? pattern).isSome then .ok traits else .error (.invalidPattern id pattern)
  | "jsonName" => typed (asText v) fun t => { traits with jsonName := some t }
  | "timestampFormat" => typed (asFormat v) fun f => { traits with timestampFormat := some f }
  | "enumValue" => typed (asEnumValue v) fun t => { traits with enumValue := some t }
  | "sparse" => .ok { traits with sparse := true }
  | "error" => typed (asBlame v) fun b => { traits with error := some b }
  | "httpError" => typed (naturalOf16 v) fun n => { traits with httpError := some n }
  | "http" => typed (asUriHttp v) fun h => { traits with http := some h }
  | "httpHeader" => typed (asText v) fun t => { traits with httpHeader := some t }
  | "httpQuery" => typed (asText v) fun t => { traits with httpQuery := some t }
  | "httpLabel" => .ok { traits with httpLabel := true }
  | "httpPayload" => .ok { traits with httpPayload := true }
  | "httpResponseCode" => .ok { traits with httpResponseCode := true }
  | "streaming" => .ok { traits with streaming := true }
  | "eventHeader" => .ok { traits with eventHeader := true }
  | "eventPayload" => .ok { traits with eventPayload := true }
  | "documentation" => typed (asText v) fun t => { traits with documentation := some t }
  | _ => .ok { traits with other := Entries.insert name v traits.other }

/-- Traits in the order of the definition. -/
def lowerTraits (id : ShapeId) (raw : List (String × Value)) : Except ModelError Traits :=
  raw.foldlM (fun traits e => lowerTrait id traits e.1 e.2) {}

/-! ### Shapes -/

def lowerMember (container : ShapeId) (name : String) (raw : RawMember) : Except ModelError Member := do
  let traits ← lowerTraits ⟨container.text ++ "$" ++ name⟩ raw.traits
  .ok ⟨name, ⟨raw.target⟩, traits⟩

def lowerMembers (id : ShapeId) (raw : List (String × RawMember)) : Except ModelError (List Member) :=
  raw.mapM fun e => lowerMember id e.1 e.2

/-- A member that a collection has to have. -/
def lowerSlot (id : ShapeId) (slot : String) : Option RawMember → Except ModelError Member
  | some raw => lowerMember id slot raw
  | none => .error (.invalidTrait id slot (.missingMember slot))

/-- The id of the shape that stands for no input or output. -/
def unitId : ShapeId := ShapeId.ofParts preludeSpace "Unit"

/-- The input or output of an operation, unless it is the one that stands for none. -/
def operationTarget (raw : Option String) : Option ShapeId :=
  match raw with
  | some t => if t = unitId.text then none else some ⟨t⟩
  | none => none

def variantOfMember (m : Member) : Variant :=
  ⟨m.name, m.traits.enumValue.getD m.name, m.traits.documentation⟩

/-- The trait that makes an enumeration of a string. -/
def enumTrait : String := preludeSpace ++ "#enum"

/-- The kind of a shape; a resource has none. -/
def lowerKind (id : ShapeId) (traits : Traits) (raw : RawShape) : Except ModelError (Option Kind) :=
  match raw.type with
  | "structure" => (lowerMembers id raw.members).map fun ms => some (.struct ms)
  | "union" => (lowerMembers id raw.members).map fun ms => some (.union ms)
  | "list" => (lowerSlot id "member" raw.member).map fun m => some (.list m)
  | "set" => (lowerSlot id "member" raw.member).map fun m => some (.list m)
  | "map" => do
    let key ← lowerSlot id "key" raw.key
    let value ← lowerSlot id "value" raw.value
    .ok (some (.map key value))
  | "string" =>
    match Entries.get? enumTrait traits.other with
    | none => .ok (some .string)
    | some v =>
      match asVariants v with
      | .ok variants => .ok (some (.enum variants))
      | .error reason => .error (.invalidTrait id enumTrait reason)
  | "enum" => (lowerMembers id raw.members).map fun ms => some (.enum (ms.map variantOfMember))
  | "intEnum" => .ok (some (.number .integer))
  | "byte" => .ok (some (.number .byte))
  | "short" => .ok (some (.number .short))
  | "integer" => .ok (some (.number .integer))
  | "long" => .ok (some (.number .long))
  | "float" => .ok (some (.number .float))
  | "double" => .ok (some (.number .double))
  | "bigInteger" => .ok (some (.number .bigInteger))
  | "bigDecimal" => .ok (some (.number .bigDecimal))
  | "boolean" => .ok (some .boolean)
  | "blob" => .ok (some .blob)
  | "timestamp" => .ok (some .timestamp)
  | "document" => .ok (some .document)
  | "operation" =>
    .ok (some (.operation ⟨operationTarget raw.input, operationTarget raw.output,
      raw.errors.map ShapeId.mk⟩))
  | "service" => .ok (some (.service ⟨raw.version, raw.operations.map ShapeId.mk⟩))
  | "resource" => .ok none
  | "apply" => .ok none
  | other => .error (.unsupported id (.shapeType other))

/-- The shape of a definition, traits first. -/
def lowerShape (id : String) (raw : RawShape) : Except ModelError (Option Shape) := do
  let traits ← lowerTraits ⟨id⟩ raw.traits
  let kind ← lowerKind ⟨id⟩ traits raw
  .ok (kind.map fun k => ⟨⟨id⟩, k, traits⟩)

/-! ### The prelude -/

def simpleShape (name : String) (kind : Kind) : Shape := ⟨ShapeId.ofParts preludeSpace name, kind, {}⟩

def primitiveShape (name : String) (kind : Kind) (default : Value) : Shape :=
  ⟨ShapeId.ofParts preludeSpace name, kind, { default := some default }⟩

/-- Shapes that every model can target. -/
def preludeShapes : List Shape :=
  [simpleShape "String" .string,
    simpleShape "Blob" .blob,
    simpleShape "Boolean" .boolean,
    simpleShape "Byte" (.number .byte),
    simpleShape "Short" (.number .short),
    simpleShape "Integer" (.number .integer),
    simpleShape "Long" (.number .long),
    simpleShape "Float" (.number .float),
    simpleShape "Double" (.number .double),
    simpleShape "BigInteger" (.number .bigInteger),
    simpleShape "BigDecimal" (.number .bigDecimal),
    simpleShape "Timestamp" .timestamp,
    simpleShape "Document" .document,
    simpleShape "Unit" (.struct []),
    primitiveShape "PrimitiveBoolean" .boolean (.bool false),
    primitiveShape "PrimitiveByte" (.number .byte) (.number (.natural 0)),
    primitiveShape "PrimitiveShort" (.number .short) (.number (.natural 0)),
    primitiveShape "PrimitiveInteger" (.number .integer) (.number (.natural 0)),
    primitiveShape "PrimitiveLong" (.number .long) (.number (.natural 0)),
    primitiveShape "PrimitiveFloat" (.number .float) (.number (.natural 0)),
    primitiveShape "PrimitiveDouble" (.number .double) (.number (.natural 0))]

/-! ### Targets -/

/-- What a shape refers to, under the names of its members and slots. -/
def Shape.references (s : Shape) : List (String × ShapeId) :=
  (s.members.map fun m => (m.name, m.target)) ++
    match s.kind with
    | .operation op =>
      op.input.toList.map (fun id => ("input", id)) ++ op.output.toList.map (fun id => ("output", id))
        ++ op.errors.map (fun id => ("errors", id))
    | .service service => service.operations.map fun id => ("operations", id)
    | _ => []

/-- The first reference of the shape to something that is not there. -/
def Model.danglingOf (m : Model) (s : Shape) : Option ModelError :=
  (s.references.find? fun r => !m.contains r.2).map fun r =>
    .unknownTarget s.id r.1 r.2.text

/-- Everything that is referred to is there. -/
def Model.checkTargets (m : Model) : Except ModelError Unit :=
  match m.shapes.findSome? m.danglingOf with
  | some e => .error e
  | none => .ok ()

end WireShapes
