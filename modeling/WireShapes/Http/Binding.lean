import WireShapes.Http.Template
import WireShapes.Model.Error

/-!
Which part of a request or a response a member travels in.

* `Location`: the part
* `locate`: the part that the traits of a member choose
* `structureBindings`: all members of a structure, with what a part may carry checked
* `operationBindings`: those of one side of an operation
-/

namespace WireShapes

/-- The side of an operation. -/
inductive Direction
  | request
  | response
deriving DecidableEq, Repr

def Direction.name : Direction → String
  | request => "request"
  | response => "response"

namespace Http

/-- The part of a message that a member travels in. -/
inductive Location
  | label (greedy : Bool)
  | query (name : String)
  | header (name : String)
  /-- The whole body. -/
  | payload
  /-- A member of the object in the body. -/
  | document
  | responseCode
deriving DecidableEq, Repr

/-- The format of a timestamp if no trait chooses one. -/
def Location.timeFormat : Location → TimeFormat
  | header _ => .httpDate
  | label _ => .dateTime
  | query _ => .dateTime
  | payload => .epochSeconds
  | document => .epochSeconds
  | responseCode => .epochSeconds

/-- A member with its target and its part of the message. -/
structure Binding where
  member : Member
  target : Shape
  location : Location
deriving Repr

/-- The HTTP trait of an operation, or a `POST` to its name. -/
def operationHttp (operation : Shape) : HttpTrait :=
  operation.traits.http.getD ⟨"POST", "/" ++ operation.id.name, 200⟩

/-- The structure on one side of an operation. -/
def operationStructure (m : Model) (operation : Shape) (direction : Direction) :
    Except ModelError Shape :=
  match operation.kind with
  | .operation op =>
    let slot := match direction with
      | .request => op.input
      | .response => op.output
    match slot with
    | some id => m.expect id
    | none => .error (.unsupported operation.id .notNormalized)
  | _ => .error (.unsupported operation.id .notOperation)

def errorStatus (error : Shape) : Nat :=
  error.traits.httpError.getD (if error.traits.error = some .server then 500 else 400)

/-- The part that the traits of a member choose. -/
def locate (member : Member) (direction : Direction) : Location :=
  let t := member.traits
  match t.httpHeader with
  | some name => .header (String.ofList (name.toList.map Char.toLower))
  | none =>
    if t.httpPayload then .payload
    else match direction with
      | .request =>
        if t.httpLabel then .label false
        else match t.httpQuery with
          | some name => .query name
          | none => .document
      | .response => if t.httpResponseCode then .responseCode else .document

/-- Values that are a short text. -/
def isSimple (s : Shape) : Bool :=
  match s.kind with
  | .string => true
  | .enum _ => true
  | .number _ => true
  | .boolean => true
  | .timestamp => true
  | _ => false

/-- Why a part cannot carry a member, if it cannot. -/
def targetFault? (member : Member) (target : Shape) (location : Location) : Option String :=
  match location with
  | .label _ =>
    if !member.traits.required then some "label members must be required"
    else if !isSimple target then some "labels must target simple shapes"
    else none
  | .query _ | .header _ =>
    match target.kind with
    | .list _ => none
    | _ =>
      if isSimple target then none
      else some "query and header members must target simple shapes or lists of them"
  | .responseCode =>
    match target.kind with
    | .number .integer => none
    | _ => some "`@httpResponseCode` must target an integer"
  | .payload =>
    match target.kind with
    | .blob | .string | .struct _ | .union _ | .document => none
    | _ => some "payloads must target a blob, string, structure, union or document"
  | .document => none

def memberBinding (m : Model) (container : ShapeId) (direction : Direction) (member : Member) :
    Except ModelError Binding := do
  let target ← m.target member
  let location := locate member direction
  match targetFault? member target location with
  | some why => .error (.unsupported container (.member member.name why))
  | none => .ok ⟨member, target, location⟩

def Binding.isDocument (b : Binding) : Bool := b.location == .document

def Binding.isPayload (b : Binding) : Bool := b.location == .payload

/-- The bindings of all members of a structure, in order. A member that is the whole body is the only
one of its kind and leaves no room for members of the body. -/
def structureBindings (m : Model) (container : Shape) (direction : Direction) :
    Except ModelError (List Binding) :=
  match container.kind with
  | .struct members => do
    let bindings ← members.mapM (memberBinding m container.id direction)
    let payloads := (bindings.filter Binding.isPayload).length
    if 1 < payloads then .error (.unsupported container.id .manyPayloads)
    else if payloads = 1 && bindings.any Binding.isDocument then
      .error (.unsupported container.id .payloadAndBody)
    else .ok bindings
  | _ => .error (.unsupported container.id .notStructure)

def occursIn (part text : List Char) : Bool :=
  match text with
  | [] => part.isEmpty
  | _ :: rest => part.isPrefixOf text || occursIn part rest

/-- How a label is written in a template. -/
def placeholder (name : String) (greedy : Bool) : String :=
  "\x7b" ++ name ++ (if greedy then "+\x7d" else "\x7d")

/-- The label of the name is greedy in a template. -/
def labelIsGreedy (uri name : String) : Bool :=
  occursIn (placeholder name true).toList uri.toList

/-- A label with its greediness, which has to be in the template. -/
def placeLabel (operation : Shape) (b : Binding) : Except ModelError Binding :=
  match b.location with
  | .label _ =>
    let uri := (operationHttp operation).uri
    let greedy := labelIsGreedy uri b.member.name
    let sought := placeholder b.member.name greedy
    if occursIn sought.toList uri.toList then .ok { b with location := .label greedy }
    else .error (.invalidTrait operation.id "smithy.api#http"
      (.missingPlaceholder uri sought b.member.name))
  | _ => .ok b

def operationBindings (m : Model) (operation : Shape) (direction : Direction) :
    Except ModelError (List Binding) := do
  let container ← operationStructure m operation direction
  let bindings ← structureBindings m container direction
  match direction with
  | .request => bindings.mapM (placeLabel operation)
  | .response => .ok bindings

/-- The format of a timestamp: of the member, else of its target, else of the part. -/
def bindingTimeFormat (m : Model) (member : Member) (location : Location) : TimeFormat :=
  match member.traits.timestampFormat with
  | some format => format
  | none => ((m.get? member.target).bind fun s => s.traits.timestampFormat).getD location.timeFormat

end Http

end WireShapes
