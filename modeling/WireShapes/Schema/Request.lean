import WireShapes.Http.Message
import WireShapes.Http.Query
import WireShapes.Http.Template
import WireShapes.Schema.Reading
import WireShapes.Schema.Writing

/-!
Operations and their requests.

* `Operation`
* `writeRequest`: the request of an input, as a client sends it
* `readRequest`: the input of a request, as a server takes it
* `writeHeaders`, `writeBody`, `readHeaders`, `readStreamOrBody`: the parts that responses have too
-/

namespace WireShapes.Schema

open Http

/-- An operation over HTTP; errors have a status each. -/
structure Operation (ν : Type) where
  name : String
  method : String
  uri : String
  status : Nat
  input : ν
  output : ν
  errors : List (ν × Nat) := []
deriving Repr

variable {ν : Type}

/-! ### Writing -/

/-- The path of a template with the labels filled in. -/
def writePath (v : Value) : List UriPiece → Except WriteFault String
  | [] => .ok ""
  | .literal text :: rest => (writePath v rest).map (text ++ ·)
  | .label name greedy :: rest =>
    let written := writeLabel (((v.get? name).map Value.plain).getD "") greedy
    if written.isEmpty then .error (.emptyLabel name)
    else (writePath v rest).map (written ++ ·)

/-- The pairs of the members that travel in the query. -/
def queryPairs (v : Value) (members : List (Member ν)) : List (String × String) :=
  members.flatMap fun m =>
    match m.place, v.get? m.name with
    | .query key, some value => value.plains.map fun text => (key, text)
    | _, _ => []

/-- The fields of the members that travel in headers; an empty text is left out. -/
def writeHeaders (v : Value) : List (Member ν) → Except WriteFault Headers
  | [] => .ok []
  | m :: rest =>
    match m.place, v.get? m.name with
    | .header name, some value =>
      if value.plain.isEmpty then writeHeaders v rest
      else do
        let bytes ← fieldValue name value.plain
        let more ← writeHeaders v rest
        .ok ((name, bytes) :: more)
    | _, _ => writeHeaders v rest

/-- A header field that tells the form of the body. -/
def contentType (form : String) : String × List UInt8 := ("content-type", Utf8.encode form)

/-- The body carries an event stream. -/
def hasStream (members : List (Member ν)) : Bool := members.any fun m => decide (m.place = .stream)

/-- The body and the header field of its form. An event stream is sent later. -/
def writeBody (v : Value) (members : List (Member ν)) : Headers × List UInt8 :=
  if hasStream members then ([contentType "application/vnd.amazon.eventstream"], [])
  else if (bodyMembers members).isEmpty then ([], [])
  else ([contentType "application/json"], bodyBytes members v)

def writeRequest (S : Schema ν) (op : Operation ν) (v : Value) : Except WriteFault Request := do
  let members := S.members op.input
  let path ← writePath v (uriPieces op.uri)
  let uri := ((queryPairs v members).foldl (fun w p => w.insert p.1 p.2) (QueryWriter.start path)).uri
  let headers ← writeHeaders v members
  let (form, body) := writeBody v members
  if maxUriLength < uri.utf8ByteSize then .error .message
  else .ok ⟨op.method, uri, headers ++ form, body⟩

/-! ### Reading -/

/-- A simple value from its text. -/
def ofPlain (shape : Shape ν) (raw : String) : Except ValueFault Draft :=
  match shape with
  | .boolean =>
    if raw = "true" then .ok (.boolean true)
    else if raw = "false" then .ok (.boolean false)
    else .error .notBool
  | _ => .ok (.text raw)

variable (S : Schema ν)

def readLabels (members : List (Member ν)) :
    List (String × String) → List (String × Draft) → Except Rejection (List (String × Draft))
  | [], fields => .ok fields
  | (name, raw) :: rest, fields =>
    match memberOf? members name with
    | none => readLabels members rest fields
    | some m =>
      match ofPlain (S.shape m.target) raw with
      | .ok d => readLabels members rest (setField fields name (some d))
      | .error fault => .error (.label name fault)

/-- A member from the pairs of a query: a list takes all values of its key, any other member the
first. -/
def readQueryMember (m : Member ν) (key : String) (pairs : List (String × String)) :
    Except Rejection (Option Draft) :=
  let values := (pairs.filter (·.1 == key)).map (·.2)
  match S.shape m.target, values with
  | _, [] => .ok none
  | .list _, _ => .ok (some (.list (values.map .text)))
  | shape, raw :: _ =>
    match ofPlain shape raw with
    | .ok d => .ok (some d)
    | .error fault => .error (.query key fault)

def readQueryMembers (pairs : List (String × String)) :
    List (Member ν) → List (String × Draft) → Except Rejection (List (String × Draft))
  | [], fields => .ok fields
  | m :: rest, fields =>
    match m.place with
    | .query key => do
      match ← readQueryMember S m key pairs with
      | some d => readQueryMembers pairs rest (setField fields m.name (some d))
      | none => readQueryMembers pairs rest fields
    | _ => readQueryMembers pairs rest fields

def Place.isQuery : Place → Bool
  | query _ => true
  | _ => false

/-- The fields after the query, which is not looked at if no member travels in it. -/
def readQuery (query : String) (members : List (Member ν)) (fields : List (String × Draft)) :
    Except Rejection (List (String × Draft)) :=
  if members.any (·.place.isQuery) then do
    let pairs ← parseQuery query
    readQueryMembers S pairs members fields
  else .ok fields

def readHeaders (headers : Headers) :
    List (Member ν) → List (String × Draft) → Except Rejection (List (String × Draft))
  | [], fields => .ok fields
  | m :: rest, fields =>
    match m.place with
    | .header name => do
      match ← one headers name with
      | none => readHeaders headers rest fields
      | some raw =>
        match ofPlain (S.shape m.target) raw with
        | .ok d => readHeaders headers rest (setField fields m.name (some d))
        | .error fault => .error (.header name fault)
    | _ => readHeaders headers rest fields

/-- The fields with the ends of event streams put in. -/
def openStreams (members : List (Member ν)) (fields : List (String × Draft)) : List (String × Draft) :=
  (members.filter fun m => decide (m.place = .stream)).foldl
    (fun fields m => setField fields m.name (some (.built .stream))) fields

/-- The fields after the body. An event stream is read later, and a body without members never. -/
def readStreamOrBody (F : Flavour) (body : List UInt8) (members : List (Member ν))
    (fields : List (String × Draft)) : Except Json.ReadError (List (String × Draft)) :=
  if hasStream members then .ok (openStreams members fields)
  else if (bodyMembers members).isEmpty then .ok fields
  else S.readBody F (bodyMembers members) body fields

/-- The fields of the input of a request. -/
def readRequestFields (F : Flavour) (op : Operation ν) (r : Request) :
    Except Rejection (List (String × Draft)) := do
  let members := S.members op.input
  if r.method ≠ op.method then .error (.method op.method r.method)
  else
    match matchPath op.uri r.path with
    | none => .error (.uri r.path)
    | some labels =>
      let fields ← S.readLabels members labels []
      let fields ← S.readQuery r.query members fields
      let fields ← S.readHeaders r.headers members fields
      match S.readStreamOrBody F r.body members fields with
      | .ok fields => .ok fields
      | .error e => .error (.body e)

def readRequest (F : Flavour) (op : Operation ν) (r : Request) : Except Rejection Value := do
  let fields ← S.readRequestFields F op r
  match S.build F op.input (.struct fields) with
  | .ok v => .ok v
  | .error e => .error (.violation e.message)

end WireShapes.Schema
