import WireShapes.Http.Header

/-!
Requests and responses.

* `Request`, `Response`
* `Request.path`, `Request.query`: the parts of its URI
-/

namespace WireShapes.Http

structure Request where
  method : String
  uri : String
  headers : Headers
  body : List UInt8
deriving DecidableEq, Repr

structure Response where
  status : Nat
  headers : Headers
  body : List UInt8
deriving DecidableEq, Repr

/-- The characters after the first `://`, if there is one. -/
def afterScheme? : List Char → Option (List Char)
  | ':' :: '/' :: '/' :: rest => some rest
  | _ :: rest => afterScheme? rest
  | [] => none

/-- A URI from its path on: without scheme and host, and without fragment. -/
def fromPath (uri : String) : List Char :=
  let cs := uri.toList.takeWhile (· != '#')
  if cs.head? = some '/' then cs
  else
    match afterScheme? (cs.takeWhile (· != '?')) with
    | none => cs
    | some _ => ((afterScheme? cs).getD []).dropWhile fun c => c != '/' && c != '?'

/-- The path of the URI; an empty one is the root. -/
def Request.path (r : Request) : String :=
  let cs := (fromPath r.uri).takeWhile (· != '?')
  if cs.isEmpty then "/" else String.ofList cs

/-- The query of the URI, empty if there is none. -/
def Request.query (r : Request) : String :=
  String.ofList (((fromPath r.uri).dropWhile (· != '?')).drop 1)

def Response.isSuccess (r : Response) : Bool := 200 ≤ r.status && r.status < 300

/-- The longest URI that a request may have, in bytes. -/
def maxUriLength : Nat := 65534

end WireShapes.Http
