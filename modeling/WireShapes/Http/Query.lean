import WireShapes.Http.Rejection
import WireShapes.Text.Percent
import WireShapes.Text.Split

/-!
Query strings.

* `QueryWriter`: a URI that grows by pairs
* `parseQuery`: the pairs of a query string, in order
-/

namespace WireShapes.Http

/-- A URI and the character that comes before the next pair. -/
structure QueryWriter where
  uri : String
  separator : Char
deriving DecidableEq, Repr

namespace QueryWriter

/-- Starts with a URI that may have a query already. -/
def start (uri : String) : QueryWriter := ⟨uri, if uri.toList.contains '?' then '&' else '?'⟩

def insert (w : QueryWriter) (key value : String) : QueryWriter :=
  ⟨w.uri ++ w.separator.toString ++ Percent.encode key ++ "=" ++ Percent.encode value, '&'⟩

end QueryWriter

/-- One part of a query; a key without an equals sign has an empty value. -/
def parsePair (cs : List Char) : Except Rejection (String × String) :=
  let (key, value) := (Text.splitOnce '=' cs).getD (cs, [])
  let decode (raw : List Char) : Except Rejection String :=
    match Percent.decode (String.ofList raw) with
    | .ok t => .ok t
    | .error e => .error (.query "query" (.encoding e))
  do
    let k ← decode key
    let v ← decode value
    .ok (k, v)

def parsePairs : List (List Char) → Except Rejection (List (String × String))
  | [] => .ok []
  | part :: rest => do
    let pair ← parsePair part
    let more ← parsePairs rest
    .ok (pair :: more)

/-- The pairs of a query string; empty parts are passed over. -/
def parseQuery (query : String) : Except Rejection (List (String × String)) :=
  parsePairs ((Text.splitOn '&' query.toList).filter fun part => !part.isEmpty)

end WireShapes.Http
