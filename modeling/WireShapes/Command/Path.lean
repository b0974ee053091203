import WireShapes.Text.Split

/-!
Paths of files.

* `Part`, `parts`: a path as its parts; a dot inside it and doubled slashes mean nothing
* `sortPaths`: paths in order of their parts, each once
* `join`
-/

namespace WireShapes.Command

inductive Part
  | root
  /-- A dot at the start. -/
  | here
  | up
  | name (text : String)
deriving DecidableEq, Repr

/-- The parts behind the start. -/
def innerParts (segments : List (List Char)) : List Part :=
  segments.filterMap fun segment =>
    match segment with
    | [] => none
    | ['.'] => none
    | ['.', '.'] => some .up
    | text => some (.name (String.ofList text))

def parts (path : String) : List Part :=
  match Text.splitOn '/' path.toList with
  | ['.'] :: rest => .here :: innerParts rest
  | [] :: second :: rest => .root :: innerParts (second :: rest)
  | segments => innerParts segments

def Part.rank : Part → Nat
  | root => 0
  | here => 1
  | up => 2
  | name _ => 3

def Part.lt : Part → Part → Bool
  | name a, name b => a < b
  | a, b => a.rank < b.rank

/-- The parts are in order: the first difference decides, and a start comes first. -/
def partsLe : List Part → List Part → Bool
  | [], _ => true
  | _ :: _, [] => false
  | a :: as, b :: bs => a.lt b || (a == b && partsLe as bs)

/-- Drops a path whose parts are those of the one before it. -/
def dropRepeats : List String → List String
  | [] => []
  | [path] => [path]
  | a :: b :: rest =>
    match dropRepeats (b :: rest) with
    | [] => [a]
    | kept :: more => if parts a = parts kept then a :: more else a :: kept :: more

/-- Paths in order, each once. -/
def sortPaths (paths : List String) : List String :=
  dropRepeats (paths.mergeSort fun a b => partsLe (parts a) (parts b))

def endsWithSlash (path : String) : Bool := path.toList.getLast? == some '/'

/-- A path inside a directory. -/
def join (dir path : String) : String :=
  if endsWithSlash dir then dir ++ path else dir ++ "/" ++ path

end WireShapes.Command
