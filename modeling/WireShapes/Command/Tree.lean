import WireShapes.Command.Glob
import WireShapes.Command.Path
import WireShapes.Entries

/-!
Files in memory.

* `Tree`: files by the names that lead to them
* `Tree.read?`, `Tree.write?`: directories on the way to a written file are made
* `Tree.glob?`: the paths that a pattern matches
-/

namespace WireShapes.Command

/-- Files, each at a place: the names that lead to it. -/
structure Tree where
  files : List (List String × String)
deriving Repr, Inhabited

namespace Tree

def isDir (t : Tree) (place : List String) : Bool :=
  place.isEmpty || t.files.any fun f => place.isPrefixOf f.1 && place.length < f.1.length

def file? (t : Tree) (place : List String) : Option String := Entries.get? place t.files

def holds (t : Tree) (place : List String) : Bool := t.isDir place || (t.file? place).isSome

/-- The place of a path, all of whose directories are there. -/
def resolve? (t : Tree) (place : List String) : List Part → Option (List String)
  | [] => some place
  | part :: rest =>
    if t.isDir place then
      match part with
      | .root => none
      | .here => t.resolve? place rest
      | .up => if place.isEmpty then none else t.resolve? place.dropLast rest
      | .name name => t.resolve? (place ++ [name]) rest
    else none

def read? (t : Tree) (path : String) : Option String :=
  if endsWithSlash path then none
  else (t.resolve? [] (parts path)).bind t.file?

/-- The place of a path, none of whose directories is a file. -/
def place? (t : Tree) (place : List String) : List Part → Option (List String)
  | [] => some place
  | part :: rest =>
    if (t.file? place).isSome then none
    else
      match part with
      | .root => none
      | .here => t.place? place rest
      | .up => if place.isEmpty then none else t.place? place.dropLast rest
      | .name name => t.place? (place ++ [name]) rest

/-- The tree with a file written, if it can be. -/
def write? (t : Tree) (path text : String) : Option Tree :=
  match (parts path).getLast? with
  | some (.name _) =>
    if endsWithSlash path then none
    else do
      let place ← t.place? [] (parts path)
      if t.isDir place then none else some ⟨Entries.insert place text t.files⟩
  | _ => none

/-! ### Patterns -/

/-- A file or directory under the path by which it was found. -/
structure Found where
  path : String
  place : List String
deriving DecidableEq, Repr

/-- What is found under a name next. -/
def Found.next (e : Found) (name : String) (place : List String) : Found :=
  ⟨if e.path = "." then name else join e.path name, place⟩

def children (t : Tree) (e : Found) : List Found :=
  (t.files.filterMap fun f =>
    if e.place.isPrefixOf f.1 then f.1[e.place.length]? else none).eraseDups.map fun name =>
      e.next name (e.place ++ [name])

/-- What a directory holds, and what is below it, down to a depth. -/
def descendants (t : Tree) : Nat → Found → List Found
  | 0, _ => []
  | depth + 1, e => (t.children e).flatMap fun c => c :: t.descendants depth c

def depth (t : Tree) : Nat := (t.files.map fun f => f.1.length).foldl max 0

/-- The directory itself or the one above it, by a pattern that starts with a dot. -/
def dots (p : NamePattern) (e : Found) : List Found :=
  if p.startsWithDot then
    (if p.matches "." then [⟨join e.path ".", e.place⟩] else [])
      ++ (if p.matches ".." then [⟨join e.path "..", e.place.dropLast⟩] else [])
  else []

/-- What patterns match below a place. -/
def expand (t : Tree) : List NamePattern → Found → List Found
  | [], e => [e]
  | p :: rest, e =>
    match p.literal? with
    | some "." => if t.isDir e.place then t.expand rest (e.next "." e.place) else []
    | some ".." =>
      if t.isDir e.place && !e.place.isEmpty then t.expand rest (e.next ".." e.place.dropLast) else []
    | some name =>
      let place := if name.isEmpty then e.place else e.place ++ [name]
      if t.isDir e.place && t.holds place then t.expand rest (e.next name place) else []
    | none =>
      if p.isRecursive then
        let below := t.descendants t.depth e
        match rest with
        | [] => below.filter fun c => t.isDir c.place
        | q :: more =>
          if q.isRecursive then t.expand (q :: more) e
          else (below.filter fun c => q.matches (c.place.getLast?.getD "")).flatMap (t.expand more)
      else
        (((t.children e).filter fun c => p.matches (c.place.getLast?.getD "")) ++ dots p e).flatMap
          (t.expand rest)

/-- The paths that a pattern matches, if it is well-formed. -/
def glob? (t : Tree) (pattern : String) : Option (List String) := do
  let patterns ← globParts? pattern
  let found :=
    if pattern.startsWith "/" then [] else t.expand patterns ⟨".", []⟩
  some ((found.filter fun e => !endsWithSlash pattern || t.isDir e.place).map (·.path))

end Tree

end WireShapes.Command
