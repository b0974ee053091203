import WireShapes.Text.Percent
import WireShapes.Text.Split

/-!
URI templates such as `/records/\x7bid\x7d/files/\x7bpath+\x7d`.

* `writeLabel`: the value of a label in a path; a greedy label keeps its slashes
* `matchPath`: the values of the labels of a template in a path
* `uriPieces`: a template cut into literal texts and labels
-/

namespace WireShapes.Http

/-- The value of a label in a path. -/
def writeLabel (value : String) (greedy : Bool) : String :=
  if greedy then
    "/".intercalate ((Text.splitOn '/' value.toList).map fun part => Percent.encode (String.ofList part))
  else Percent.encode value

inductive Segment
  | literal (text : List Char)
  | label (name : List Char)
  | greedy (name : List Char)
deriving DecidableEq, Repr

/-- A segment in braces is a label; a plus sign before the closing brace makes it greedy. -/
def Segment.ofChars (cs : List Char) : Segment :=
  match cs with
  | '\x7b' :: body =>
    if body.getLast? = some '\x7d' then
      let name := body.dropLast
      if name.getLast? = some '+' then .greedy (Text.trimRight (· == '+') name) else .label name
    else .literal cs
  | _ => .literal cs

/-- The parts of a path; slashes at its start are dropped. -/
def pathSegments (path : List Char) : List (List Char) :=
  Text.splitOn '/' (path.dropWhile (· == '/'))

/-- The value of a label, percent signs decoded. -/
def labelValue? (raw : List Char) : Option String :=
  match Percent.decode (String.ofList raw) with
  | .ok t => some t
  | .error _ => none

/-- The labels of the segments in the parts of a path. A greedy label leaves one part for each
segment after it. -/
def matchSegments : List Segment → List (List Char) → Option (List (String × String))
  | [], [] => some []
  | [], _ :: _ => none
  | .literal text :: segments, parts =>
    match parts with
    | part :: rest => if part = text then matchSegments segments rest else none
    | [] => none
  | .label name :: segments, parts =>
    match parts with
    | part :: rest =>
      if part.isEmpty then none
      else do
        let value ← labelValue? part
        let more ← matchSegments segments rest
        some ((String.ofList name, value) :: more)
    | [] => none
  | .greedy name :: segments, parts =>
    let take := parts.length - segments.length
    if take = 0 then none
    else do
      let value ← labelValue? (Text.joinWith ['/'] (parts.take take))
      let more ← matchSegments segments (parts.drop take)
      some ((String.ofList name, value) :: more)

/-- The segments of a template, whose query is left out. -/
def templateSegments (template : String) : List Segment :=
  (pathSegments (template.toList.takeWhile (· != '?'))).map Segment.ofChars

/-- The labels of a template with their values in a path. -/
def matchPath (template path : String) : Option (List (String × String)) :=
  matchSegments (templateSegments template) (pathSegments path.toList)

/-- A part of a template: a text, or a label. -/
inductive UriPiece
  | literal (text : String)
  | label (name : String) (greedy : Bool)
deriving DecidableEq, Repr

/-- The pieces of the characters; every label takes two of them at least. -/
def piecesFrom : Nat → List Char → List UriPiece
  | 0, _ => []
  | rounds + 1, cs =>
    let literal (text : List Char) : List UriPiece :=
      if text.isEmpty then [] else [.literal (String.ofList text)]
    match cs.dropWhile (· != '\x7b') with
    | [] => literal cs
    | _ :: body =>
      match body.dropWhile (· != '\x7d') with
      | [] => literal cs
      | _ :: rest =>
        let name := body.takeWhile (· != '\x7d')
        literal (cs.takeWhile (· != '\x7b'))
          ++ .label (String.ofList (Text.trimRight (· == '+') name)) (name.getLast? == some '+')
          :: piecesFrom rounds rest

/-- The pieces of a template in order. A brace that is not closed is a literal. -/
def uriPieces (uri : String) : List UriPiece := piecesFrom (uri.length + 1) uri.toList

end WireShapes.Http
