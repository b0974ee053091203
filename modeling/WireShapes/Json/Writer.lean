import WireShapes.Instant.Basic
import WireShapes.Json.Document
import WireShapes.Json.Escape
import WireShapes.Text.Base64

/-!
JSON text without blanks.

* `Node`: what is to be written; keys of an object need not be distinct
* `Node.write`: its text
* `Node.ofDocument`
-/

namespace WireShapes.Json

/-- A value to be written. -/
inductive Node
  | null
  | bool (value : Bool)
  | string (value : String)
  | number (value : Number)
  | blob (bytes : List UInt8)
  | time (value : Instant) (format : TimeFormat)
  | array (items : List Node)
  | object (entries : List (String × Node))
deriving Repr, Inhabited

/-- A text as a literal. -/
def quoted (s : String) : String := "\"" ++ escape s ++ "\""

/-- The text of a number; what is not finite is written as a string. -/
def writeNumber (n : Number) : String :=
  match n with
  | .real x =>
    if x.isNaN then "\"NaN\""
    else if x.isInfinite then (if x.negative then "\"-Infinity\"" else "\"Infinity\"")
    else n.text
  | _ => n.text

/-- Epoch seconds are bare numbers, the other formats are strings. -/
def writeTime (t : Instant) (format : TimeFormat) : String :=
  match format with
  | .epochSeconds => t.write format
  | _ => quoted (t.write format)

mutual

def Node.write : Node → String
  | .null => "null"
  | .bool value => if value then "true" else "false"
  | .string value => quoted value
  | .number value => writeNumber value
  | .blob bytes => quoted (Base64.encode bytes)
  | .time value format => writeTime value format
  | .array items => "[" ++ ",".intercalate (writeItems items) ++ "]"
  | .object entries => "\x7b" ++ ",".intercalate (writeEntries entries) ++ "\x7d"

def writeItems : List Node → List String
  | [] => []
  | item :: rest => item.write :: writeItems rest

def writeEntries : List (String × Node) → List String
  | [] => []
  | (key, value) :: rest => (quoted key ++ ":" ++ value.write) :: writeEntries rest

end

mutual

def Node.ofDocument : Document → Node
  | .object entries => .object (nodesOfEntries entries)
  | .array items => .array (nodesOfItems items)
  | .number value => .number value
  | .string value => .string value
  | .bool value => .bool value
  | .null => .null

def nodesOfItems : List Document → List Node
  | [] => []
  | item :: rest => Node.ofDocument item :: nodesOfItems rest

def nodesOfEntries : List (String × Document) → List (String × Node)
  | [] => []
  | (key, value) :: rest => (key, Node.ofDocument value) :: nodesOfEntries rest

end

end WireShapes.Json
