import WireShapes.Json.Writer
import WireShapes.Schema.Shape

/-!
JSON of values.

* `Value.toNode`: what is written for a value; ends of event streams are left out
* `Value.toJson`: its text
* `bodyBytes`: the members of a structure that travel in a body
-/

namespace WireShapes.Schema

mutual

/-- What is written for a value. A variant is an object of one entry. -/
def Value.toNode : Value → Json.Node
  | .text s => .string s
  | .symbol s => .string s
  | .integer n => .number (Number.ofInt n)
  | .boolean b => .bool b
  | .blob bytes => .blob bytes
  | .list items => .array (itemNodes items)
  | .struct fields => .object (fieldNodes fields)
  | .variant name v => .object [(name, v.toNode)]
  | .unknown => .object []
  | .stream => .null
  | .constrained v => v.toNode

def itemNodes : List Value → List Json.Node
  | [] => []
  | v :: rest => v.toNode :: itemNodes rest

def fieldNodes : List (String × Value) → List (String × Json.Node)
  | [] => []
  | (_, .stream) :: rest => fieldNodes rest
  | (name, v) :: rest => (name, v.toNode) :: fieldNodes rest

end

def Value.toJson (v : Value) : String := v.toNode.write

def bodyMembers {ν : Type} (members : List (Member ν)) : List (Member ν) :=
  members.filter fun m => decide (m.place = .body)

/-- The object of the members that travel in the body. -/
def bodyBytes {ν : Type} (members : List (Member ν)) (v : Value) : List UInt8 :=
  Utf8.encode (v.only ((bodyMembers members).map (·.name))).toJson

end WireShapes.Schema
