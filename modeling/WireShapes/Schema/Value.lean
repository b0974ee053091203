import WireShapes.Entries

/-!
Values of shapes, before and after they are checked.

* `Value`: a value as a program holds it
* `Draft`: what has been read or set so far, with or without the members that it needs
* `Flavour`: the side of the wire that holds the values
* `setField`, `setFields`: members given to a draft; the last one counts
-/

namespace WireShapes.Schema

/-- A value as a program holds it. The fields of a structure are those that are present, in the order
in which the structure declares them. -/
inductive Value
  | text (s : String)
  | integer (n : Int)
  | boolean (b : Bool)
  | blob (bytes : List UInt8)
  /-- A constant of an enumeration, by its text on the wire. -/
  | symbol (s : String)
  | list (items : List Value)
  | struct (fields : List (String × Value))
  | variant (name : String) (value : Value)
  /-- A variant that the union does not list. -/
  | unknown
  /-- An end of an event stream. -/
  | stream
  /-- A value in the type that only values within the rules of its shape have. -/
  | constrained (value : Value)
deriving Repr, Inhabited

/-- A value that is still to be checked. The fields of a structure are in no particular order. -/
inductive Draft
  | text (s : String)
  | integer (n : Int)
  | boolean (b : Bool)
  | blob (bytes : List UInt8)
  | list (items : List Draft)
  | struct (fields : List (String × Draft))
  | variant (name : String) (value : Draft)
  /-- A part that has been checked already. -/
  | built (value : Value)
deriving Repr, Inhabited

/-- The side of the wire that holds the values. -/
inductive Flavour
  /-- Asks for the members that have to be there and for nothing else. -/
  | client
  /-- Checks every rule, and holds what a rule is about in a type of its own. -/
  | server
  /-- Checks every rule, and holds the values as they came. -/
  | internal
deriving DecidableEq, Repr

def Flavour.checks : Flavour → Bool
  | client => false
  | server => true
  | internal => true

namespace Value

def get? (name : String) : Value → Option Value
  | struct fields => Entries.get? name fields
  | _ => none

/-- The structure with the fields of these names only. -/
def only (names : List String) : Value → Value
  | struct fields => struct (fields.filter fun f => names.contains f.1)
  | v => v

/-- A simple value as a text of a URI or of a header field. -/
def plain : Value → String
  | text s => s
  | symbol s => s
  | integer n => toString n
  | boolean b => if b then "true" else "false"
  | constrained v => v.plain
  | _ => ""

/-- The texts of the items of a list, or of a simple value. -/
def plains : Value → List String
  | list items => items.map plain
  | v => [v.plain]

end Value

/-- The fields of a draft of a structure after one of them is given or taken away. -/
def setField (fields : List (String × Draft)) (name : String) : Option Draft → List (String × Draft)
  | some d => Entries.insert name d fields
  | none => Entries.erase name fields

/-- The fields after members are set one after the other. -/
def setFields (calls : List (String × Option Draft)) : List (String × Draft) :=
  calls.foldl (fun fields call => setField fields call.1 call.2) []

end WireShapes.Schema
