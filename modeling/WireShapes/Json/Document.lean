import WireShapes.Entries
import WireShapes.Numeric.Number

/-!
Documents: values of no particular shape. Keys of an object are distinct and keep their order.
-/

namespace WireShapes.Json

/-- A value of no particular shape. -/
inductive Document
  | object (entries : List (String × Document))
  | array (items : List Document)
  | number (value : Number)
  | string (value : String)
  | bool (value : Bool)
  | null
deriving Repr, Inhabited

namespace Document

def entries? : Document → Option (List (String × Document))
  | object entries => some entries
  | _ => none

def items? : Document → Option (List Document)
  | array items => some items
  | _ => none

def string? : Document → Option String
  | string value => some value
  | _ => none

def number? : Document → Option Number
  | number value => some value
  | _ => none

def bool? : Document → Option Bool
  | bool value => some value
  | _ => none

def isNull : Document → Bool
  | null => true
  | _ => false

end Document

end WireShapes.Json
