import WireShapes.Schema.Value

/-!
The shapes of a service as data, as far as its values on the wire go.

* `Shape`: what values of a shape are and which rules they keep
* `Member`, `Place`: a part of a structure or a union, and the part of a message it travels in
* `Schema`: the shapes of all names
-/

namespace WireShapes

namespace Schema

/-- All from a least to a greatest. -/
structure Interval (α : Type) where
  least : α
  greatest : α
deriving DecidableEq, Repr

namespace Interval

variable {α : Type}

def contains [LE α] [DecidableLE α] (i : Interval α) (x : α) : Bool :=
  decide (i.least ≤ x) && decide (x ≤ i.greatest)

def describe [ToString α] (i : Interval α) : String :=
  s!"between {i.least} and {i.greatest}, inclusive"

end Interval

/-- What restricts a text: the number of its characters, and a pattern that is found in it. -/
structure TextRule where
  length : Option (Interval Nat)
  pattern : Option String
deriving DecidableEq, Repr

/-- A text of any kind. -/
def TextRule.free : TextRule := ⟨none, none⟩

/-- The part of a message that a member travels in. -/
inductive Place
  /-- An entry of the object in the body. -/
  | body
  | label
  | query (name : String)
  | header (name : String)
  /-- The body is an event stream. -/
  | stream
  /-- A header field of an event. -/
  | eventHeader
  /-- The bytes of an event. -/
  | eventPayload
deriving DecidableEq, Repr

/-- A member of a structure or a union. A required member without a default has to be given. -/
structure Member (ν : Type) where
  name : String
  target : ν
  required : Bool := false
  default : Option Value := none
  place : Place := .body
deriving Repr

/-- What values of a shape are; shapes inside are referred to by name. -/
inductive Shape (ν : Type)
  | text (rule : TextRule)
  /-- An integer of 32 bits. -/
  | integer (range : Option (Interval Int))
  | boolean
  | blob
  /-- The names of the constants and their texts on the wire. -/
  | enumeration (constants : List (String × String))
  | list (item : ν)
  | struct (members : List (Member ν))
  | union (members : List (Member ν))
  | stream
deriving Repr

end Schema

/-- The shapes of a service. -/
structure Schema (ν : Type) where
  space : String
  name : ν → String
  shape : ν → Schema.Shape ν

namespace Schema

variable {ν : Type} (S : Schema ν)

/-- The name of a shape with its namespace. -/
def shapeId (n : ν) : String := s!"{S.space}#{S.name n}"

/-- The members of a structure or a union, in the order of their declaration. -/
def members (n : ν) : List (Member ν) :=
  match S.shape n with
  | .struct members => members
  | .union members => members
  | _ => []

/-- The shape of a member; a name that is none of a member stands for the shape itself. -/
def target (n : ν) (name : String) : ν :=
  (((S.members n).find? (·.name == name)).map (·.target)).getD n

def item (n : ν) : ν :=
  match S.shape n with
  | .list item => item
  | _ => n

end Schema

end WireShapes
