import WireShapes.Model.Shape
import WireShapes.Numeric.Decimal

/-!
Bounds in generated code.

* `lengthViolated`, `rangeViolated`: the condition under which a value is outside its bounds
* `describeLength`: the bounds in words
* `boundLiteral`: a bound as a literal of the type of the number
-/

namespace WireShapes

/-- The condition under which a length is outside its bounds, if there are any. -/
def lengthViolated (var : String) (bounds : LengthBounds) : Option String :=
  match bounds.min, bounds.max with
  | some min, some max => some s!"!({min}..={max}).contains(&{var})"
  | some min, none => some s!"{var} < {min}"
  | none, some max => some s!"{var} > {max}"
  | none, none => none

def describeLength (bounds : LengthBounds) : String :=
  match bounds.min, bounds.max with
  | some min, some max => s!"between {min} and {max}, inclusive"
  | some min, none => s!"at least {min}"
  | none, some max => s!"at most {max}"
  | none, none => "unconstrained"

/-- The integer part of a bound, clamped to 64 bits. -/
def boundInteger (bound : Double) : Int :=
  bound.truncate (-0x8000000000000000) 0x7FFFFFFFFFFFFFFF

/-- A bound as a literal of an integer type or of a floating-point type; in the latter an integer has
all its digits and one place. -/
def boundLiteral (bound : Double) (integer : Bool) : String :=
  if integer then toString (boundInteger bound)
  else if bound.isInteger then
    (if bound.negative then "-" else "") ++ toString bound.absRat.floor ++ ".0"
  else Decimal.plain.write bound

/-- The condition under which a number is outside its bounds, if there are any. -/
def rangeViolated (var : String) (bounds : RangeBounds) (integer : Bool) : Option String :=
  let below := bounds.min.map fun min => var ++ " < " ++ boundLiteral min integer
  let above := bounds.max.map fun max => var ++ " > " ++ boundLiteral max integer
  match below, above with
  | some below, some above => some (below ++ " || " ++ above)
  | some check, none => some check
  | none, some check => some check
  | none, none => none

end WireShapes
