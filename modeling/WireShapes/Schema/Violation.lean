import WireShapes.Schema.Shape
import WireShapes.Text.Casing
import WireShapes.Text.Quoted

/-!
Why a draft is no value of its shape.

* `Violation`: the rule that is broken, below the members, items and variants that lead to it
* `Violation.message`
* `Violation.kind`: the name of the outermost cause
-/

namespace WireShapes.Schema

/-- A broken rule and the way to it. Shapes stand by their ids. -/
inductive Violation
  | length (shape : String) (found : Nat) (bounds : Interval Nat)
  | pattern (shape : String) (found wanted : String)
  | range (shape : String) (found : Int) (bounds : Interval Int)
  /-- A text that is no constant of the enumeration. -/
  | constant (shape : String) (found : String) (listed : List String)
  /-- A member that has to be there and is not. -/
  | missing (structureName name : String)
  | member (name : String) (cause : Violation)
  | item (shape : String) (index : Nat) (cause : Violation)
  | variant (shape name : String) (cause : Violation)
deriving DecidableEq, Repr

namespace Violation

def message : Violation → String
  | length shape found bounds =>
    s!"value with length {found} provided for `{shape}` must have a length {bounds.describe}"
  | pattern shape found wanted =>
    s!"value `{found}` provided for `{shape}` does not match the pattern `{wanted}`"
  | range shape found bounds => s!"value {found} provided for `{shape}` must be {bounds.describe}"
  | constant shape found listed =>
    let texts := ", ".intercalate (listed.map Text.quote)
    s!"value `{found}` provided for `{shape}` is not one of [{texts}]"
  | missing structureName name =>
    s!"`{name}` was not provided but it is required when building `{structureName}`"
  | member name cause => s!"`{name}`: {cause.message}"
  | item shape index cause => s!"member {index} of `{shape}`: {cause.message}"
  | variant shape name cause => s!"`{name}` of `{shape}`: {cause.message}"

/-- The name of the outermost cause. -/
def kind : Violation → String
  | length .. => "Length"
  | pattern .. => "Pattern"
  | range .. => "Range"
  | constant .. => "ConstraintViolation"
  | missing _ name => "Missing" ++ Text.camelCase name
  | member name _ => Text.camelCase name
  | item .. => "Member"
  | variant _ name _ => Text.camelCase name

end Violation

end WireShapes.Schema
