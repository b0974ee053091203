import WireShapes.Code.TypeRef
import WireShapes.Constraint.Bounds
import WireShapes.Text.Base64

/-!
Default values as expressions.

* `Scope.defaultLiteral`: the default of a member as an expression of the type before validation
* `bytesLiteral`: bytes as an expression
-/

namespace WireShapes

/-- Positional from `1e-4` to below `1e16`, integers with a fraction. -/
def Decimal.literal : Decimal.Layout where
  tie := .up
  minPoint := -3
  maxPoint := 16
  keepFraction := true
  plusExponent := false
  nan := "NaN"
  infinity := "inf"

namespace Code

def bytesLiteral (bytes : List UInt8) : String :=
  if bytes.isEmpty then "::std::vec::Vec::<u8>::new()"
  else "::std::vec![" ++ ", ".intercalate (bytes.map fun b => toString b.toNat ++ "u8") ++ "]"

/-- A text as an owned string. -/
def stringLiteral (text : String) : String := s!"::std::string::String::from({Text.quote text})"

def boolLiteral (flag : Bool) : String := if flag then "true" else "false"

/-- The default of a member as an expression of the type of its target before validation. -/
def Scope.defaultLiteral (s : Scope) (member : Member) (target : Shape) (value : Source.Value) :
    Except ModelError String :=
  match target.kind, value with
  | .string, .string text => .ok (stringLiteral text)
  | .enum _, .string text =>
    if s.isServer then .ok (stringLiteral text)
    else .ok s!"{s.namedType target.id}::from({Text.quote text})"
  | .boolean, .bool flag => .ok (boolLiteral flag)
  | .number kind, .number n => do
    let suffix ← s.newtypeInner target
    .ok s!"{boundLiteral n.toDouble kind.isInteger}_{suffix}"
  | .blob, .string encoded =>
    match Base64.decode encoded with
    | .ok bytes => .ok s!"{s.rt}::Blob::new({bytesLiteral bytes})"
    | .error e =>
      .error (.invalidTrait target.id "smithy.api#default" (.defaultEncoding member.name e.message))
  | .timestamp, .number n => .ok s!"{s.rt}::DateTime::from_secs_f64({Decimal.literal.write n.toDouble})"
  | .document, .null => .ok s!"{s.rt}::Document::Null"
  | .document, .bool flag => .ok s!"{s.rt}::Document::Bool({boolLiteral flag})"
  | .document, .string text => .ok s!"{s.rt}::Document::String({stringLiteral text})"
  | .list _, .array [] => .ok "::std::vec::Vec::new()"
  | .map _ _, .object [] => .ok "::std::collections::HashMap::new()"
  | _, _ => .error (.invalidTrait target.id "smithy.api#default" (.default value member.name))

end Code

end WireShapes
