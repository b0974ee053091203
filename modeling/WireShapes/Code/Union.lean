import WireShapes.Code.Items

/-!
Unions.

* `Scope.streamEvents`, `Scope.streamErrors`: the members of an event stream by what they target
* `Scope.unionVariants`, `Scope.union`: the variants of a union, and its type
* `Scope.constrainedUnion`: the raw values of a constrained union and their validation
-/

namespace WireShapes.Code

/-- Members of a union with whether they target an error. -/
def Scope.unionMembers (s : Scope) (shape : Shape) : Except ModelError (List (Member × Bool)) :=
  match shape.kind with
  | .union members => members.mapM fun member => do .ok (member, (← s.model.target member).isError)
  | _ => .error (.unsupported shape.id .notUnion)

def Scope.streamEvents (s : Scope) (shape : Shape) : Except ModelError (List Member) := do
  .ok (((← s.unionMembers shape).filter fun m => !m.2).map (·.1))

def Scope.streamErrors (s : Scope) (shape : Shape) : Except ModelError (List Member) := do
  .ok (((← s.unionMembers shape).filter fun m => m.2).map (·.1))

/-- The variants of a union; an event stream has only its events. -/
def Scope.unionVariants (s : Scope) (shape : Shape) : Except ModelError (List Member) :=
  if shape.isEventStream then s.streamEvents shape else .ok shape.members

def Scope.variantType (s : Scope) (form : Form) (member : Member) : Except ModelError String := do
  .ok { (← s.memberType form member) with optional := false }.render

def variantAccessors (name : String) (member : Member) (type : String) : List Step :=
  let stem := Text.snakeCase member.name
  [method s!"pub fn as_{stem}(&self) -> ::std::result::Result<&{type}, &Self>"
      [s!"if let {name}::{pascal member.name}(value) = self \x7b Ok(value) \x7d else \x7b Err(self) \x7d"],
    .blank,
    method s!"pub fn is_{stem}(&self) -> bool" [s!"self.as_{stem}().is_ok()"],
    .blank]

def Scope.union (s : Scope) (shape : Shape) : Except ModelError (List Step) := do
  let name := typeName shape.id
  let variants ← s.unionVariants shape
  match variants.find? fun m => m.target.text = "smithy.api#Unit" with
  | some unit => .error (.unsupported shape.id (.unitMember unit.name))
  | none => pure ()
  let client := !s.isServer
  let unknown := unknownVariant (variants.map (·.name))
  let typed ← variants.mapM fun m => do .ok (m, ← s.variantType .exposed m)
  let type : List Step :=
    [.docs shape.traits.documentation, .line "#[derive(Debug, Clone, PartialEq)]"]
      ++ (if client then [.line "#[non_exhaustive]"] else [])
      ++ [block s!"pub enum {name}"
          ((typed.flatMap fun (m, type) =>
              [.docs m.traits.documentation, .line s!"{pascal m.name}({type}),"])
            ++ (if client then
                lines ["/// A variant this version of the model does not know about.", unknown ++ ","]
              else [])),
        .blank]
  let accessors : List Step :=
    [block s!"impl {name}"
        ((typed.flatMap fun (m, type) => variantAccessors name m type)
          ++ (if client then [method "pub fn is_unknown(&self) -> bool" [s!"matches!(self, Self::{unknown})"]]
            else [])),
      .blank]
  .ok (type ++ accessors)

/-- How a variant is validated: the variant of the violation and how it is shown, if it can fail, and
the conversion. -/
structure VariantConversion where
  violation : Option (String × String)
  conversion : String

/-- The validation of a variant. -/
def variantConversion (s : Scope) (shape : Shape) (member : Member) : Except ModelError VariantConversion := do
  let name := typeName shape.id
  let module := moduleName shape.id
  let variant := pascal member.name
  let target ← s.model.target member
  if !s.isConstrained target.id then
    .ok ⟨none, s!"{module}::Unconstrained::{variant}(value) => {name}::{variant}(value),"⟩
  else
    let nested := s.violationType target.id
    let constrained ← s.typeText .constrained target
    let toPublic := s.toPublic target
    let arm :=
      s!"Self::{variant}(violation) => write!(f, \"`{member.name}` of `{shape.id.text}`: \x7b\x7d\", violation),"
    if member.traits.boxed then
      .ok ⟨some (s!"{variant}(::std::boxed::Box<{nested}>),", arm),
        s!"{module}::Unconstrained::{variant}(value) => {name}::{variant}(::std::boxed::Box::new(\n    {constrained}::try_from(*value)\n        .map_err(|err| {module}::ConstraintViolation::{variant}(::std::boxed::Box::new(err)))?{toPublic},\n)),"⟩
    else
      .ok ⟨some (s!"{variant}({nested}),", arm),
        s!"{module}::Unconstrained::{variant}(value) => {name}::{variant}(\n    {constrained}::try_from(value).map_err({module}::ConstraintViolation::{variant})?{toPublic},\n),"⟩

/-- The raw values of a union, and their validation. -/
def Scope.constrainedUnion (s : Scope) (shape : Shape) : Except ModelError ShapeItems :=
  match shape.kind with
  | .union members => do
    let name := typeName shape.id
    let module := moduleName shape.id
    let raw ← members.mapM fun m => do
      let type ← s.variantType .raw m
      .ok s!"{pascal m.name}({type}),"
    let conversions ← members.mapM (variantConversion s shape)
    let violations := conversions.filterMap (·.violation)
    .ok ⟨[tryFromImpl name s!"{module}::Unconstrained" "value" s!"{module}::ConstraintViolation"
          [.block "Ok(match value" "\x7d)" (lines (conversions.map (·.conversion)))],
        .blank,
        constrainedImpl s name s!"{module}::Unconstrained",
        .blank],
      [.line "#[derive(Debug, Clone)]", method "pub enum Unconstrained" raw, .blank]
        ++ violationEnum "Debug, Clone, PartialEq" (violations.map (·.1)) (violations.map (·.2))⟩
  | _ => .error (.unsupported shape.id .notUnion)

end WireShapes.Code
