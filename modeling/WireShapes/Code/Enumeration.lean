import WireShapes.Code.Items

/-!
Enumerations. On a server the listed values are all there are, and any other is a violation; a client
keeps other values in a variant of their own.
-/

namespace WireShapes.Code

/-- Conversions of a closed enumeration, and its violation. -/
def closedConversions (s : Scope) (shape : Shape) (variants : List Variant) : ShapeItems :=
  let name := typeName shape.id
  let module := moduleName shape.id
  let violation := s!"{module}::ConstraintViolation"
  let arms :=
    (variants.map fun v => s!"{Text.quote v.value} => Ok({name}::{pascal v.name}),")
      ++ [s!"_ => Err({violation}(value.to_owned())),"]
  ⟨[tryFromImpl name "&str" "value" violation [method "match value" arms],
      .blank,
      tryFromImpl name stringType "value" violation [.line "Self::try_from(value.as_str())"],
      .blank,
      block s!"impl ::std::str::FromStr for {name}"
        [.line s!"type Err = {violation};", .blank,
          method "fn from_str(value: &str) -> ::std::result::Result<Self, Self::Err>" ["Self::try_from(value)"]],
      .blank,
      constrainedImpl s name stringType,
      .blank],
    [.line "/// The rejected value.",
      .line "#[derive(Debug, Clone, PartialEq, Eq)]",
      .line s!"pub struct ConstraintViolation(pub(crate) {stringType});",
      .blank,
      block "impl ConstraintViolation" [method "pub fn value(&self) -> &str" ["&self.0"]],
      .blank,
      displayImpl "ConstraintViolation"
        [.line s!"write!(f, \"value `\x7b\x7d` provided for `{shape.id.text}` is not one of \x7b:?\x7d\", self.0, super::{name}::values())"],
      .blank,
      errorImpl "ConstraintViolation"]⟩

/-- Conversions of an enumeration that keeps other values. -/
def openConversions (shape : Shape) (variants : List Variant) (unknown : String) : ShapeItems :=
  let name := typeName shape.id
  let arms :=
    (variants.map fun v => s!"{Text.quote v.value} => {name}::{pascal v.name},")
      ++ [s!"other => {name}::{unknown}(other.to_owned()),"]
  ⟨[block s!"impl ::std::convert::From<&str> for {name}"
        [block "fn from(value: &str) -> Self" [method "match value" arms]],
      .blank,
      block s!"impl ::std::str::FromStr for {name}"
        [.line "type Err = ::std::convert::Infallible;", .blank,
          method "fn from_str(value: &str) -> ::std::result::Result<Self, Self::Err>"
            [s!"Ok({name}::from(value))"]],
      .blank],
    []⟩

def Scope.enumeration (s : Scope) (shape : Shape) : Except ModelError ShapeItems :=
  match shape.kind with
  | .enum variants =>
    let name := typeName shape.id
    let unknown := unknownVariant (variants.map (·.name))
    let client := !s.isServer
    let type : List Step :=
      [.docs shape.traits.documentation,
        .line "#[derive(Debug, Clone, PartialEq, Eq, Hash, PartialOrd, Ord)]"]
        ++ (if client then [.line "#[non_exhaustive]"] else [])
        ++ [block s!"pub enum {name}"
            ((variants.flatMap fun v => [.docs v.documentation, .line (pascal v.name ++ ",")])
              ++ (if client then
                  [.line "/// A value this version of the model does not list.",
                    .line s!"{unknown}({stringType}),"]
                else [])),
          .blank]
    let asStr :=
      (variants.map fun v => s!"{name}::{pascal v.name} => {Text.quote v.value},")
        ++ (if client then [s!"{name}::{unknown}(value) => value.as_str(),"] else [])
    let values := ", ".intercalate (variants.map fun v => Text.quote v.value)
    let accessors : List Step :=
      [block s!"impl {name}"
          [.line "/// The wire value.",
            block "pub fn as_str(&self) -> &str" [method "match self" asStr],
            .blank,
            .line "/// Every listed wire value, in model order.",
            method "pub const fn values() -> &'static [&'static str]" [s!"&[{values}]"]],
        .blank]
    let conversions :=
      if client then openConversions shape variants unknown else closedConversions s shape variants
    let views : List Step :=
      [block s!"impl ::std::convert::AsRef<str> for {name}"
          [method "fn as_ref(&self) -> &str" ["self.as_str()"]],
        .blank,
        displayImpl name [.line "f.write_str(self.as_str())"],
        .blank]
    .ok ⟨type ++ accessors ++ conversions.top ++ views, conversions.inner⟩
  | _ => .error (.unsupported shape.id .notEnum)

end WireShapes.Code
