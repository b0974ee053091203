import WireShapes.Code.Items
import WireShapes.Constraint.Bounds

/-!
Types of validated values.

* `Scope.newtype`: the type of a constrained string, number, blob, list or map, with its conversion
  from the raw value and its violations

The length is checked first, then the pattern of a string, or the elements of a list and the entries
of a map in order.
-/

namespace WireShapes.Code

/-- The type, its accessors and its conversion back. -/
def newtypeType (s : Scope) (shape : Shape) (derives inner raw : String) (more : List Step) :
    List Step :=
  let name := typeName shape.id
  let visibility := if s.hasPublicNewtype shape then "pub" else "pub(crate)"
  [.docs shape.traits.documentation,
    .line s!"#[derive({derives})]",
    .line s!"{visibility} struct {name}(pub(crate) {inner});",
    .blank]
    ++ more
    ++ [block s!"impl {name}"
        [.line "/// Borrows the validated value.",
          method s!"{visibility} fn inner(&self) -> &{inner}" ["&self.0"],
          .blank,
          method s!"{visibility} fn into_inner(self) -> {inner}" ["self.0"]],
      .blank,
      constrainedImpl s name raw,
      .blank,
      block s!"impl ::std::convert::From<{name}> for {inner}"
        [method s!"fn from(value: {name}) -> Self" ["value.into_inner()"]],
      .blank]

/-- Leaves with a violation if the condition holds. -/
def refuse (condition violation : String) : Step :=
  method s!"if {condition}" [s!"return Err({violation});"]

/-- The check of a length, which `measure` computes. -/
def lengthCheck (bounds : Option LengthBounds) (measure module : String) : List Step :=
  match bounds.bind (lengthViolated "length") with
  | some condition =>
    [.line s!"let length = {measure};",
      refuse condition s!"{module}::ConstraintViolation::Length(length)"]
  | none => []

def violationOf (module : String) : String := s!"{module}::ConstraintViolation"

def stringNewtype (s : Scope) (shape : Shape) : ShapeItems :=
  let name := typeName shape.id
  let module := moduleName shape.id
  let id := shape.id.text
  let visibility := if s.hasPublicNewtype shape then "pub" else "pub(crate)"
  let length := shape.traits.length
  let pattern := shape.traits.pattern
  let asStr := [method s!"impl {name}" [s!"{visibility} fn as_str(&self) -> &str \x7b", "    &self.0", "\x7d"], .blank]
  let patternCheck := match pattern with
    | some _ => [refuse s!"!{module}::PATTERN.is_match(&value)" s!"{module}::ConstraintViolation::Pattern(value)"]
    | none => []
  let top :=
    newtypeType s shape "Debug, Clone, PartialEq, Eq, Hash" stringType stringType asStr
      ++ [tryFromImpl name stringType "value" (violationOf module)
          (lengthCheck length s!"{s.rt}::constraint::char_count(&value)" module ++ patternCheck
            ++ [.line "Ok(Self(value))"]),
        .blank,
        tryFromImpl name "&str" "value" (violationOf module) [.line "Self::try_from(value.to_owned())"],
        .blank,
        displayImpl name [.line "f.write_str(&self.0)"],
        .blank]
  let patternItem := match pattern with
    | some p =>
      [.line s!"pub(crate) static PATTERN: {s.rt}::constraint::Pattern = {s.rt}::constraint::Pattern::new({Text.quote p});",
        .blank]
    | none => []
  let variants :=
    (if length.isSome then ["/// Length in Unicode scalar values.", "Length(usize),"] else [])
      ++ (if pattern.isSome then ["/// The rejected value.", s!"Pattern({stringType}),"] else [])
  let lengthArm := match length with
    | some bounds =>
      [s!"Self::Length(length) => write!(f, \"value with length \x7b\x7d provided for `{id}` must have a length {describeLength bounds}\", length),"]
    | none => []
  let patternArm := match pattern with
    | some p =>
      [s!"Self::Pattern(value) => write!(f, \"value `\x7b\x7d` provided for `{id}` does not match the pattern `\x7b\x7d`\", value, {Text.quote p}),"]
    | none => []
  ⟨top, patternItem ++ violationEnum "Debug, Clone, PartialEq, Eq" variants (lengthArm ++ patternArm)⟩

/-- Bounds of a number in words. -/
def describeRange (bounds : Option RangeBounds) (integer : Bool) : String :=
  match bounds with
  | some ⟨some min, some max⟩ =>
    s!"between {boundLiteral min integer} and {boundLiteral max integer}, inclusive"
  | some ⟨some min, none⟩ => s!"at least {boundLiteral min integer}"
  | some ⟨none, some max⟩ => s!"at most {boundLiteral max integer}"
  | _ => "in range"

def numberNewtype (s : Scope) (shape : Shape) (kind : NumberKind) : Except ModelError ShapeItems := do
  let name := typeName shape.id
  let module := moduleName shape.id
  let primitive ← s.newtypeInner shape
  let integer := kind.isInteger
  let derives :=
    if integer then "Debug, Clone, Copy, PartialEq, Eq, Hash" else "Debug, Clone, Copy, PartialEq"
  let check := match shape.traits.range.bind fun bounds => rangeViolated "value" bounds integer with
    | some condition => [refuse condition s!"{module}::ConstraintViolation::Range(value)"]
    | none => []
  let top :=
    newtypeType s shape derives primitive primitive []
      ++ [tryFromImpl name primitive "value" (violationOf module) (check ++ [.line "Ok(Self(value))"]), .blank]
  let described := describeRange shape.traits.range integer
  let arm :=
    s!"Self::Range(value) => write!(f, \"value \x7b\x7d provided for `{shape.id.text}` must be {described}\", value),"
  .ok ⟨top, violationEnum "Debug, Clone, PartialEq" [s!"Range({primitive}),"] [arm]⟩

/-- The newtype of a blob, whose length counts bytes. -/
def blobNewtype (s : Scope) (shape : Shape) : ShapeItems :=
  let name := typeName shape.id
  let module := moduleName shape.id
  let blob := s.rt ++ "::Blob"
  let length := shape.traits.length
  let top :=
    newtypeType s shape "Debug, Clone, PartialEq, Eq, Hash" blob blob []
      ++ [tryFromImpl name blob "value" (violationOf module)
          (lengthCheck length "value.len()" module ++ [.line "Ok(Self(value))"]),
        .blank]
  let described := (length.map describeLength).getD "unconstrained"
  let arm :=
    s!"Self::Length(length) => write!(f, \"blob of \x7b\x7d bytes provided for `{shape.id.text}` must have a length {described}\", length),"
  ⟨top, violationEnum "Debug, Clone, PartialEq, Eq" ["/// Length in bytes.", "Length(usize),"] [arm]⟩

/-- How an element becomes a public value. -/
structure ElementConversion where
  constrained : String
  toPublic : String
  violation : String

/-- The conversion of an element, if it needs one. -/
def elementConversion (s : Scope) (member : Member) : Except ModelError (Option ElementConversion) := do
  let target ← s.model.target member
  if s.isConstrained target.id then
    .ok (some ⟨← s.typeText .constrained target, s.toPublic target, s.violationType target.id⟩)
  else .ok none

/-- The conversion of a variable; a violation goes through `wrap`. -/
def ElementConversion.expr (c : ElementConversion) (var wrap : String) : String :=
  let toPublic := if c.toPublic.isEmpty then "" else s!".map(|value| value{c.toPublic})"
  s!"{c.constrained}::try_from({var}){toPublic}.map_err({wrap})"

/-- Variants of the violations, how they are shown, and the code that converts what is held. -/
structure CollectionChecks where
  variants : List String := []
  arms : List String := []
  body : List String := []

def listChecks (s : Scope) (shape : Shape) (member : Member) : Except ModelError CollectionChecks := do
  match ← elementConversion s member with
  | none => .ok {}
  | some element =>
    let wrap := s!"|err| {moduleName shape.id}::ConstraintViolation::Member(index, ::std::boxed::Box::new(err))"
    let one := element.expr "item" wrap
    let convert := if shape.traits.sparse then s!"item.map(|item| {one}).transpose()" else one
    .ok ⟨[s!"Member(usize, ::std::boxed::Box<{element.violation}>),"],
      [s!"Self::Member(index, violation) => write!(f, \"member \x7b\x7d of `{shape.id.text}`: \x7b\x7d\", index, violation),"],
      ["let value = value", "    .into_iter()", "    .enumerate()", s!"    .map(|(index, item)| {convert})",
        "    .collect::<::std::result::Result<::std::vec::Vec<_>, _>>()?;"]⟩

def mapChecks (s : Scope) (shape : Shape) (key value : Member) : Except ModelError CollectionChecks := do
  let id := shape.id.text
  let module := moduleName shape.id
  let keyConversion ← elementConversion s key
  let valueConversion ← elementConversion s value
  let keyPart : CollectionChecks := match keyConversion with
    | some c =>
      let wrap := s!"|err| {module}::ConstraintViolation::Key(::std::boxed::Box::new(err))"
      { variants := [s!"Key(::std::boxed::Box<{c.violation}>),"]
        arms := [s!"Self::Key(violation) => write!(f, \"key in `{id}`: \x7b\x7d\", violation),"]
        body := ["    let key = " ++ c.expr "key" wrap ++ "?;"] }
    | none => {}
  let valuePart : CollectionChecks := match valueConversion with
    | some c =>
      let wrap := s!"|err| {module}::ConstraintViolation::Value(key_name, ::std::boxed::Box::new(err))"
      let one := c.expr "value" wrap
      { variants := [s!"Value(::std::string::String, ::std::boxed::Box<{c.violation}>),"]
        arms := [s!"Self::Value(key, violation) => write!(f, \"value for key `\x7b\x7d` in `{id}`: \x7b\x7d\", key, violation),"]
        body :=
          if shape.traits.sparse then
            ["    let value = match value \x7b", s!"        Some(value) => Some({one}?),",
              "        None => None,", "    \x7d;"]
          else [s!"    let value = {one}?;"] }
    | none => {}
  let keyName := if valueConversion.isSome then ["    let key_name = key.clone();"] else []
  let body :=
    if keyConversion.isNone && valueConversion.isNone then []
    else
      ["let mut constrained = ::std::collections::HashMap::with_capacity(value.len());",
        "for (key, value) in value \x7b"]
        ++ keyName ++ keyPart.body ++ valuePart.body
        ++ ["    constrained.insert(key, value);", "\x7d", "let value = constrained;"]
  .ok ⟨keyPart.variants ++ valuePart.variants, keyPart.arms ++ valuePart.arms, body⟩

def collectionNewtype (s : Scope) (shape : Shape) : Except ModelError ShapeItems := do
  let name := typeName shape.id
  let module := moduleName shape.id
  let inner ← s.newtypeInner shape
  let raw ← s.typeText .raw shape
  let length := shape.traits.length
  let checks ← match shape.kind with
    | .list member => listChecks s shape member
    | .map key value => mapChecks s shape key value
    | _ => .error (.unsupported shape.id .notCollection)
  let lengthVariant := if length.isSome then ["Length(usize),"] else []
  let lengthArm := match length with
    | some bounds =>
      [s!"Self::Length(length) => write!(f, \"`{shape.id.text}` has \x7b\x7d entries but must have {describeLength bounds}\", length),"]
    | none => []
  let top :=
    newtypeType s shape "Debug, Clone, PartialEq" inner raw []
      ++ [tryFromImpl name raw "value" (violationOf module)
          (lengthCheck length "value.len()" module ++ lines checks.body ++ [.line "Ok(Self(value))"]),
        .blank]
  .ok ⟨top, violationEnum "Debug, Clone, PartialEq" (lengthVariant ++ checks.variants) (lengthArm ++ checks.arms)⟩

/-- The newtype of a shape; only simple values and collections have one. -/
def Scope.newtype (s : Scope) (shape : Shape) : Except ModelError ShapeItems :=
  match shape.kind with
  | .string => .ok (stringNewtype s shape)
  | .number kind => numberNewtype s shape kind
  | .blob => .ok (blobNewtype s shape)
  | .list _ => collectionNewtype s shape
  | .map _ _ => collectionNewtype s shape
  | _ => .ok .none

end WireShapes.Code
