import WireShapes.Code.Default
import WireShapes.Code.Items

/-!
Builders of structures.

* `Slot`: what the builder knows about a member
* `Scope.builder`: a slot, a method and a setter per member, and `build`

`build` evaluates the fields in order of declaration, so the first member that fails decides: a missing
member is reported before its value is validated, and a member is validated only after all before it
have succeeded.
-/

namespace WireShapes.Code

/-- What the builder knows about a member. -/
structure Slot where
  member : Member
  target : Shape
  field : String
  setter : String
  variant : String
  /-- The type of an event stream. -/
  stream : Option String
  /-- The slot holds a value that is validated or still raw. -/
  constrained : Bool
  exposedType : String
  rawType : String
  constrainedType : String
  toPublic : String
  nestedViolation : String

namespace Slot

def boxed (slot : Slot) : Bool := slot.member.traits.boxed

def missingVariant (slot : Slot) : String := "Missing" ++ slot.variant

/-- The member has to be set before `build`. -/
def mustBeSet (slot : Slot) : Bool := slot.stream.isSome || slot.member.isMandatory

/-- The expression as it is stored. -/
def box (slot : Slot) (expr : String) : String :=
  if slot.boxed then s!"::std::boxed::Box::new({expr})" else expr

end Slot

def slotOf (s : Scope) (container : ShapeId) (member : Member) : Except ModelError Slot := do
  let target ← s.model.target member
  let stream ← if target.isEventStream then (s.streamType container member).map some else pure none
  let typeText (form : Form) : Except ModelError String :=
    if stream.isSome then .ok "" else s.typeText form target
  let exposed ← typeText .exposed
  let raw ← typeText .raw
  let constrained ← typeText .constrained
  .ok ⟨member, target, fieldName member, setterName member, pascal member.name, stream,
    stream.isNone && s.isConstrained target.id, exposed, raw, constrained, s.toPublic target,
    s.violationType target.id⟩

/-- The path of the slot that holds a validated or a raw value. -/
def maybeConstrained (s : Scope) : String := s.root ++ "::constrained::MaybeConstrained"

def slotType (s : Scope) (slot : Slot) : String :=
  let inner := match slot.stream with
    | some stream => stream
    | none =>
      if slot.constrained then s!"{maybeConstrained s}<{slot.constrainedType}>" else slot.exposedType
  if slot.boxed then s!"::std::option::Option<::std::boxed::Box<{inner}>>"
  else s!"::std::option::Option<{inner}>"

/-- A method that stores its input and gives the builder back. -/
def storing (signature field stored : String) : List Step :=
  [method s!"{signature} -> Self" [s!"self.{field} = {stored};", "self"], .blank]

/-- The method and the setter of a member. With public constrained types the method takes the
validated value; otherwise it takes the raw one, and `build` validates it. -/
def slotMethods (s : Scope) (slot : Slot) : List Step :=
  let field := slot.field
  let maybe := maybeConstrained s
  let pair (parameter stored visibility option set : String) : List Step :=
    storing s!"pub fn {field}(mut self, input: {parameter})" field s!"Some({slot.box stored})"
      ++ storing s!"{visibility} fn {slot.setter}(mut self, input: ::std::option::Option<{option}>)" field set
  .docs slot.member.traits.documentation ::
    match slot.stream with
    | some stream => pair stream "input" "pub" stream "input"
    | none =>
      if !slot.constrained then
        pair slot.exposedType "input" (if s.isServer then "pub(crate)" else "pub") slot.exposedType
          (if slot.boxed then "input.map(::std::boxed::Box::new)" else "input")
      else
        let raw := slot.box (maybe ++ "::Unconstrained(input)")
        let set := s!"input.map(|input| {raw})"
        if s.settings.publicConstrainedTypes then
          let stored :=
            if slot.exposedType = slot.constrainedType then s!"{maybe}::Constrained(input)"
            else s!"{maybe}::Constrained({slot.constrainedType}(input))"
          pair slot.exposedType stored "pub(crate)" slot.rawType set
        else pair slot.rawType s!"{maybe}::Unconstrained(input)" "pub(crate)" slot.rawType set

/-- The validation of a slot, which a violation leaves. -/
def slotConversion (slot : Slot) (value : String) : String :=
  let variant := "ConstraintViolation::" ++ slot.variant
  if slot.boxed then
    s!"(*{value}).into_constrained().map_err(|err| {variant}(::std::boxed::Box::new(err)))"
  else s!"{value}.into_constrained().map_err({variant})"

/-- The expression of a field in `build`. -/
def fieldInitializer (s : Scope) (slot : Slot) : Except ModelError String := do
  let field := slot.field
  let missing := "ConstraintViolation::" ++ slot.missingVariant
  let literal? ← match slot.member.traits.default with
    | some value => (s.defaultLiteral slot.member slot.target value).map some
    | none => pure none
  if !slot.constrained then
    match literal? with
    | some literal => .ok s!"self.{field}.unwrap_or_else(|| {slot.box literal})"
    | none =>
      if slot.mustBeSet then .ok s!"self.{field}.ok_or({missing})?" else .ok s!"self.{field}"
  else
    let toPublic (value : String) : String := slot.box (value ++ slot.toPublic)
    match literal? with
    | some literal =>
      let stored := slot.box s!"{maybeConstrained s}::Unconstrained({literal})"
      .ok (toPublic (slotConversion slot s!"self.{field}.unwrap_or_else(|| {stored})" ++ "?"))
    | none =>
      if slot.mustBeSet then
        .ok (toPublic (slotConversion slot s!"self.{field}.ok_or({missing})?" ++ "?"))
      else
        let mapped := toPublic "value"
        let tail := if mapped = "value" then "" else s!"\n    .map(|value| {mapped})"
        let conversion := slotConversion slot "value"
        .ok s!"self.{field}\n    .map(|value| {conversion})\n    .transpose()?{tail}"

def buildMethod (s : Scope) (shape : Shape) (slots : List Slot) (fallible : Bool) :
    Except ModelError (List Step) := do
  let type := s.namedType shape.id
  let fields ← slots.mapM fun slot => do
    let initializer ← fieldInitializer s slot
    .ok s!"{slot.field}: {initializer},"
  let note :=
    if fallible then
      lines ["///", "/// Members are checked in declaration order; the first violation is returned."]
    else []
  let signature :=
    if fallible then s!"pub fn build(self) -> ::std::result::Result<{type}, ConstraintViolation>"
    else s!"pub fn build(self) -> {type}"
  let literal : Step :=
    if fallible then .block s!"Ok({type}" "\x7d)" (lines fields) else block type (lines fields)
  .ok (.line s!"/// Consumes the builder and constructs a [`{typeName shape.id}`]({type})."
    :: note ++ [block signature [literal]])

/-- The violations of a structure: what is missing, and what a member violates. -/
def structureViolations (shape : Shape) (slots : List Slot) : List Step :=
  let name := typeName shape.id
  let missing (slot : Slot) : List (String × String) :=
    if slot.mustBeSet then
      let words := s!"`{slot.member.name}` was not provided but it is required when building `{name}`"
      [(s!"/// {words}.\n{slot.missingVariant},", s!"Self::{slot.missingVariant} => f.write_str(\"{words}\"),")]
    else []
  let nested (slot : Slot) : List (String × String) :=
    if slot.constrained then
      let held :=
        if slot.boxed then s!"::std::boxed::Box<{slot.nestedViolation}>" else slot.nestedViolation
      [(s!"{slot.variant}({held}),",
        s!"Self::{slot.variant}(violation) => write!(f, \"`{slot.member.name}`: \x7b\x7d\", violation),")]
    else []
  let all := slots.flatMap fun slot => missing slot ++ nested slot
  violationEnum "Debug, Clone, PartialEq" (all.map (·.1)) (all.map (·.2))

def Scope.builder (s : Scope) (shape : Shape) : Except ModelError ShapeItems :=
  match shape.kind with
  | .struct members => do
    let slots ← members.mapM (slotOf s shape.id)
    let name := typeName shape.id
    let module := moduleName shape.id
    let fallible := s.buildIsFallible shape
    let build ← buildMethod s shape slots fallible
    let validation : List Step :=
      if s.isServer && fallible then
        [constrainedImpl s name s!"{module}::Builder",
          .blank,
          tryFromImpl name s!"{module}::Builder" "builder" s!"{module}::ConstraintViolation"
            [.line "builder.build()"],
          .blank]
      else []
    let derives :=
      if slots.any fun slot => slot.stream.isSome then "Debug, Default" else "Debug, Clone, Default"
    .ok ⟨[block s!"impl {name}"
            [.line s!"/// Creates a new builder-style object to manufacture [`{name}`].",
              method s!"pub fn builder() -> {module}::Builder" [s!"{module}::Builder::default()"]],
          .blank]
          ++ validation,
        [.line s!"/// A builder for [`{name}`]({s.namedType shape.id}).",
          .line s!"#[derive({derives})]",
          block "pub struct Builder"
            (slots.map fun slot => .line s!"pub(crate) {slot.field}: {slotType s slot},"),
          .blank,
          block "impl Builder" (slots.flatMap (slotMethods s) ++ build),
          .blank]
          ++ (if fallible then structureViolations shape slots else [])⟩
  | _ => .error (.unsupported shape.id .noBuilder)

end WireShapes.Code
