import WireShapes.Code.Layout
import WireShapes.Code.TypeRef

/-!
Pieces that many items of generated code are made of.

* `ShapeItems`: what a shape adds to the module of all shapes and to its own
* `method`, `displayImpl`, `constrainedImpl`, `tryFromImpl`
* `violationDisplay`: how the violations of a shape are shown
* `constrainedSupport`: the module that ties a type to what it is validated from
-/

namespace WireShapes.Code

/-- What a shape adds to the module of all shapes, and to its own module inside it. -/
structure ShapeItems where
  top : List Step
  inner : List Step
deriving Inhabited

def ShapeItems.none : ShapeItems := ⟨[], []⟩

def ShapeItems.append (x y : ShapeItems) : ShapeItems := ⟨x.top ++ y.top, x.inner ++ y.inner⟩

def lines (texts : List String) : List Step := texts.map .line

/-- A block with lines in it. -/
def method (signature : String) (body : List String) : Step := block signature (lines body)

def braces (body : List Step) : List Step := [.line "\x7b", .indent] ++ body ++ [.dedent, .line "\x7d"]

def fmtSignature : String :=
  "fn fmt(&self, f: &mut ::std::fmt::Formatter<'_>) -> ::std::fmt::Result"

def displayImpl (type : String) (body : List Step) : Step :=
  block s!"impl ::std::fmt::Display for {type}" [block fmtSignature body]

def errorImpl (type : String) : Step := .line s!"impl ::std::error::Error for {type} \x7b\x7d"

/-- Ties a type to what it is validated from. -/
def constrainedImpl (s : Scope) (type raw : String) : Step :=
  method s!"impl {s.root}::constrained::Constrained for {type}" [s!"type Unconstrained = {raw};"]

def tryFromImpl (type raw var error : String) (body : List Step) : Step :=
  block s!"impl ::std::convert::TryFrom<{raw}> for {type}"
    [.line s!"type Error = {error};", .blank,
      block s!"fn try_from({var}: {raw}) -> ::std::result::Result<Self, Self::Error>" body]

/-- How the violations of a shape are shown. -/
def violationDisplay (arms : List String) : List Step :=
  [displayImpl "ConstraintViolation"
      (if arms.isEmpty then [.line "match *self \x7b\x7d"] else [method "match self" arms]),
    .blank,
    errorImpl "ConstraintViolation"]

def violationEnum (derives : String) (variants arms : List String) : List Step :=
  [.line s!"#[derive({derives})]", method "pub enum ConstraintViolation" variants, .blank]
    ++ violationDisplay arms

/-- The module that ties a type to what it is validated from, with the slot of a builder. -/
def constrainedSupport : List Step :=
  let both (constrained raw : String) : Step :=
    method "match self" [s!"Self::Constrained(value) => {constrained},", s!"Self::Unconstrained(value) => {raw},"]
  [method "pub(crate) trait Constrained" ["type Unconstrained;"],
    .blank,
    .line "/// A builder slot: either already validated or still raw.",
    method "pub(crate) enum MaybeConstrained<T: Constrained>"
      ["Constrained(T),", "Unconstrained(T::Unconstrained),"],
    .blank,
    block "impl<T> MaybeConstrained<T>\nwhere\n    T: Constrained + ::std::convert::TryFrom<<T as Constrained>::Unconstrained>,"
      [block "pub(crate) fn into_constrained(self) -> ::std::result::Result<T, <T as ::std::convert::TryFrom<<T as Constrained>::Unconstrained>>::Error>"
        [both "Ok(value)" "T::try_from(value)"]],
    .blank,
    block "impl<T> ::std::clone::Clone for MaybeConstrained<T>\nwhere\n    T: Constrained + ::std::clone::Clone,\n    T::Unconstrained: ::std::clone::Clone,"
      [block "fn clone(&self) -> Self"
        [both "Self::Constrained(value.clone())" "Self::Unconstrained(value.clone())"]],
    .blank,
    block "impl<T> ::std::fmt::Debug for MaybeConstrained<T>\nwhere\n    T: Constrained + ::std::fmt::Debug,\n    T::Unconstrained: ::std::fmt::Debug,"
      [block fmtSignature
        [both "f.debug_tuple(\"Constrained\").field(value).finish()"
          "f.debug_tuple(\"Unconstrained\").field(value).finish()"]]]

end WireShapes.Code
