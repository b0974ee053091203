import WireShapes.Model.Shape
import WireShapes.Settings

/-!
Which shapes are constrained.

* `Shape.isDirectlyConstrained`: a trait restricts the values of the shape
* `Model.hasMandatoryMember`: a structure with a member that has to be there
* `constrainedShapes`: these shapes, and those that hold a constrained shape through members

An event stream carries no constraint to the structure that holds it, and takes none from its events.
-/

namespace WireShapes

/-- A trait restricts the values of the shape. -/
def Shape.isDirectlyConstrained (s : Shape) : Bool :=
  match s.kind with
  | .string => s.traits.length.isSome || s.traits.pattern.isSome
  | .enum _ => true
  | .number _ => s.traits.range.isSome
  | .blob => s.traits.length.isSome
  | .list _ => s.traits.length.isSome
  | .map _ _ => s.traits.length.isSome
  | _ => false

/-- The member is required and has no default. -/
def Member.isMandatory (m : Member) : Bool := m.traits.required && m.traits.default.isNone

def Model.isStreamMember (m : Model) (member : Member) : Bool :=
  ((m.get? member.target).map Shape.isEventStream).getD false

def Model.hasMandatoryMember (m : Model) (s : Shape) : Bool :=
  s.isStruct && s.members.any fun member => member.isMandatory || m.isStreamMember member

def Model.isConstraintSource (m : Model) (s : Shape) : Bool :=
  s.isDirectlyConstrained || m.hasMandatoryMember s

/-- The shape holds one of the shapes through a member that is not an event stream. -/
def Model.holdsAny (m : Model) (ids : List ShapeId) (s : Shape) : Bool :=
  !s.isEventStream && s.members.any fun member =>
    ids.contains member.target && !m.isStreamMember member

/-- What one sweep over the shapes adds: each shape that holds one of the ids, or one that came in before it
in the same sweep. -/
def Model.sweep (m : Model) : List Shape → List ShapeId → List ShapeId
  | [], _ => []
  | s :: rest, ids =>
    if !ids.contains s.id && m.holdsAny ids s then s.id :: m.sweep rest (ids ++ [s.id])
    else m.sweep rest ids

/-- Sweeps over all shapes until one of them adds nothing, as many as there are rounds. -/
def Model.constraintClosure (m : Model) : Nat → List ShapeId → List ShapeId
  | 0, ids => ids
  | rounds + 1, ids =>
    let new := m.sweep m.shapes ids
    if new.isEmpty then ids else m.constraintClosure rounds (ids ++ new)

/-- The constrained shapes; a client has none. -/
def constrainedShapes (m : Model) (target : Target) : List ShapeId :=
  match target with
  | .client => []
  | .server =>
    m.constraintClosure m.shapes.length ((m.shapes.filter m.isConstraintSource).map (·.id))

end WireShapes
