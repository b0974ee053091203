import WireShapes.Model.Error

/-!
Changes to a model before code is generated from it.

* `Model.normalizeOperations`: every operation gets an input and an output
* `Model.boxRecursive`: members that close a cycle of inline storage are boxed
* `Model.prepare`: both, in this order
-/

namespace WireShapes

/-! ### Operations -/

/-- The model with an empty structure for a missing input or output, and its id. A structure that has
the id already is taken as it is. -/
def Model.synthesize (m : Model) (operation : ShapeId) (suffix : String) :
    Except ModelError (Model × ShapeId) :=
  let id := ShapeId.ofParts operation.space (operation.name ++ suffix)
  match m.get? id with
  | some existing =>
    if existing.isStruct then .ok (m, id) else .error (.unsupported operation (.synthesis id))
  | none => .ok (m.insert ⟨id, .struct [], {}⟩, id)

/-- The slot of an operation, synthesized if it is empty. -/
def Model.fillSlot (m : Model) (operation : ShapeId) (suffix : String) (slot : Option ShapeId) :
    Except ModelError (Model × Option ShapeId) :=
  match slot with
  | some id => .ok (m, some id)
  | none => (m.synthesize operation suffix).map fun r => (r.1, some r.2)

def Model.modify (m : Model) (id : ShapeId) (f : Shape → Shape) : Model :=
  ⟨m.shapes.map fun s => if s.id = id then f s else s⟩

def Model.normalizeOperation (m : Model) (entry : ShapeId × Operation) : Except ModelError Model := do
  let (id, op) := entry
  let (m, input) ← m.fillSlot id "Input" op.input
  let (m, output) ← m.fillSlot id "Output" op.output
  .ok (m.modify id fun s =>
    match s.kind with
    | .operation op => { s with kind := .operation { op with input := input, output := output } }
    | _ => s)

/-- Gives every operation an input and an output. -/
def Model.normalizeOperations (m : Model) : Except ModelError Model :=
  let missing := m.operations.filter fun e => e.2.input.isNone || e.2.output.isNone
  missing.foldlM (fun m e => m.normalizeOperation (e.1.id, e.2)) m

/-! ### Recursion -/

/-- Structures and unions, whose values are stored inline. -/
def Shape.isInline (s : Shape) : Bool := s.isStruct || s.isUnion

/-- The structures and unions that a structure or union stores inline. -/
def Model.inlineTargets (m : Model) (id : ShapeId) : List ShapeId :=
  match m.get? id with
  | some s =>
    if s.isInline then
      (s.members.filter fun member => ((m.get? member.target).map Shape.isInline).getD false).map
        (·.target)
    else []
  | none => []

/-- Adds what is stored inline in any of the ids, as many times over as there are rounds. -/
def Model.inlineClosure (m : Model) : Nat → List ShapeId → List ShapeId
  | 0, seen => seen
  | rounds + 1, seen =>
    let new := ((seen.flatMap m.inlineTargets).filter fun id => !seen.contains id).eraseDups
    if new.isEmpty then seen else m.inlineClosure rounds (seen ++ new)

/-- A shape is stored inline in another, through any number of steps. -/
def Model.reaches (m : Model) (source goal : ShapeId) : Bool :=
  (m.inlineClosure m.shapes.length [source]).contains goal

/-- The member closes a cycle of inline storage. -/
def Model.closesCycle (m : Model) (container : ShapeId) (member : Member) : Bool :=
  (m.inlineTargets container).contains member.target && m.reaches member.target container

/-- Members with those boxed that close a cycle. -/
def Model.boxMembers (m : Model) (container : ShapeId) (members : List Member) : List Member :=
  members.map fun member =>
    if m.closesCycle container member then
      { member with traits := { member.traits with boxed := true } }
    else member

/-- Boxes the members that close a cycle of inline storage. -/
def Model.boxRecursive (m : Model) : Model :=
  ⟨m.shapes.map fun s =>
    match s.kind with
    | .struct members => { s with kind := .struct (m.boxMembers s.id members) }
    | .union members => { s with kind := .union (m.boxMembers s.id members) }
    | _ => s⟩

/-- The model in the form from which code is generated. -/
def Model.prepare (m : Model) : Except ModelError Model := do
  let m ← m.normalizeOperations
  .ok m.boxRecursive

end WireShapes
