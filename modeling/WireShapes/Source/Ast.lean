import WireShapes.Source.Decoder

/-!
Model documents as they are written, before anything is made of them.

* `RawMember`, `RawShape`, `RawModel` and their decoders
* `RawShape.same`: equal definitions, whatever the order of members and traits
-/

namespace WireShapes.Source

/-- A member: what it targets and its traits. -/
structure RawMember where
  target : String
  traits : List (String × Value)

/-- A shape: its type and whatever its type needs. -/
structure RawShape where
  type : String
  members : List (String × RawMember)
  member : Option RawMember
  key : Option RawMember
  value : Option RawMember
  input : Option String
  output : Option String
  errors : List String
  operations : List String
  version : Option String
  traits : List (String × Value)

/-- A document: the version of the format, and shapes by id. -/
structure RawModel where
  version : String
  shapes : List (String × RawShape)

/-- A field that is read by a decoder and put into its place. -/
def field {σ α : Type} (name : String) (get : σ → Option α) (put : σ → α → σ) (decoder : Decoder α)
    (trailing : Bool) : Field σ :=
  ⟨name, fun s => (get s).isSome, fun s p cs => (decoder p cs).map fun r => (put s r.1, r.2), trailing⟩

/-- A reference to a shape. -/
def target : Decoder String :=
  record
    [⟨"target", Option.isSome, fun _ p cs => (text p cs).map fun r => (some r.1, r.2), false⟩]
    false (none : Option String) id

structure MemberParts where
  target : Option String := none
  traits : Option (List (String × Value)) := none

def member : Decoder RawMember :=
  record
    [field "target" MemberParts.target (fun m v => { m with target := some v }) text false,
      field "traits" MemberParts.traits (fun m v => { m with traits := some v }) (table value) true]
    false {} fun m => m.target.map fun t => ⟨t, m.traits.getD []⟩

/-- The parts of a shape as they come in; a part that may be null is set by a null as well. -/
structure ShapeParts where
  type : Option String := none
  members : Option (List (String × RawMember)) := none
  member : Option (Option RawMember) := none
  key : Option (Option RawMember) := none
  value : Option (Option RawMember) := none
  input : Option (Option String) := none
  output : Option (Option String) := none
  errors : Option (List String) := none
  operations : Option (List String) := none
  version : Option (Option String) := none
  traits : Option (List (String × Value)) := none

/-- The shape of its parts, of which only the type has to be there. -/
def ShapeParts.finish (s : ShapeParts) : Option RawShape :=
  s.type.map fun type =>
    { type := type
      members := s.members.getD []
      member := s.member.getD none
      key := s.key.getD none
      value := s.value.getD none
      input := s.input.getD none
      output := s.output.getD none
      errors := s.errors.getD []
      operations := s.operations.getD []
      version := s.version.getD none
      traits := s.traits.getD [] }

def shape : Decoder RawShape :=
  record
    [field "type" ShapeParts.type (fun s v => { s with type := some v }) text false,
      field "members" ShapeParts.members (fun s v => { s with members := some v }) (table member) true,
      field "member" ShapeParts.member (fun s v => { s with member := some v }) (optional member) false,
      field "key" ShapeParts.key (fun s v => { s with key := some v }) (optional member) false,
      field "value" ShapeParts.value (fun s v => { s with value := some v }) (optional member) false,
      field "input" ShapeParts.input (fun s v => { s with input := some v }) (optional target) false,
      field "output" ShapeParts.output (fun s v => { s with output := some v }) (optional target) false,
      field "errors" ShapeParts.errors (fun s v => { s with errors := some v }) (items target) true,
      field "operations" ShapeParts.operations (fun s v => { s with operations := some v })
        (items target) true,
      field "version" ShapeParts.version (fun s v => { s with version := some v }) (optional text) false,
      field "traits" ShapeParts.traits (fun s v => { s with traits := some v }) (table value) true]
    false {} ShapeParts.finish

structure ModelParts where
  version : Option String := none
  shapes : Option (List (String × RawShape)) := none

def model : Decoder RawModel :=
  record
    [field "smithy" ModelParts.version (fun m v => { m with version := some v }) text false,
      field "shapes" ModelParts.shapes (fun m v => { m with shapes := some v }) (table shape) true]
    false {} fun m => m.version.map fun v => ⟨v, m.shapes.getD []⟩

/-! ### Equal definitions -/

/-- Tables with the same keys and equal values, whatever their order. -/
def sameTable {α : Type} (same : α → α → Bool) (a b : List (String × α)) : Bool :=
  a.length == b.length && a.all fun e =>
    match Entries.get? e.1 b with
    | some v => same e.2 v
    | none => false

def sameOption {α : Type} (same : α → α → Bool) : Option α → Option α → Bool
  | some a, some b => same a b
  | none, none => true
  | _, _ => false

def RawMember.same (a b : RawMember) : Bool :=
  a.target == b.target && sameTable Value.same a.traits b.traits

def RawShape.same (a b : RawShape) : Bool :=
  a.type == b.type && sameTable RawMember.same a.members b.members
    && sameOption RawMember.same a.member b.member && sameOption RawMember.same a.key b.key
    && sameOption RawMember.same a.value b.value && a.input == b.input && a.output == b.output
    && a.errors == b.errors && a.operations == b.operations && a.version == b.version
    && sameTable Value.same a.traits b.traits

end WireShapes.Source
