import WireShapes.Proofs.Code.Forms

/-!
When building a structure can fail.

* `Model.Strict`: a member that has to be set, or whose value has to be validated
* `Model.reaches_struct_iff`: a structure is constrained by one of its members
* `Initializer`: how a field is made from its slot; `Initializer.run`, `Initializer.text`: what comes of it,
  and how it is written
* `Initializer.CanFail`, `BuildCanFail`: for some values a field, or `build`, fails
* `fieldInitializer_eq`: the fields of `build` are written as they are made
* `build_fallible_exactly`: `build` is fallible exactly if it can fail, and then has violations
-/

namespace WireShapes

namespace Model

variable {m : Model} {shape : Shape}

/-- A member that has to be set, or, on a server, whose value has to be validated. -/
def Strict (m : Model) (side : Target) (member : Member) : Prop :=
  member.isMandatory = true ∨ ∃ target, m.get? member.target = some target ∧
    (target.isEventStream = true ∨ side = .server ∧ target.isEventStream = false ∧ m.Reaches target.id)

/-- What is constrained is a source of constraints, or holds what is constrained. -/
theorem reaches_iff_head (hm : m.Distinct) (hshape : shape ∈ m.shapes) :
    m.Reaches shape.id ↔ m.Source shape ∨ ∃ held, m.Holds shape held ∧ m.Reaches held.id := by
  have hlisted := get?_of_mem hm hshape
  constructor
  · rintro ⟨found, hget, source, hpath, hsource⟩
    obtain rfl := Option.some.inj (hlisted.symm.trans hget)
    rcases hpath.cases_head with rfl | ⟨held, hedge, hrest⟩
    · exact .inl hsource
    · obtain ⟨member, -, htarget⟩ := hedge.member
      exact .inr ⟨held, hedge, held, by rwa [id_of_get? htarget], source, hrest, hsource⟩
  · rintro (hsource | ⟨held, hedge, found, hget, source, hpath, hsource⟩)
    · exact ⟨shape, hlisted, shape, .refl, hsource⟩
    · obtain ⟨member, -, htarget⟩ := hedge.member
      rw [id_of_get? htarget, htarget] at hget
      obtain rfl := Option.some.inj hget
      exact ⟨shape, hlisted, source, hpath.head hedge, hsource⟩

section Struct

variable (hstruct : shape.isStruct = true)
include hstruct

theorem source_struct_iff : m.Source shape ↔ ∃ member ∈ shape.members, member.isMandatory = true ∨
    ∃ stream, m.get? member.target = some stream ∧ stream.isEventStream = true := by
  have hdirect : shape.isDirectlyConstrained = false := by
    unfold Shape.isStruct at hstruct
    unfold Shape.isDirectlyConstrained
    cases hkind : shape.kind <;> simp_all
  simp only [Source, hdirect, Bool.false_eq_true, false_or, Mandatory, hstruct, true_and, Member.isMandatory,
    Bool.and_eq_true]

theorem holds_struct_iff {held : Shape} : m.Holds shape held ↔
    held.isEventStream = false ∧ ∃ member ∈ shape.members, m.get? member.target = some held := by
  have hplain : shape.isEventStream = false := by
    unfold Shape.isStruct at hstruct
    unfold Shape.isEventStream Shape.isUnion
    cases hkind : shape.kind <;> simp_all
  constructor
  · exact fun h => ⟨h.held, h.member⟩
  · rintro ⟨hheld, member, hmember, htarget⟩
    exact ⟨aggregate_of_mem hmember, hplain, hheld, member, hmember, htarget⟩

/-- A structure is constrained by a member: there is nothing else that a constraint can come from. -/
theorem reaches_struct_iff (hm : m.Distinct) (hshape : shape ∈ m.shapes) :
    m.Reaches shape.id ↔ ∃ member ∈ shape.members, m.Strict .server member := by
  rw [reaches_iff_head hm hshape, source_struct_iff hstruct]
  simp only [holds_struct_iff hstruct]
  constructor
  · rintro (⟨member, hmember, hmandatory | ⟨stream, htarget, hstream⟩⟩ |
      ⟨held, ⟨hplain, member, hmember, htarget⟩, hheld⟩)
    · exact ⟨member, hmember, .inl hmandatory⟩
    · exact ⟨member, hmember, .inr ⟨stream, htarget, .inl hstream⟩⟩
    · exact ⟨member, hmember, .inr ⟨held, htarget, .inr ⟨rfl, hplain, hheld⟩⟩⟩
  · rintro ⟨member, hmember, hmandatory | ⟨target, htarget, hstream | ⟨-, hplain, hheld⟩⟩⟩
    · exact .inl ⟨member, hmember, .inl hmandatory⟩
    · exact .inl ⟨member, hmember, .inr ⟨target, htarget, hstream⟩⟩
    · exact .inr ⟨target, ⟨hplain, member, hmember, htarget⟩, hheld⟩

end Struct

end Model

namespace Code

/-! ### How a field is made -/

/-- What a field is before it is validated. -/
inductive Origin
  /-- What the slot holds, if it holds anything. -/
  | slot
  /-- What the slot holds, or else the default, an expression. -/
  | fallback (expr : String)
  /-- What the slot holds. It is a violation if it holds nothing. -/
  | needed

/-- How a field is made from its slot. -/
structure Initializer where
  origin : Origin
  validated : Bool

/-- What there is to make a field from. -/
structure Inputs (α ε : Type) where
  held : Option α
  default : α
  validate : α → Except ε α

inductive Violated (ε : Type)
  | missing
  | invalid (cause : ε)

section Run

variable {α ε : Type}

def Origin.run (x : Inputs α ε) : Origin → Except (Violated ε) (Option α)
  | slot => .ok x.held
  | fallback _ => .ok (some (x.held.getD x.default))
  | needed =>
    match x.held with
    | some a => .ok (some a)
    | none => .error .missing

/-- The field, or the violation that leaves `build`. -/
def Initializer.run (i : Initializer) (x : Inputs α ε) : Except (Violated ε) (Option α) := do
  match ← i.origin.run x with
  | some a => if i.validated then ((x.validate a).mapError .invalid).map some else .ok (some a)
  | none => .ok none

/-- The fields in the order of their declaration, or the first violation. -/
def runFields (fields : List (Initializer × Inputs α ε)) : Except (Violated ε) (List (Option α)) :=
  fields.mapM fun f => f.1.run f.2

end Run

/-- For some values, the field cannot be made. -/
def Initializer.CanFail (i : Initializer) : Prop :=
  ∃ (α ε : Type) (x : Inputs α ε) (e : Violated ε), i.run x = .error e

/-- For some values, `build` leaves with a violation. -/
def BuildCanFail (fields : List Initializer) : Prop :=
  ∃ (α ε : Type) (given : List (Initializer × Inputs α ε)) (e : Violated ε),
    given.map Prod.fst = fields ∧ runFields given = .error e

theorem Initializer.canFail_iff (i : Initializer) : i.CanFail ↔ i.origin = .needed ∨ i.validated = true := by
  obtain ⟨origin, validated⟩ := i
  constructor
  · rintro ⟨α, ε, x, e, h⟩
    cases origin with
    | needed => exact .inl rfl
    | slot =>
      cases validated with
      | true => exact .inr rfl
      | false => cases hheld : x.held <;> simp [run, Origin.run, hheld, bind, Except.bind] at h
    | fallback expr =>
      cases validated with
      | true => exact .inr rfl
      | false => simp [run, Origin.run, bind, Except.bind] at h
  · rintro (rfl | rfl)
    · exact ⟨Unit, Unit, ⟨none, (), .ok⟩, .missing, rfl⟩
    · exact ⟨Unit, Unit, ⟨some (), (), .error⟩, .invalid (), by cases origin <;> rfl⟩

/-- `build` can fail if one of its fields can. -/
theorem buildCanFail_iff (fields : List Initializer) : BuildCanFail fields ↔ ∃ i ∈ fields, i.CanFail := by
  constructor
  · rintro ⟨α, ε, given, e, rfl, h⟩
    obtain ⟨f, hf, e, he⟩ := Results.mapM_error_iff.1 ⟨e, h⟩
    exact ⟨f.1, List.mem_map_of_mem hf, α, ε, f.2, e, he⟩
  · rintro ⟨i, hi, α, ε, x, e, h⟩
    -- all fields are given what makes this one fail: it, or one before it, leaves
    obtain ⟨e, he⟩ : ∃ e, runFields (fields.map fun j => (j, x)) = .error e :=
      Results.mapM_error_iff.2 ⟨(i, x), List.mem_map_of_mem hi, e, h⟩
    exact ⟨α, ε, _, e, by simp [Function.comp_def], he⟩

/-! ### How it is written -/

def Origin.text (slot : Slot) : Origin → String
  | .slot => s!"self.{slot.field}"
  | fallback expr => s!"self.{slot.field}.unwrap_or_else(|| {expr})"
  | needed =>
    let missing := "ConstraintViolation::" ++ slot.missingVariant
    s!"self.{slot.field}.ok_or({missing})?"

def Initializer.text (slot : Slot) (i : Initializer) : String :=
  let value := i.origin.text slot
  let toPublic (value : String) : String := slot.box (value ++ slot.toPublic)
  match i.validated, i.origin with
  | false, _ => value
  | true, .slot =>
    let mapped := toPublic "value"
    let tail := if mapped = "value" then "" else s!"\n    .map(|value| {mapped})"
    let conversion := slotConversion slot "value"
    s!"{value}\n    .map(|value| {conversion})\n    .transpose()?{tail}"
  | true, _ => toPublic (slotConversion slot value ++ "?")

/-- What a field is made of, with the expression of the default if there is one. -/
def originOf (s : Scope) (slot : Slot) : Option String → Origin
  | some literal =>
    .fallback (slot.box (if slot.constrained then s!"{maybeConstrained s}::Unconstrained({literal})" else literal))
  | none => if slot.mustBeSet then .needed else .slot

/-- How the field of a slot is made. -/
def initializerOf (s : Scope) (slot : Slot) : Except ModelError Initializer := do
  let literal? ← match slot.member.traits.default with
    | some value => (s.defaultLiteral slot.member slot.target value).map some
    | none => pure none
  .ok ⟨originOf s slot literal?, slot.constrained⟩

def fieldOf (s : Scope) (container : ShapeId) (member : Member) : Except ModelError Initializer :=
  slotOf s container member >>= initializerOf s

/-- **The fields of `build` are written as they are made.** -/
theorem fieldInitializer_eq (s : Scope) (slot : Slot) :
    fieldInitializer s slot = (initializerOf s slot).map (·.text slot) := by
  unfold fieldInitializer initializerOf
  cases hdefault : slot.member.traits.default with
  | none =>
    cases hconstrained : slot.constrained <;> cases hset : slot.mustBeSet <;>
      simp [originOf, Initializer.text, Origin.text, hset, pure, Except.pure]
    rfl
  | some value =>
    cases hliteral : s.defaultLiteral slot.member slot.target value with
    | error e => simp [hliteral, Except.map, bind, Except.bind]
    | ok literal =>
      cases hconstrained : slot.constrained <;>
        simp [originOf, Initializer.text, Origin.text, hconstrained, hliteral]

/-! ### Slots -/

section Slots

variable {s : Scope} {container : ShapeId} {member : Member} {slot : Slot}

theorem defaultLiteral_stream (h : slot.target.isEventStream = true) (member : Member) (value : Source.Value)
    (literal : String) : s.defaultLiteral member slot.target value ≠ .ok literal := by
  unfold Shape.isEventStream Shape.isUnion at h
  unfold Scope.defaultLiteral
  cases hkind : slot.target.kind <;> simp_all

/-- A field fails if its slot has to be set, or is validated. -/
theorem canFail_initializer (h : slotOf s container member = .ok slot) {i : Initializer}
    (hi : initializerOf s slot = .ok i) : i.CanFail ↔ slot.mustBeSet = true ∨ slot.constrained = true := by
  have hstream := (knows_of_slotOf h).stream
  unfold initializerOf at hi
  cases hdefault : slot.member.traits.default with
  | none =>
    rw [hdefault] at hi
    obtain rfl := Except.ok.inj hi
    rw [Initializer.canFail_iff]
    refine or_congr_left ?_
    show (if slot.mustBeSet then Origin.needed else .slot) = .needed ↔ slot.mustBeSet = true
    split <;> simp_all
  | some value =>
    -- a member with a default has to be set only if it is an event stream, of which there is no default
    rw [hdefault] at hi
    obtain ⟨literal?, hmapped, hi⟩ := Results.bind_eq_ok_iff.1 hi
    obtain ⟨literal, hliteral, rfl⟩ := Results.map_eq_ok_iff.1 hmapped
    obtain rfl := Except.ok.inj hi
    have hplain : slot.target.isEventStream = false := by
      rw [← Bool.not_eq_true]
      exact fun hevents => defaultLiteral_stream hevents _ _ _ hliteral
    have hfree : slot.mustBeSet = false := by
      simp [Slot.mustBeSet, hstream, hplain, Member.isMandatory, hdefault]
    rw [Initializer.canFail_iff, hfree]
    refine or_congr_left ?_
    simp [originOf]

end Slots

/-! ### The whole structure -/

section Made

variable {m : Model} {settings : Settings} {s : Scope} {shape : Shape} (hm : m.Distinct)
  (hmake : Scope.make m settings = .ok s)

include hm hmake

theorem isConstrained_iff {id : ShapeId} : s.isConstrained id = true ↔ settings.target = .server ∧ m.Reaches id := by
  have hfree : s.Free id ↔ _ := Scope.free_iff hmake
  rw [Scope.Free, ← Bool.not_eq_true, Model.mem_constrainedShapes_iff hm] at hfree
  rw [← not_iff_not, hfree, not_and]

theorem strict_iff {container : ShapeId} {member : Member} {slot : Slot} (h : slotOf s container member = .ok slot) :
    slot.mustBeSet = true ∨ slot.constrained = true ↔ m.Strict settings.target member := by
  have hknows := knows_of_slotOf h
  obtain rfl := hknows.own
  have hmodel : s.model = m := by rw [Scope.eq_of_make hmake]
  have htarget := hmodel ▸ target_eq hknows.target
  simp only [Slot.mustBeSet, hknows.stream, hknows.constrained, ← Option.not_isSome, Bool.or_eq_true, Bool.and_eq_true,
    Bool.not_eq_true', isConstrained_iff hm hmake, Model.Strict, htarget, Option.some.injEq, exists_eq_left']
  tauto

theorem buildIsFallible_iff (hshape : shape ∈ m.shapes) (hstruct : shape.isStruct = true) :
    s.buildIsFallible shape = true ↔ ∃ member ∈ shape.members, m.Strict settings.target member := by
  have hserver : s.isServer = settings.isServer := by rw [Scope.eq_of_make hmake]; rfl
  have hmodel : s.model = m := by rw [Scope.eq_of_make hmake]
  unfold Scope.buildIsFallible
  rw [hserver, Settings.isServer]
  cases hside : settings.target with
  | server =>
    rw [if_pos (by decide), isConstrained_iff hm hmake, ← Model.reaches_struct_iff hstruct hm hshape]
    exact and_iff_right hside
  | client =>
    rw [if_neg (by decide), List.any_eq_true]
    simp [Scope.isStreamMember, hmodel, Model.isStreamMember_iff, Model.Strict]

/-- The field of a member fails if the member is strict. -/
theorem fieldOf_eq_ok {container : ShapeId} {member : Member} {i : Initializer}
    (h : fieldOf s container member = .ok i) : (i.CanFail ↔ m.Strict settings.target member) ∧
      ∃ slot, slotOf s container member = .ok slot ∧ fieldInitializer s slot = .ok (i.text slot) := by
  obtain ⟨slot, hslot, hi⟩ := Results.bind_eq_ok_iff.1 h
  refine ⟨(canFail_initializer hslot hi).trans (strict_iff hm hmake hslot), slot, hslot, ?_⟩
  rw [fieldInitializer_eq, hi, Results.map_ok]

end Made

/-! ### The violations -/

/-- A slot that has to be set or is validated has its place among the violations. -/
theorem exists_variants (shape : Shape) {slots : List Slot} {slot : Slot} (hslot : slot ∈ slots)
    (h : slot.mustBeSet = true ∨ slot.constrained = true) : ∃ variants arms, variants ≠ [] ∧
      structureViolations shape slots = violationEnum "Debug, Clone, PartialEq" variants arms := by
  refine ⟨_, _, fun hnil => ?_, rfl⟩
  have hnone := List.flatMap_eq_nil_iff.1 (List.map_eq_nil_iff.1 hnil) slot hslot
  obtain ⟨hmissing, hnested⟩ := List.append_eq_nil_iff.1 hnone
  rcases h with h | h
  · simp [h] at hmissing
  · simp [h] at hnested

/-- The code of a builder goes through the fields of `build`, and ends with the violations. -/
theorem builder_eq_ok {s : Scope} {shape : Shape} {items : ShapeItems} (h : s.builder shape = .ok items) :
    ∃ slots front, shape.members.mapM (slotOf s shape.id) = .ok slots ∧
      (∀ slot ∈ slots, ∃ text, fieldInitializer s slot = .ok text) ∧
      items.inner = front ++ if s.buildIsFallible shape then structureViolations shape slots else [] := by
  unfold Scope.builder at h
  cases hkind : shape.kind <;> rw [hkind] at h
  case struct members =>
    obtain ⟨slots, hslots, h⟩ := Results.bind_eq_ok_iff.1 h
    obtain ⟨build, hbuild, h⟩ := Results.bind_eq_ok_iff.1 h
    obtain ⟨fields, hfields, -⟩ := Results.bind_eq_ok_iff.1 hbuild
    cases h
    refine ⟨slots, _, by rw [Shape.members, hkind]; exact hslots, fun slot hslot => ?_, rfl⟩
    obtain ⟨field, -, hfield⟩ := Results.exists_of_mapM hfields hslot
    obtain ⟨text, htext, -⟩ := Results.bind_eq_ok_iff.1 hfield
    exact ⟨text, htext⟩
  all_goals cases h

/-- **`build` is fallible exactly if it can fail.** So it is declared just if one of the members has to be
set, or has values that a server validates; and just if one of the fields that it is written with can fail, which
are those of such members. Then there are violations. -/
theorem build_fallible_exactly {m : Model} {settings : Settings} {s : Scope} {shape : Shape} (hm : m.Distinct)
    (hmake : Scope.make m settings = .ok s) (hshape : shape ∈ m.shapes) (hstruct : shape.isStruct = true) :
    (s.buildIsFallible shape = true ↔ ∃ member ∈ shape.members, m.Strict settings.target member) ∧
    ∀ items, s.builder shape = .ok items → ∃ fields : List Initializer,
      List.Forall₂ (fun member i => (i.CanFail ↔ m.Strict settings.target member) ∧
        ∃ slot, slotOf s shape.id member = .ok slot ∧ fieldInitializer s slot = .ok (i.text slot))
        shape.members fields ∧
      (s.buildIsFallible shape = true ↔ ∃ i ∈ fields, i.CanFail) ∧
      (s.buildIsFallible shape = true ↔ BuildCanFail fields) ∧
      (s.buildIsFallible shape = true → ∃ front variants arms, variants ≠ [] ∧
        items.inner = front ++ violationEnum "Debug, Clone, PartialEq" variants arms) := by
  have hfallible := buildIsFallible_iff hm hmake hshape hstruct
  refine ⟨hfallible, fun items hitems => ?_⟩
  obtain ⟨slots, front, hslots, hwritten, hinner⟩ := builder_eq_ok hitems
  have hmade : ∀ member ∈ shape.members, ∃ i, fieldOf s shape.id member = .ok i := by
    intro member hmember
    obtain ⟨slot, hslot, hof⟩ := Results.exists_of_mapM hslots hmember
    obtain ⟨text, htext⟩ := hwritten slot hslot
    rw [fieldInitializer_eq] at htext
    obtain ⟨i, hi, -⟩ := Results.map_eq_ok_iff.1 htext
    exact ⟨i, Results.bind_eq_ok_iff.2 ⟨slot, hof, hi⟩⟩
  obtain ⟨fields, hfields⟩ := Results.mapM_ok hmade
  have hfails : s.buildIsFallible shape = true ↔ ∃ i ∈ fields, i.CanFail := by
    rw [hfallible]
    constructor
    · rintro ⟨member, hmember, hstrict⟩
      obtain ⟨i, hi, hof⟩ := Results.exists_of_mapM hfields hmember
      exact ⟨i, hi, (fieldOf_eq_ok hm hmake hof).1.2 hstrict⟩
    · rintro ⟨i, hi, hfail⟩
      obtain ⟨member, hmember, hof⟩ := Results.exists_of_mem_mapM hfields hi
      exact ⟨member, hmember, (fieldOf_eq_ok hm hmake hof).1.1 hfail⟩
  refine ⟨fields, (Results.forall₂_of_mapM hfields).imp fun _ _ => fieldOf_eq_ok hm hmake, hfails,
    hfails.trans (buildCanFail_iff fields).symm, fun hyes => ?_⟩
  obtain ⟨member, hmember, hstrict⟩ := hfallible.1 hyes
  obtain ⟨slot, hslot, hof⟩ := Results.exists_of_mapM hslots hmember
  obtain ⟨variants, arms, hvariants, hviolations⟩ :=
    exists_variants shape hslot ((strict_iff hm hmake hof).2 hstrict)
  rw [hyes, if_pos rfl, hviolations] at hinner
  exact ⟨front, variants, arms, hvariants, hinner⟩

/-- A node with a label that has a default, and links that may lead back to it or come to an end. -/
def circleNode : Shape :=
  ⟨⟨"t#Node"⟩, .struct [⟨"label", ⟨"smithy.api#String"⟩, { default := some (.string "x?") }⟩,
    ⟨"link", ⟨"t#Link"⟩, {}⟩], {}⟩

/-- Of all members only the name at the end is required. -/
def circling : Model :=
  ⟨[simpleShape "String" .string, circleNode,
    ⟨⟨"t#Link"⟩, .union [⟨"back", ⟨"t#Node"⟩, { boxed := true }⟩, ⟨"end", ⟨"t#End"⟩, {}⟩], {}⟩,
    ⟨⟨"t#End"⟩, .struct [⟨"name", ⟨"smithy.api#String"⟩, { required := true }⟩], {}⟩]⟩

theorem circleNode_fallible :
    circling.Distinct ∧ circleNode ∈ circling.shapes ∧ circleNode.isStruct = true ∧
    ∃ s items, Scope.make circling (.server true) = .ok s ∧ s.builder circleNode = .ok items ∧
      (∃ member ∈ circleNode.members, circling.Strict .server member) ∧
      ∃ fields : List Initializer, fields.length = 2 ∧ BuildCanFail fields ∧
        ∃ front variants arms, variants ≠ [] ∧
          items.inner = front ++ violationEnum "Debug, Clone, PartialEq" variants arms := by
  have hdistinct : circling.Distinct := by decide
  have hnode : circleNode ∈ circling.shapes := by simp [circling]
  have hmake : Scope.make circling (.server true) =
      .ok ⟨circling, .server true, constrainedShapes circling .server, directionsOf circling⟩ := rfl
  obtain ⟨hfallible, hbuild⟩ := build_fallible_exactly hdistinct hmake hnode rfl
  have hyes : Scope.buildIsFallible
      ⟨circling, .server true, constrainedShapes circling .server, directionsOf circling⟩ circleNode = true := by
    decide
  have hsome : (Scope.builder ⟨circling, .server true, constrainedShapes circling .server, directionsOf circling⟩
      circleNode).toOption.isSome = true := by
    decide +kernel
  obtain ⟨items, hitems⟩ := Results.exists_of_isSome hsome
  obtain ⟨fields, hfields, -, hfails, hviolations⟩ := hbuild items hitems
  exact ⟨hdistinct, hnode, rfl, _, items, hmake, hitems, hfallible.1 hyes, fields, hfields.length_eq.symm,
    hfails.1 hyes, hviolations hyes⟩

end Code

end WireShapes
