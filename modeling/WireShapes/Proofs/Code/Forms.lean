import Mathlib.Data.List.Perm.Subperm
import WireShapes.Code.Builder
import WireShapes.Proofs.Code.Traversal
import WireShapes.Proofs.Constraint.Reachability

/-!
The three types of a shape, where there is no constraint.

* `Model.Nests`, `Model.Grounded`: what a list or map holds, and that none comes back to itself on that way
* `Model.PlainKeys`: keys of maps are texts
* `Scope.Free`: a shape that is not constrained; what it holds is free as well
* `Scope.typeRefWithin_free`: the three types of a free shape are one, found within as many steps as there are shapes
* `forms_agree`: hence a slot that is not constrained has the type of what is read
-/

namespace WireShapes

open Relation

namespace Model

variable {m : Model}

/-- A list or map of the first id holds values of the second, as elements, keys or values. -/
def Nests (m : Model) (a b : ShapeId) : Prop :=
  ∃ s ∈ m.shapes, s.id = a ∧ s.isCollection = true ∧ ∃ member ∈ s.members, member.target = b

/-- No list or map holds itself without a structure or union in between. -/
def Grounded (m : Model) : Prop := ∀ id, ¬TransGen m.Nests id id

/-- Keys of maps are strings or enumerations. -/
def PlainKeys (m : Model) : Prop :=
  ∀ s ∈ m.shapes, ∀ key value, s.kind = .map key value →
    ∃ target, m.get? key.target = some target ∧ (target.kind = .string ∨ ∃ variants, target.kind = .enum variants)

/-- A rank that goes down from a collection to what it holds leaves no room for a cycle. -/
theorem grounded_of_rank (rank : ShapeId → Nat)
    (h : ∀ s ∈ m.shapes, s.isCollection = true → ∀ member ∈ s.members, rank member.target < rank s.id) :
    m.Grounded := by
  intro id hcycle
  have hdown : ∀ a b, TransGen m.Nests a b → rank b < rank a := by
    intro a b hpath
    induction hpath with
    | single hedge =>
      obtain ⟨s, hs, rfl, hcollection, member, hmember, rfl⟩ := hedge
      exact h s hs hcollection member hmember
    | tail _ hedge ih =>
      obtain ⟨s, hs, rfl, hcollection, member, hmember, rfl⟩ := hedge
      exact Nat.lt_trans (h s hs hcollection member hmember) ih
  exact Nat.lt_irrefl _ (hdown id id hcycle)

end Model

namespace Code

namespace Scope

variable {m : Model} {settings : Settings} {s : Scope} {shape : Shape}

/-! ### Free shapes -/

def Free (s : Scope) (id : ShapeId) : Prop := s.isConstrained id = false

theorem Free.hasNewtype (h : s.Free shape.id) : s.hasNewtype shape = false := by
  rw [Scope.hasNewtype, h, Bool.false_and]

theorem Free.hasPublicNewtype (h : s.Free shape.id) : s.hasPublicNewtype shape = false := by
  rw [Scope.hasPublicNewtype, h.hasNewtype, Bool.false_and, Bool.false_and]

/-- On a client all shapes are free, and on a server those that the analysis leaves out. -/
theorem free_iff (hmake : Scope.make m settings = .ok s) {id : ShapeId} :
    s.Free id ↔ (settings.target = .server → id ∉ constrainedShapes m .server) := by
  obtain rfl := eq_of_make hmake
  unfold Free isConstrained
  rw [List.contains_eq_mem, decide_eq_false_iff_not]
  cases htarget : settings.target with
  | client => simp [constrainedShapes]
  | server => simp

section Made

variable (hmake : Scope.make m settings = .ok s)
include hmake

theorem Free.client_of_enum (hshape : shape ∈ m.shapes) (hfree : s.Free shape.id) {variants : List Variant}
    (hkind : shape.kind = .enum variants) : s.isServer = false := by
  cases htarget : settings.target with
  | client =>
    obtain rfl := eq_of_make hmake
    show settings.isServer = false
    rw [Settings.isServer, htarget]
    rfl
  | server =>
    have hsource : m.isConstraintSource shape = true := by
      unfold Model.isConstraintSource Shape.isDirectlyConstrained
      rw [hkind, Bool.true_or]
    exact absurd (Model.mem_constrainedShapes_of_source hshape hsource) ((free_iff hmake).1 hfree htarget)

variable (hm : m.Distinct)
include hm

theorem free_of_isEventStream (hshape : shape ∈ m.shapes) (h : shape.isEventStream = true) : s.Free shape.id := by
  refine (free_iff hmake).2 fun _ hin => ?_
  obtain ⟨found, hget, source, hpath, hsource⟩ := (Model.mem_constrainedShapes_iff hm).1 hin
  obtain rfl : shape = found := Option.some.inj ((Model.get?_of_mem hm hshape).symm.trans hget)
  rcases hpath.cases_head with rfl | ⟨held, hedge, -⟩
  · have hunion : shape.isUnion = true := by
      rw [Shape.isEventStream, Bool.and_eq_true] at h
      exact h.1
    unfold Shape.isUnion at hunion
    unfold Model.Source Model.Mandatory Shape.isDirectlyConstrained Shape.isStruct at hsource
    cases hkind : shape.kind <;> simp_all
  · exact absurd hedge.holder (by simp [h])

/-- **What a free list or map holds is free.** -/
theorem Free.target (hshape : shape ∈ m.shapes) (hfree : s.Free shape.id) (hcollection : shape.isCollection = true)
    {member : Member} (hmember : member ∈ shape.members) {target : Shape} (htarget : m.get? member.target = some target) :
    s.Free target.id := by
  cases hstream : target.isEventStream with
  | true => exact free_of_isEventStream hmake hm (Model.mem_of_get? htarget) hstream
  | false =>
    have hplain : shape.isEventStream = false := by
      unfold Shape.isCollection at hcollection
      unfold Shape.isEventStream Shape.isUnion
      cases hkind : shape.kind <;> simp_all
    have hholds : m.Holds shape target := ⟨.inr hcollection, hplain, hstream, member, hmember, htarget⟩
    refine (free_iff hmake).2 fun hserver hin => (free_iff hmake).1 hfree hserver ?_
    exact Model.mem_constrainedShapes_of_holds hshape (Model.holdsAny_of_holds hholds hin)

end Made

/-! ### Types -/

theorem typeRefWithin_string (hfree : s.Free shape.id) (hkind : shape.kind = .string) (form : Form) (depth : Nat) :
    s.typeRefWithin form (depth + 1) shape = .ok (.external "String" stringType) := by
  unfold typeRefWithin simpleType?
  simp [hkind, hfree.hasNewtype, hfree.hasPublicNewtype]

/-- The type of a free shape in any form, as it is for a shape that no constraint and no raw text changes. -/
theorem typeRefWithin_eq (hfree : s.Free shape.id)
    (henum : ∀ variants, shape.kind = .enum variants → s.isServer = false) (form : Form) (depth : Nat) :
    s.typeRefWithin form (depth + 1) shape =
      if shape.isCollection then s.collectionType form shape (s.typeRefWithin form depth)
      else s.typeRefWithin .exposed 1 shape := by
  have hraw : s.isConstrained shape.id = false := hfree
  unfold typeRefWithin Shape.isCollection
  cases hkind : shape.kind <;>
    simp [hraw, hfree.hasNewtype, hfree.hasPublicNewtype]
  case enum variants => simp [henum variants hkind]

/-- A list or map has the same type if what it holds has the same types. -/
theorem collectionType_congr {form : Form} {typeOf typeOf' : Shape → Except ModelError TypeRef}
    (hsame : ∀ member ∈ shape.members, ∀ target, s.model.get? member.target = some target →
      typeOf target = typeOf' target)
    (hkey : ∀ key value, shape.kind = .map key value → form = .raw → s.isServer = true →
      ∃ target t, s.model.target key = .ok target ∧ typeOf' target = .ok t ∧ t.render = stringType) :
    s.collectionType form shape typeOf = s.collectionType .exposed shape typeOf' := by
  have hresolved : ∀ member ∈ shape.members, (s.model.target member >>= typeOf) = (s.model.target member >>= typeOf') := by
    intro member hmember
    cases htarget : s.model.target member with
    | error e => rfl
    | ok target => exact hsame member hmember target (target_eq htarget)
  unfold collectionType
  cases hkind : shape.kind with
  | list member =>
    have hmember := hresolved member (by simp [Shape.members, hkind])
    simp only [← bind_assoc, hmember]
  | map key value =>
    have hvalue := hresolved value (by simp [Shape.members, hkind])
    have hkeys := hresolved key (by simp [Shape.members, hkind])
    by_cases hraw : form = .raw ∧ s.isServer = true
    · obtain ⟨target, t, htarget, ht, hrender⟩ := hkey key value hkind hraw.1 hraw.2
      simp [← bind_assoc, hvalue, hraw.1, hraw.2, htarget, ht, hrender]
    · have hplain : (decide (form = .raw) && s.isServer) = false := by simpa using hraw
      simp [← bind_assoc, hvalue, hkeys, hplain]
  | _ => rfl

/-- The collections on the way to a shape, each once, and as many steps as are left for the others. -/
structure Approach (m : Model) (visited : List ShapeId) (shape : Shape) (depth : Nat) : Prop where
  listed : shape ∈ m.shapes
  once : visited.Nodup
  known : visited ⊆ m.shapes.map Shape.id
  holds : ∀ id ∈ visited, TransGen m.Nests id shape.id
  enough : m.shapes.length < visited.length + depth

/-- There is always a step left. -/
theorem Approach.exists_depth {visited : List ShapeId} {depth : Nat} (h : Approach m visited shape depth) :
    ∃ rest, depth = rest + 1 := by
  have hle := (h.once.subperm h.known).length_le
  have henough := h.enough
  rw [List.length_map] at hle
  exact ⟨depth - 1, by omega⟩

theorem Approach.step (hground : m.Grounded) {visited : List ShapeId} {depth : Nat} (h : Approach m visited shape (depth + 1))
    (hcollection : shape.isCollection = true) {member : Member} (hmember : member ∈ shape.members) {target : Shape}
    (htarget : m.get? member.target = some target) : Approach m (shape.id :: visited) target depth := by
  have hedge : m.Nests shape.id target.id :=
    ⟨shape, h.listed, rfl, hcollection, member, hmember, (Model.id_of_get? htarget).symm⟩
  have hnew : shape.id ∉ visited := fun hin => hground shape.id (h.holds shape.id hin)
  refine ⟨Model.mem_of_get? htarget, List.nodup_cons.2 ⟨hnew, h.once⟩, ?_, ?_, ?_⟩
  · exact List.cons_subset.2 ⟨List.mem_map_of_mem h.listed, h.known⟩
  · rintro id hid
    rcases List.mem_cons.1 hid with rfl | hid
    · exact .single hedge
    · exact (h.holds id hid).tail hedge
  · have henough := h.enough
    rw [List.length_cons]
    omega

section Made

variable (hmake : Scope.make m settings = .ok s) (hm : m.Distinct) (hkeys : m.PlainKeys)
include hmake hm hkeys

theorem typeRef_key (hshape : shape ∈ m.shapes) (hfree : s.Free shape.id) {key value : Member}
    (hkind : shape.kind = .map key value) (hserver : s.isServer = true) (form : Form) (depth : Nat) :
    ∃ target t, s.model.target key = .ok target ∧ s.typeRefWithin form (depth + 1) target = .ok t ∧
      t.render = stringType := by
  have hmodel : s.model = m := by rw [eq_of_make hmake]
  obtain ⟨target, htarget, hplain⟩ := hkeys shape hshape key value hkind
  have hcollection : shape.isCollection = true := by rw [Shape.isCollection, hkind]
  have hkey : key ∈ shape.members := by simp [Shape.members, hkind]
  have hheld : s.Free target.id := hfree.target hmake hm hshape hcollection hkey htarget
  have hstring : target.kind = .string := by
    rcases hplain with hstring | ⟨variants, henum⟩
    · exact hstring
    · have hclient := hheld.client_of_enum hmake (Model.mem_of_get? htarget) henum
      rw [hserver] at hclient
      cases hclient
  refine ⟨target, _, ?_, typeRefWithin_string hheld hstring form depth, rfl⟩
  rw [Model.target, Model.expect, hmodel, htarget]

variable (hground : m.Grounded)
include hground

/-- **The three types of a free shape are one,** however many steps are left if there are enough of them. -/
theorem typeRefWithin_free {visited : List ShapeId} {depth : Nat} (h : Approach m visited shape depth)
    (hfree : s.Free shape.id) {depth' : Nat} (h' : Approach m visited shape depth') (form : Form) :
    s.typeRefWithin form depth shape = s.typeRefWithin .exposed depth' shape := by
  have hmodel : s.model = m := by rw [eq_of_make hmake]
  induction depth generalizing visited shape depth' with
  | zero =>
    obtain ⟨rest, hrest⟩ := h.exists_depth
    omega
  | succ depth ih =>
    obtain ⟨depth', rfl⟩ := h'.exists_depth
    have henum : ∀ variants, shape.kind = .enum variants → s.isServer = false :=
      fun _ hkind => hfree.client_of_enum hmake h.listed hkind
    rw [typeRefWithin_eq hfree henum form, typeRefWithin_eq hfree henum .exposed depth']
    split
    · next hcollection =>
      refine collectionType_congr ?_ ?_
      · intro member hmember target htarget
        rw [hmodel] at htarget
        have hheld := hfree.target hmake hm h.listed hcollection hmember htarget
        exact ih (h.step hground hcollection hmember htarget) hheld (h'.step hground hcollection hmember htarget)
      · intro key value hkind _ hserver
        obtain ⟨target, htarget, -⟩ := hkeys shape h.listed key value hkind
        have hkey : key ∈ shape.members := by simp [Shape.members, hkind]
        obtain ⟨rest, rfl⟩ := (h'.step hground hcollection hkey htarget).exists_depth
        exact typeRef_key hmake hm hkeys h.listed hfree hkind hserver .exposed rest
    · rfl

theorem typeRef_free (hshape : shape ∈ m.shapes) (hfree : s.Free shape.id) (form : Form) {depth : Nat}
    (hdepth : m.shapes.length < depth) : s.typeRefWithin form depth shape = s.typeRef .exposed shape := by
  have hstart : ∀ depth, m.shapes.length < depth → Approach m [] shape depth := by
    intro depth hdepth
    exact ⟨hshape, List.nodup_nil, List.nil_subset _, fun _ hid => absurd hid List.not_mem_nil, by simpa using hdepth⟩
  have hmodel : s.model = m := by rw [eq_of_make hmake]
  rw [typeRef, hmodel]
  exact typeRefWithin_free hmake hm hkeys hground (hstart depth hdepth) hfree (hstart _ (Nat.lt_succ_self _)) form

end Made

end Scope

/-! ### Slots and readers -/

open Generator in
/-- **A reader gives values of the raw type of its shape.** -/
theorem signature_of_readerCode {s : Scope} {call : ReadCall} {name : String} {shape : Shape} {f f' : Functions}
    {code : List Step} (h : Runs (readerCode s call name shape) f code f') :
    ∃ output body, s.typeText .raw shape = .ok output ∧ code = [block (readerSignature s name output) body] := by
  unfold readerCode at h
  cases hkind : shape.kind <;> rw [hkind] at h
  case struct members =>
    obtain ⟨output, houtput, h⟩ := runs_lift_bind.1 h
    obtain ⟨_, _, -, h⟩ := runs_bind.1 h
    exact ⟨output, _, houtput, (runs_pure.1 h).1⟩
  case union members =>
    obtain ⟨output, houtput, h⟩ := runs_lift_bind.1 h
    obtain ⟨_, -, h⟩ := runs_lift_bind.1 h
    obtain ⟨_, _, -, h⟩ := runs_bind.1 h
    exact ⟨output, _, houtput, (runs_pure.1 h).1⟩
  case list member =>
    obtain ⟨output, houtput, h⟩ := runs_lift_bind.1 h
    obtain ⟨_, -, h⟩ := runs_lift_bind.1 h
    obtain ⟨_, _, -, h⟩ := runs_bind.1 h
    exact ⟨output, _, houtput, (runs_pure.1 h).1⟩
  case map key value =>
    obtain ⟨output, houtput, h⟩ := runs_lift_bind.1 h
    obtain ⟨_, -, h⟩ := runs_lift_bind.1 h
    -- whatever the expression of the key is, the rest is the same
    split at h <;> obtain ⟨_, _, -, h⟩ := runs_bind.1 h <;> obtain ⟨_, -, h⟩ := runs_lift_bind.1 h <;>
      obtain ⟨_, _, -, h⟩ := runs_bind.1 h <;> exact ⟨output, _, houtput, (runs_pure.1 h).1⟩
  all_goals exact absurd h not_runs_throw

/-- What a slot knows about the member that it is made for. -/
structure Slot.Knows (s : Scope) (member : Member) (slot : Slot) : Prop where
  own : slot.member = member
  target : s.model.target member = .ok slot.target
  stream : slot.stream.isSome = slot.target.isEventStream
  constrained : slot.constrained = (slot.stream.isNone && s.isConstrained slot.target.id)
  exposed : slot.stream = none → s.typeText .exposed slot.target = .ok slot.exposedType

theorem knows_of_slotOf {s : Scope} {container : ShapeId} {member : Member} {slot : Slot}
    (h : slotOf s container member = .ok slot) : slot.Knows s member := by
  unfold slotOf at h
  obtain ⟨target, htarget, h⟩ := Results.bind_eq_ok_iff.1 h
  dsimp only at h
  split at h
  · next hevents =>
    obtain ⟨stream, hstream, h⟩ := Results.bind_eq_ok_iff.1 h
    obtain ⟨type, -, rfl⟩ := Results.map_eq_ok_iff.1 hstream
    cases h
    exact ⟨rfl, htarget, hevents.symm, rfl, fun hnone => (nomatch hnone)⟩
  · next hplain =>
    obtain ⟨stream, hstream, h⟩ := Results.bind_eq_ok_iff.1 h
    cases hstream
    obtain ⟨exposed, hexposed, h⟩ := Results.bind_eq_ok_iff.1 h
    obtain ⟨raw, -, h⟩ := Results.bind_eq_ok_iff.1 h
    obtain ⟨constrained, -, h⟩ := Results.bind_eq_ok_iff.1 h
    cases h
    exact ⟨rfl, htarget, (Bool.eq_false_iff.2 hplain).symm, rfl, fun _ => hexposed⟩

/-- What a slot holds, if it is not that of an event stream. -/
theorem slotOf_eq_ok {s : Scope} {container : ShapeId} {member : Member} {slot : Slot}
    (h : slotOf s container member = .ok slot) (hstream : slot.stream = none) :
    s.model.target member = .ok slot.target ∧ slot.constrained = s.isConstrained slot.target.id ∧
      s.typeText .exposed slot.target = .ok slot.exposedType := by
  have hknows := knows_of_slotOf h
  refine ⟨hknows.target, ?_, hknows.exposed hstream⟩
  rw [hknows.constrained, hstream, Option.isNone_none, Bool.true_and]

/-- **The three types of a shape differ only where a constraint is.** On a client they are the same for every shape, and on
a server for every shape that the analysis leaves out: the same type, or the same failure, which the bound on the
steps has no part in. So a slot that is not constrained has the type of the values that are read for it, and what
the reader of its shape gives can be stored as it is. -/
theorem forms_agree {m : Model} {settings : Settings} {s : Scope} (hm : m.Distinct)
    (hmake : Scope.make m settings = .ok s) (hkeys : m.PlainKeys) (hground : m.Grounded) :
    (∀ shape ∈ m.shapes, (settings.target = .server → shape.id ∉ constrainedShapes m .server) →
      ∀ form, s.typeRef form shape = s.typeRef .exposed shape ∧
        ∀ depth, m.shapes.length < depth → s.typeRefWithin form depth shape = s.typeRef .exposed shape) ∧
    (∀ container member slot, slotOf s container member = .ok slot → slot.stream = none → slot.constrained = false →
      s.typeText .raw slot.target = .ok slot.exposedType ∧
      slotType s slot = (if slot.boxed then s!"::std::option::Option<::std::boxed::Box<{slot.exposedType}>>"
        else s!"::std::option::Option<{slot.exposedType}>") ∧
      ∀ call name f code f', Generator.Runs (readerCode s call name slot.target) f code f' →
        ∃ body, code = [block (readerSignature s name slot.exposedType) body]) := by
  have hmodel : s.model = m := by rw [Scope.eq_of_make hmake]
  refine ⟨fun shape hshape hout form => ?_, fun container member slot hslot hstream hplain => ?_⟩
  · have hfree := (Scope.free_iff hmake).2 hout
    have hall : ∀ depth, m.shapes.length < depth → s.typeRefWithin form depth shape = s.typeRef .exposed shape :=
      fun _ hdepth => Scope.typeRef_free hmake hm hkeys hground hshape hfree form hdepth
    refine ⟨?_, hall⟩
    rw [Scope.typeRef, hmodel]
    exact hall _ (Nat.lt_succ_self _)
  · obtain ⟨htarget, hconstrained, hexposed⟩ := slotOf_eq_ok hslot hstream
    have hfree : s.Free slot.target.id := hconstrained.symm.trans hplain
    have hlisted : slot.target ∈ m.shapes := by
      have hget := target_eq htarget
      rw [hmodel] at hget
      exact Model.mem_of_get? hget
    have hraw : s.typeText .raw slot.target = .ok slot.exposedType := by
      have hsame := Scope.typeRef_free hmake hm hkeys hground hlisted hfree .raw (Nat.lt_succ_self _)
      rw [← hexposed, Scope.typeText, Scope.typeText, ← hsame, Scope.typeRef, hmodel]
    refine ⟨hraw, ?_, ?_⟩
    · rw [slotType, hstream, hplain]
      rfl
    · intro call name f code f' hrun
      obtain ⟨output, body, houtput, rfl⟩ := signature_of_readerCode hrun
      obtain rfl : slot.exposedType = output := Except.ok.inj (hraw.symm.trans houtput)
      exact ⟨body, rfl⟩

/-- Rows of cells under texts, a grid of rows, and a short name beside it. -/
def gridded : Model :=
  ⟨[simpleShape "String" .string,
    ⟨⟨"t#Cell"⟩, .struct [⟨"text", ⟨"smithy.api#String"⟩, {}⟩], {}⟩,
    ⟨⟨"t#Row"⟩, .map ⟨"key", ⟨"smithy.api#String"⟩, {}⟩ ⟨"value", ⟨"t#Cell"⟩, {}⟩, { sparse := true }⟩,
    ⟨⟨"t#Grid"⟩, .list ⟨"member", ⟨"t#Row"⟩, {}⟩, {}⟩,
    ⟨⟨"t#Name"⟩, .string, { length := some ⟨none, some 3⟩ }⟩,
    ⟨⟨"t#Sheet"⟩, .struct [⟨"grid", ⟨"t#Grid"⟩, {}⟩, ⟨"name", ⟨"t#Name"⟩, {}⟩], {}⟩]⟩

def grid : Shape := ⟨⟨"t#Grid"⟩, .list ⟨"member", ⟨"t#Row"⟩, {}⟩, {}⟩

/-- How deep the collections of the model are nested. -/
def griddedRank (id : ShapeId) : Nat :=
  if id.text = "t#Grid" then 2 else if id.text = "t#Row" then 1 else 0

theorem plainKeys_gridded : gridded.PlainKeys := by
  intro s hs key value hkind
  simp only [gridded, List.mem_cons, List.not_mem_nil, or_false] at hs
  rcases hs with rfl | rfl | rfl | rfl | rfl | rfl <;> cases hkind
  exact ⟨_, rfl, .inl rfl⟩

theorem gridded_alike :
    gridded.Distinct ∧ gridded.PlainKeys ∧ gridded.Grounded ∧
    ∃ s, Scope.make gridded (.server true) = .ok s ∧ grid ∈ gridded.shapes ∧ s.isConstrained ⟨"t#Sheet"⟩ = true ∧
      s.typeRef .raw grid = s.typeRef .exposed grid ∧ s.typeRef .constrained grid = s.typeRef .exposed grid ∧
      (s.typeText .exposed grid).toOption = some
        "::std::vec::Vec<::std::collections::HashMap<::std::string::String, ::std::option::Option<crate::model::Cell>>>" := by
  have hdistinct : gridded.Distinct := by decide
  have hground : gridded.Grounded := Model.grounded_of_rank griddedRank (by decide)
  have hgrid : grid ∈ gridded.shapes := by simp [gridded, grid]
  have hout : grid.id ∉ constrainedShapes gridded .server := by decide
  have hmake : Scope.make gridded (.server true) =
      .ok ⟨gridded, .server true, constrainedShapes gridded .server, directionsOf gridded⟩ := rfl
  obtain ⟨hforms, -⟩ := forms_agree hdistinct hmake plainKeys_gridded hground
  have hsame := hforms grid hgrid fun _ => hout
  exact ⟨hdistinct, plainKeys_gridded, hground, _, hmake, hgrid, by decide, (hsame .raw).1, (hsame .constrained).1,
    by decide +kernel⟩

end Code

end WireShapes
