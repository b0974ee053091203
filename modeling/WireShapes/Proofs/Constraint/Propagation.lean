import WireShapes.Code.TypeRef
import WireShapes.Model.Lowering
import WireShapes.Proofs.Saturation

/-!
How constraints come to the shapes that hold them.

* `constrainedShapes_server`: the rounds of the analysis, which start from its sources
* `Model.mem_sweep_of_keeps`, `Model.sweep_fresh`, `Model.mem_of_sweep_eq_nil`: what one of them adds
* `mem_constrainedShapes_of_source`, `mem_constrainedShapes_of_holds`: the sources are in, and with a
  shape all that hold it
* `Traits.restrict`: the traits that restrict the values of a kind of shape
* `restricted_reaches_holder`: what a trait on the target of a member does to the shape of the member
-/

namespace WireShapes

namespace Model

variable {m : Model}

theorem constraintClosure_eq (m : Model) (rounds : Nat) (ids : List ShapeId) :
    m.constraintClosure rounds ids = saturate (m.sweep m.shapes) rounds ids := by
  induction rounds generalizing ids with
  | zero => rfl
  | succ rounds ih =>
    rw [constraintClosure, saturate, ← ih]

/-! ### A sweep -/

theorem holdsAny_iff {ids : List ShapeId} {s : Shape} :
    m.holdsAny ids s = true ↔ s.isEventStream = false ∧
      ∃ member ∈ s.members, member.target ∈ ids ∧ m.isStreamMember member = false := by
  simp [holdsAny]

/-- **What a sweep keeps.** Whatever comes in holds one of the ids that are there when its turn comes. -/
theorem mem_sweep_of_keeps {P : ShapeId → Prop} {shapes : List Shape} {ids : List ShapeId}
    (keeps : ∀ s ∈ shapes, ∀ seen, (∀ id ∈ seen, P id) → m.holdsAny seen s = true → P s.id)
    (hids : ∀ id ∈ ids, P id) : ∀ id ∈ m.sweep shapes ids, P id := by
  induction shapes generalizing ids with
  | nil => simp [sweep]
  | cons s rest ih =>
    have hrest := fun t ht => keeps t (List.mem_cons_of_mem s ht)
    rw [sweep]
    split
    · next hnew =>
      rw [Bool.and_eq_true] at hnew
      have hs : P s.id := keeps s List.mem_cons_self ids hids hnew.2
      refine List.forall_mem_cons.2 ⟨hs, ih hrest ?_⟩
      exact List.forall_mem_append.2 ⟨hids, by simpa using hs⟩
    · exact ih hrest hids

theorem sweep_fresh {shapes : List Shape} {ids : List ShapeId} :
    ∀ id ∈ m.sweep shapes ids, id ∈ shapes.map Shape.id ∧ id ∉ ids := by
  induction shapes generalizing ids with
  | nil => simp [sweep]
  | cons s rest ih =>
    intro id hid
    rw [sweep] at hid
    split at hid
    · next hnew =>
      rcases List.mem_cons.1 hid with rfl | hid
      · exact ⟨List.mem_cons_self, by simp_all⟩
      · obtain ⟨hrest, hout⟩ := ih id hid
        exact ⟨List.mem_cons_of_mem _ hrest, fun hin => hout (List.mem_append_left _ hin)⟩
    · obtain ⟨hrest, hout⟩ := ih id hid
      exact ⟨List.mem_cons_of_mem _ hrest, hout⟩

/-- A sweep that adds nothing has found no shape that holds one of the ids. -/
theorem mem_of_sweep_eq_nil {shapes : List Shape} {ids : List ShapeId} (h : m.sweep shapes ids = []) :
    ∀ s ∈ shapes, m.holdsAny ids s = true → s.id ∈ ids := by
  induction shapes with
  | nil => simp
  | cons s rest ih =>
    rw [sweep] at h
    split at h
    · cases h
    · next hold =>
      refine List.forall_mem_cons.2 ⟨fun hholds => ?_, ih h⟩
      simpa [hholds] using hold

/-! ### All sweeps -/

def constraintSources (m : Model) : List ShapeId := (m.shapes.filter m.isConstraintSource).map (·.id)

theorem constrainedShapes_server (m : Model) :
    constrainedShapes m .server = saturate (m.sweep m.shapes) m.shapes.length m.constraintSources :=
  constraintClosure_eq m m.shapes.length m.constraintSources

theorem mem_constrainedShapes_of_source {s : Shape} (hs : s ∈ m.shapes)
    (hsource : m.isConstraintSource s = true) : s.id ∈ constrainedShapes m .server := by
  rw [constrainedShapes_server]
  apply subset_saturate
  unfold constraintSources
  exact List.mem_map.2 ⟨s, List.mem_filter.2 ⟨hs, hsource⟩, rfl⟩

/-- There is a round for each shape, so that the last sweep finds nothing more. -/
theorem sweep_constrainedShapes (m : Model) : m.sweep m.shapes (constrainedShapes m .server) = [] := by
  have hbound : (missing (m.shapes.map Shape.id) m.constraintSources).length ≤ m.shapes.length := by
    have hall := length_missing_le (m.shapes.map Shape.id) m.constraintSources
    rwa [List.length_map] at hall
  rw [constrainedShapes_server]
  exact next_saturate_eq_nil (fun _ => sweep_fresh) hbound

/-- **A shape that holds a constrained one is constrained.** -/
theorem mem_constrainedShapes_of_holds {s : Shape} (hs : s ∈ m.shapes)
    (hholds : m.holdsAny (constrainedShapes m .server) s = true) :
    s.id ∈ constrainedShapes m .server :=
  mem_of_sweep_eq_nil (sweep_constrainedShapes m) s hs hholds

end Model

/-! ### Traits on the target of a member -/

/-- One of the traits restricts the values of a shape of the kind. -/
def Traits.restrict (traits : Traits) (kind : Kind) : Bool :=
  match kind with
  | .string => traits.length.isSome || traits.pattern.isSome
  | .number _ => traits.range.isSome
  | .blob => traits.length.isSome
  | .list _ => traits.length.isSome
  | .map _ _ => traits.length.isSome
  | _ => false

theorem isDirectlyConstrained_of_restrict {s : Shape} (h : s.traits.restrict s.kind = true) :
    s.isDirectlyConstrained = true := by
  unfold Shape.isDirectlyConstrained
  unfold Traits.restrict at h
  cases hkind : s.kind <;> simp_all

theorem isEventStream_of_restrict {s : Shape} (h : s.traits.restrict s.kind = true) :
    s.isEventStream = false := by
  unfold Shape.isEventStream Shape.isUnion
  unfold Traits.restrict at h
  cases hkind : s.kind <;> simp_all

namespace Code.Scope

variable {m : Model} {settings : Settings} {s : Scope}

theorem constrained_of_make (h : Scope.make m settings = .ok s) (htarget : settings.target = .server) :
    s.constrained = constrainedShapes m .server ∧ s.isServer = true := by
  have hs := eq_of_make h
  subst hs
  refine ⟨?_, ?_⟩
  · show constrainedShapes m settings.target = constrainedShapes m .server
    rw [htarget]
  · show settings.isServer = true
    unfold Settings.isServer
    rw [htarget]
    rfl

end Code.Scope

open Code in
/-- **A trait on the target of a member reaches the shape of the member.** The server has the shape
among the constrained ones, and what it reads for the shape is not the shape itself: a structure is read
as its builder, which can fail, a union as its unconstrained form, and a collection is put into a type of
validated values. -/
theorem restricted_reaches_holder {m : Model} {holder target : Shape} {member : Member}
    (hholder : holder ∈ m.shapes) (hstream : holder.isEventStream = false)
    (hmember : member ∈ holder.members) (htarget : m.get? member.target = some target)
    (hrestrict : target.traits.restrict target.kind = true) :
    holder.id ∈ constrainedShapes m .server ∧
    ∀ (settings : Settings) (s : Scope), settings.target = .server → Scope.make m settings = .ok s →
      (holder.isStruct = true → s.buildIsFallible holder = true ∧
        s.typeRef .raw holder = .ok (.generated (s.shapeModule holder.id) "Builder")) ∧
      (holder.isUnion = true →
        s.typeRef .raw holder = .ok (.generated (s.shapeModule holder.id) "Unconstrained")) ∧
      (holder.isCollection = true → s.hasNewtype holder = true) := by
  have hconstrained : holder.id ∈ constrainedShapes m .server := by
    have hsource : m.isConstraintSource target = true := by
      unfold Model.isConstraintSource
      rw [isDirectlyConstrained_of_restrict hrestrict, Bool.true_or]
    have hin := Model.mem_constrainedShapes_of_source (Model.mem_of_get? htarget) hsource
    rw [Model.id_of_get? htarget] at hin
    refine Model.mem_constrainedShapes_of_holds hholder ?_
    unfold Model.holdsAny
    rw [hstream, Bool.not_false, Bool.true_and, List.any_eq_true]
    refine ⟨member, hmember, ?_⟩
    have hplain : m.isStreamMember member = false := by
      unfold Model.isStreamMember
      rw [htarget]
      exact isEventStream_of_restrict hrestrict
    rw [hplain, Bool.not_false, Bool.and_true]
    exact List.contains_iff_mem.2 hin
  refine ⟨hconstrained, ?_⟩
  intro settings s hserver hmake
  obtain ⟨hids, hside⟩ := Scope.constrained_of_make hmake hserver
  have hmark : s.isConstrained holder.id = true := by
    unfold Scope.isConstrained
    rw [hids]
    exact List.contains_iff_mem.2 hconstrained
  refine ⟨?_, ?_, ?_⟩
  · intro hstruct
    refine ⟨by rw [Scope.buildIsFallible, hside, if_pos rfl, hmark], ?_⟩
    unfold Shape.isStruct at hstruct
    unfold Scope.typeRef Scope.typeRefWithin
    cases hkind : holder.kind <;> simp_all
  · intro hunion
    unfold Shape.isUnion at hunion
    unfold Scope.typeRef Scope.typeRefWithin
    cases hkind : holder.kind <;> simp_all
  · intro hcollection
    unfold Shape.isCollection at hcollection
    rw [Scope.hasNewtype, hmark, Bool.true_and]
    unfold isWrappable
    cases hkind : holder.kind <;> simp_all

/-- A text of at most three characters. -/
def short : Shape := ⟨⟨"t#Short"⟩, .string, { length := some ⟨none, some 3⟩ }⟩

def shorts : Shape := ⟨⟨"t#Shorts"⟩, .list ⟨"member", short.id, {}⟩, {}⟩

/-- A text that must not be empty, by a trait on the member. -/
def noteText : Member := ⟨"text", ⟨"smithy.api#String"⟩, { length := some ⟨some 1, none⟩ }⟩

def note : Shape := ⟨⟨"t#Note"⟩, .struct [noteText], {}⟩

/-- A stream with a short text among its events. -/
def shortEvents : Shape := ⟨⟨"t#Events"⟩, .union [⟨"short", short.id, {}⟩], { streaming := true }⟩

def noted : Model := ⟨[simpleShape "String" .string, short, shorts, note, shortEvents]⟩

open Code in
theorem shorts_validated :
    shorts.id ∈ constrainedShapes noted .server ∧
    ∀ s, Scope.make noted (.server true) = .ok s → s.hasNewtype shorts = true := by
  have hholder : shorts ∈ noted.shapes := by simp [noted]
  have hmember : ⟨"member", short.id, {}⟩ ∈ shorts.members := by simp [shorts, Shape.members]
  obtain ⟨hin, hforms⟩ := restricted_reaches_holder hholder rfl hmember rfl rfl
  refine ⟨hin, ?_⟩
  intro s hmake
  exact (hforms _ s rfl hmake).2.2 rfl

/-- Not every trait reaches the holder: neither one on a member itself, nor one on the target of a member
of an event stream. -/
theorem noted_unmarked :
    (note ∈ noted.shapes ∧ noteText ∈ note.members ∧
      lowerMember note.id "text"
        ⟨"smithy.api#String", [("smithy.api#length", .object [("min", .number (.natural 1))])]⟩ = .ok noteText ∧
      (∃ target, noted.get? noteText.target = some target ∧ noteText.traits.restrict target.kind = true) ∧
      note.id ∉ constrainedShapes noted .server) ∧
    (shortEvents ∈ noted.shapes ∧ shortEvents.isUnion = true ∧
      (∃ member ∈ shortEvents.members, ∃ target,
        noted.get? member.target = some target ∧ target.traits.restrict target.kind = true) ∧
      shortEvents.id ∉ constrainedShapes noted .server) := by
  refine ⟨⟨?_, ?_, rfl, ⟨_, rfl, rfl⟩, by decide⟩, ⟨?_, rfl, ⟨_, .head _, _, rfl, rfl⟩, by decide⟩⟩
  · simp [noted]
  · simp [note, Shape.members]
  · simp [noted]

end WireShapes
