import Mathlib.Logic.Relation
import WireShapes.Proofs.Constraint.Propagation
import WireShapes.Proofs.Model.Distinct

/-!
Which shapes are constrained, without the sweeps.

* `Model.Holds`: an edge from a shape to one that it holds in a member
* `Model.Source`: where constraints come from
* `mem_constrainedShapes_iff`: the constrained shapes are those from which a source is reached
* `constrainedShapes_exact`: hence neither the order of the shapes nor further sweeps matter
-/

namespace WireShapes

open Relation

namespace Model

variable {m m' : Model}

/-- A value of the first shape holds values of the second in a member; neither of the two is an event
stream. -/
structure Holds (m : Model) (a b : Shape) : Prop where
  aggregate : a.isInline = true ∨ a.isCollection = true
  holder : a.isEventStream = false
  held : b.isEventStream = false
  member : ∃ member ∈ a.members, m.get? member.target = some b

/-- A structure with a member that is required and has no default, or that is an event stream. -/
def Mandatory (m : Model) (s : Shape) : Prop :=
  s.isStruct = true ∧ ∃ member ∈ s.members,
    (member.traits.required = true ∧ member.traits.default.isNone = true) ∨
      ∃ stream, m.get? member.target = some stream ∧ stream.isEventStream = true

def Source (m : Model) (s : Shape) : Prop := s.isDirectlyConstrained = true ∨ m.Mandatory s

theorem isStreamMember_iff {member : Member} :
    m.isStreamMember member = true ↔
      ∃ stream, m.get? member.target = some stream ∧ stream.isEventStream = true := by
  unfold isStreamMember
  cases m.get? member.target <;> simp

theorem isConstraintSource_iff {s : Shape} : m.isConstraintSource s = true ↔ m.Source s := by
  unfold isConstraintSource hasMandatoryMember Source Mandatory Member.isMandatory
  simp [isStreamMember_iff]

theorem aggregate_of_mem {s : Shape} {member : Member} (h : member ∈ s.members) :
    s.isInline = true ∨ s.isCollection = true := by
  unfold Shape.members at h
  unfold Shape.isInline Shape.isStruct Shape.isUnion Shape.isCollection
  cases hkind : s.kind <;> simp_all

/-- A shape that holds one of the ids has an edge to the shape of that id. -/
theorem exists_holds {ids : List ShapeId} {s : Shape} (h : m.holdsAny ids s = true)
    (hids : ∀ id ∈ ids, ∃ b, m.get? id = some b) : ∃ b, m.Holds s b ∧ b.id ∈ ids := by
  obtain ⟨hstream, member, hmember, htarget, hplain⟩ := holdsAny_iff.1 h
  obtain ⟨b, hb⟩ := hids member.target htarget
  have hheld : b.isEventStream = false := by
    rw [Bool.eq_false_iff] at hplain ⊢
    exact fun hb' => hplain (isStreamMember_iff.2 ⟨b, hb, hb'⟩)
  exact ⟨b, ⟨aggregate_of_mem hmember, hstream, hheld, member, hmember, hb⟩, by rwa [id_of_get? hb]⟩

theorem holdsAny_of_holds {ids : List ShapeId} {a b : Shape} (h : m.Holds a b) (hb : b.id ∈ ids) :
    m.holdsAny ids a = true := by
  obtain ⟨member, hmember, htarget⟩ := h.member
  have hid := id_of_get? htarget
  refine holdsAny_iff.2 ⟨h.holder, member, hmember, hid ▸ hb, ?_⟩
  rw [Bool.eq_false_iff, Ne, isStreamMember_iff]
  rintro ⟨stream, hstream, hkind⟩
  obtain rfl : b = stream := Option.some.inj (htarget.symm.trans hstream)
  exact absurd h.held (by simp [hkind])

/-- The shape of the id reaches a source of constraints. -/
def Reaches (m : Model) (id : ShapeId) : Prop :=
  ∃ s, m.get? id = some s ∧ ∃ t, ReflTransGen m.Holds s t ∧ m.Source t

/-- **The constrained shapes are those from which a source is reached.** -/
theorem mem_constrainedShapes_iff (hm : m.Distinct) {id : ShapeId} :
    id ∈ constrainedShapes m .server ↔ m.Reaches id := by
  constructor
  · -- what comes in by a sweep has an edge to what is in already
    rw [constrainedShapes_server]
    refine mem_saturate_of_keeps (P := m.Reaches) ?_ _ ?_ id
    · intro seen hseen
      refine mem_sweep_of_keeps (fun s hs ids hids hholds => ?_) hseen
      obtain ⟨b, hedge, hb⟩ := exists_holds hholds fun id hid => (hids id hid).imp fun _ h => h.1
      obtain ⟨b', hget, t, hpath, hsource⟩ := hids b.id hb
      have hlisted : m.get? b.id = some b := by
        obtain ⟨member, -, htarget⟩ := hedge.member
        rw [id_of_get? htarget, htarget]
      obtain rfl : b' = b := Option.some.inj (hget.symm.trans hlisted)
      exact ⟨s, get?_of_mem hm hs, t, hpath.head hedge, hsource⟩
    · intro id hid
      obtain ⟨s, hs, rfl⟩ := List.mem_map.1 hid
      obtain ⟨hmem, hsource⟩ := List.mem_filter.1 hs
      exact ⟨s, get?_of_mem hm hmem, s, .refl, isConstraintSource_iff.1 hsource⟩
  · -- the result holds the sources and is closed under the edges
    rintro ⟨s, hget, t, hpath, hsource⟩
    obtain rfl := id_of_get? hget
    have hs := mem_of_get? hget
    clear hget
    induction hpath using ReflTransGen.head_induction_on with
    | refl => exact mem_constrainedShapes_of_source hs (isConstraintSource_iff.2 hsource)
    | head hedge _ ih =>
      obtain ⟨member, -, htarget⟩ := hedge.member
      exact mem_constrainedShapes_of_holds hs (holdsAny_of_holds hedge (ih (mem_of_get? htarget)))

/-! ### Order -/

theorem distinct_of_perm (hm : m.Distinct) (hperm : m'.shapes.Perm m.shapes) : m'.Distinct :=
  (hperm.map Shape.id).nodup_iff.2 hm

theorem get?_of_perm (hm : m.Distinct) (hperm : m'.shapes.Perm m.shapes) : m'.get? = m.get? := by
  funext id
  refine Option.ext fun s => ⟨fun h => ?_, fun h => ?_⟩
  · rw [← id_of_get? h]
    exact get?_of_mem hm (hperm.subset (mem_of_get? h))
  · rw [← id_of_get? h]
    exact get?_of_mem (distinct_of_perm hm hperm) (hperm.symm.subset (mem_of_get? h))

theorem reaches_of_perm (hm : m.Distinct) (hperm : m'.shapes.Perm m.shapes) : m'.Reaches = m.Reaches := by
  have hget := get?_of_perm hm hperm
  have hedges : m'.Holds = m.Holds := by
    funext a b
    refine propext ⟨fun h => ?_, fun h => ?_⟩
    · exact ⟨h.aggregate, h.holder, h.held, by rw [← hget]; exact h.member⟩
    · exact ⟨h.aggregate, h.holder, h.held, by rw [hget]; exact h.member⟩
  funext id
  unfold Reaches Source Mandatory
  rw [hget, hedges]

/-- More sweeps than there are shapes change nothing. -/
theorem constraintClosure_of_le {rounds : Nat} (h : m.shapes.length ≤ rounds) :
    m.constraintClosure rounds m.constraintSources = constrainedShapes m .server := by
  obtain ⟨more, rfl⟩ := Nat.exists_eq_add_of_le h
  have hend := sweep_constrainedShapes m
  rw [constrainedShapes_server] at hend ⊢
  rw [constraintClosure_eq]
  exact saturate_add hend more

end Model

/-- **A shape is constrained exactly if a source of constraints is reached from it**, through members of
structures, unions, lists and maps, and without an event stream on either side of a member. So the order of the
shapes does not matter. The sweeps end by themselves: after one for each shape, a further one adds nothing, and
however many more are allowed change nothing. -/
theorem constrainedShapes_exact {m : Model} (hm : m.Distinct) :
    (∀ id, id ∈ constrainedShapes m .server ↔
      ∃ s, m.get? id = some s ∧ ∃ t, ReflTransGen m.Holds s t ∧ m.Source t) ∧
    (∀ m' : Model, m'.shapes.Perm m.shapes →
      ∀ id, id ∈ constrainedShapes m' .server ↔ id ∈ constrainedShapes m .server) ∧
    m.sweep m.shapes (constrainedShapes m .server) = [] ∧
    (∀ rounds, m.shapes.length ≤ rounds →
      m.constraintClosure rounds m.constraintSources = constrainedShapes m .server) := by
  refine ⟨fun id => Model.mem_constrainedShapes_iff hm, ?_, Model.sweep_constrainedShapes m, ?_⟩
  · intro m' hperm id
    rw [Model.mem_constrainedShapes_iff (Model.distinct_of_perm hm hperm), Model.reaches_of_perm hm hperm,
      Model.mem_constrainedShapes_iff hm]
  · intro rounds hrounds
    exact Model.constraintClosure_of_le hrounds

/-- Nodes that hold each other through a list, and a structure with a required member at the end of the cycle;
an event stream that holds the structure, and a list of such streams. -/
def meshed : Model :=
  ⟨[⟨⟨"t#Node"⟩, .struct [⟨"links", ⟨"t#Links"⟩, {}⟩], {}⟩,
    ⟨⟨"t#Links"⟩, .list ⟨"member", ⟨"t#Link"⟩, {}⟩, {}⟩,
    ⟨⟨"t#Link"⟩, .union [⟨"back", ⟨"t#Node"⟩, {}⟩, ⟨"end", ⟨"t#End"⟩, {}⟩], {}⟩,
    ⟨⟨"t#End"⟩, .struct [⟨"name", ⟨"smithy.api#String"⟩, { required := true }⟩], {}⟩,
    ⟨⟨"t#Events"⟩, .union [⟨"end", ⟨"t#End"⟩, {}⟩], { streaming := true }⟩,
    ⟨⟨"t#Feeds"⟩, .list ⟨"member", ⟨"t#Events"⟩, {}⟩, {}⟩,
    simpleShape "String" .string]⟩

theorem meshed_reached :
    meshed.Distinct ∧
    (∃ s, meshed.get? ⟨"t#Node"⟩ = some s ∧ ∃ t, ReflTransGen meshed.Holds s t ∧ meshed.Source t) ∧
    ¬(∃ s, meshed.get? ⟨"t#Feeds"⟩ = some s ∧ ∃ t, ReflTransGen meshed.Holds s t ∧ meshed.Source t) ∧
    ⟨"t#Node"⟩ ∈ constrainedShapes ⟨meshed.shapes.reverse⟩ .server := by
  have hdistinct : meshed.Distinct := by decide
  obtain ⟨hreach, horder, -, -⟩ := constrainedShapes_exact hdistinct
  have hnode : ⟨"t#Node"⟩ ∈ constrainedShapes meshed .server := by decide
  have hfeeds : ⟨"t#Feeds"⟩ ∉ constrainedShapes meshed .server := by decide
  refine ⟨hdistinct, (hreach _).1 hnode, fun h => hfeeds ((hreach _).2 h), ?_⟩
  exact (horder ⟨meshed.shapes.reverse⟩ (List.reverse_perm _) _).2 hnode

end WireShapes
