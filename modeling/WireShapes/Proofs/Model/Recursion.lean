import Mathlib.Logic.Relation
import WireShapes.Model.Transform
import WireShapes.Proofs.Saturation

/-!
Which members are boxed.

* `Model.Stores`: a structure or union has another one among the targets of its members
* `Model.reaches_iff`: the search finds what is stored in a shape through any number of steps, and
  nothing else
* `Model.StoresUnboxed`: the same without the members that are boxed
* `boxRecursive_exact`: exactly the members that close a cycle are boxed, and no cycle is left
-/

namespace WireShapes

open Relation

namespace Model

variable {m : Model}

/-! ### What is stored inline -/

/-- The id is that of a structure or union. -/
def Inline (m : Model) (id : ShapeId) : Prop := ∃ s, m.get? id = some s ∧ s.isInline = true

/-- The first is a structure or union with a member that targets the second, which is one too. -/
def Stores (m : Model) (a b : ShapeId) : Prop :=
  ∃ s, m.get? a = some s ∧ s.isInline = true ∧ (∃ member ∈ s.members, member.target = b) ∧ m.Inline b

/-- The same for the members that are not boxed. -/
def StoresUnboxed (m : Model) (a b : ShapeId) : Prop :=
  ∃ s, m.get? a = some s ∧ s.isInline = true ∧
    (∃ member ∈ s.members, member.traits.boxed = false ∧ member.target = b) ∧ m.Inline b

theorem inline_iff {id : ShapeId} : m.Inline id ↔ ((m.get? id).map Shape.isInline).getD false = true := by
  unfold Inline
  cases m.get? id <;> simp

theorem mem_inlineTargets {a b : ShapeId} : b ∈ m.inlineTargets a ↔ m.Stores a b := by
  unfold inlineTargets Stores
  cases hs : m.get? a with
  | none => simp
  | some s =>
    by_cases hinline : s.isInline = true
    · simp only [hinline, if_true, List.mem_map, List.mem_filter, Option.some.injEq]
      constructor
      · rintro ⟨member, ⟨hmember, htarget⟩, rfl⟩
        exact ⟨s, rfl, hinline, ⟨member, hmember, rfl⟩, inline_iff.2 htarget⟩
      · rintro ⟨s', rfl, -, ⟨member, hmember, rfl⟩, htarget⟩
        exact ⟨member, ⟨hmember, inline_iff.1 htarget⟩, rfl⟩
    · simp only [hinline, Option.some.injEq]
      constructor
      · intro h
        simp at h
      · rintro ⟨s', rfl, h, -⟩
        exact absurd h hinline

/-! ### The search -/

/-- What a round of the search adds. -/
def newInline (m : Model) (seen : List ShapeId) : List ShapeId :=
  ((seen.flatMap m.inlineTargets).filter fun id => !seen.contains id).eraseDups

theorem inlineClosure_eq (m : Model) (rounds : Nat) (seen : List ShapeId) :
    m.inlineClosure rounds seen = saturate m.newInline rounds seen := by
  induction rounds generalizing seen with
  | zero => rfl
  | succ rounds ih =>
    rw [inlineClosure, saturate, ← ih]
    rfl

theorem mem_newInline {seen : List ShapeId} {b : ShapeId} :
    b ∈ m.newInline seen ↔ (∃ a ∈ seen, m.Stores a b) ∧ b ∉ seen := by
  simp [newInline, mem_inlineTargets]

theorem newInline_fresh (seen : List ShapeId) :
    ∀ b ∈ m.newInline seen, b ∈ m.shapes.map Shape.id ∧ b ∉ seen := by
  intro b hb
  obtain ⟨⟨a, -, -, -, -, -, s, hs, -⟩, hseen⟩ := mem_newInline.1 hb
  refine ⟨List.mem_map.2 ⟨s, mem_of_get? hs, id_of_get? hs⟩, hseen⟩

/-- **The search finds what is stored in a shape through any number of steps, and nothing else.** -/
theorem reaches_iff {source goal : ShapeId} :
    m.reaches source goal = true ↔ ReflTransGen m.Stores source goal := by
  unfold reaches
  rw [inlineClosure_eq, List.contains_iff_mem]
  constructor
  · -- every round stays within reach of the source
    intro hgoal
    refine mem_saturate_of_keeps (P := ReflTransGen m.Stores source) ?_ _ ?_ goal hgoal
    · intro seen hseen b hb
      obtain ⟨⟨a, ha, hstores⟩, -⟩ := mem_newInline.1 hb
      exact (hseen a ha).tail hstores
    · intro x hx
      rw [List.mem_singleton.1 hx]
  · -- the rounds suffice for all shapes, so that the result is closed under storage
    intro hreach
    have hbound : (missing (m.shapes.map Shape.id) [source]).length ≤ m.shapes.length := by
      have hall := length_missing_le (m.shapes.map Shape.id) [source]
      rwa [List.length_map] at hall
    have hclosed := next_saturate_eq_nil newInline_fresh hbound
    induction hreach with
    | refl => exact subset_saturate _ _ _ (List.mem_singleton.2 rfl)
    | @tail a b _ hstores ih =>
      by_contra hb
      have hnew : b ∈ m.newInline (saturate m.newInline m.shapes.length [source]) :=
        mem_newInline.2 ⟨⟨a, ih, hstores⟩, hb⟩
      rw [hclosed] at hnew
      simp at hnew

theorem closesCycle_iff {container : ShapeId} {member : Member} :
    m.closesCycle container member = true ↔
      m.Stores container member.target ∧ ReflTransGen m.Stores member.target container := by
  rw [closesCycle, Bool.and_eq_true, List.contains_iff_mem, mem_inlineTargets, reaches_iff]

/-! ### Boxed members -/

/-- A member of the shape, boxed if it closes a cycle. -/
def boxMember (m : Model) (container : ShapeId) (member : Member) : Member :=
  if m.closesCycle container member then { member with traits := { member.traits with boxed := true } }
  else member

/-- A shape with its members boxed that close a cycle. -/
def boxShape (m : Model) (s : Shape) : Shape :=
  match s.kind with
  | .struct members => { s with kind := .struct (m.boxMembers s.id members) }
  | .union members => { s with kind := .union (m.boxMembers s.id members) }
  | _ => s

theorem boxRecursive_eq (m : Model) : m.boxRecursive = ⟨m.shapes.map m.boxShape⟩ := rfl

theorem boxMembers_eq (m : Model) (container : ShapeId) (members : List Member) :
    m.boxMembers container members = members.map (m.boxMember container) := rfl

@[simp] theorem target_boxMember (container : ShapeId) (member : Member) :
    (m.boxMember container member).target = member.target := by
  unfold boxMember
  split <;> rfl

@[simp] theorem id_boxShape (s : Shape) : (m.boxShape s).id = s.id := by
  unfold boxShape
  split <;> rfl

@[simp] theorem isInline_boxShape (s : Shape) : (m.boxShape s).isInline = s.isInline := by
  unfold boxShape
  split <;> simp_all [Shape.isInline, Shape.isStruct, Shape.isUnion]

theorem members_boxShape {s : Shape} (h : s.isInline = true) :
    (m.boxShape s).members = s.members.map (m.boxMember s.id) := by
  unfold boxShape
  split
  · next hkind => simp [Shape.members, hkind, boxMembers_eq]
  · next hkind => simp [Shape.members, hkind, boxMembers_eq]
  · next hstruct hunion =>
    unfold Shape.isInline Shape.isStruct Shape.isUnion at h
    split at h
    · next hkind => exact (hstruct _ hkind).elim
    · split at h
      · next hkind => exact (hunion _ hkind).elim
      · simp at h

theorem get?_boxRecursive (m : Model) (id : ShapeId) :
    m.boxRecursive.get? id = (m.get? id).map m.boxShape := by
  rw [boxRecursive_eq, get?, get?, List.find?_map]
  congr 2
  funext s
  simp

theorem inline_boxRecursive {id : ShapeId} : m.boxRecursive.Inline id ↔ m.Inline id := by
  rw [inline_iff, inline_iff, get?_boxRecursive]
  cases m.get? id <;> simp

theorem stores_boxRecursive (m : Model) : m.boxRecursive.Stores = m.Stores := by
  funext a b
  unfold Stores
  rw [get?_boxRecursive, inline_boxRecursive, eq_iff_iff]
  cases m.get? a with
  | none => simp
  | some s =>
    simp only [Option.map_some, Option.some.injEq, exists_eq_left', isInline_boxShape]
    refine and_congr_right fun hinline => and_congr_left fun _ => ?_
    simp [members_boxShape hinline]

theorem closesCycle_boxRecursive (m : Model) (container : ShapeId) (member : Member) :
    m.boxRecursive.closesCycle container (m.boxMember container member) = m.closesCycle container member := by
  rw [Bool.eq_iff_iff, closesCycle_iff, closesCycle_iff, stores_boxRecursive, target_boxMember]

/-- A member that is stored unboxed after all closes no cycle. -/
theorem not_reaches_of_storesUnboxed {a b : ShapeId} (h : m.boxRecursive.StoresUnboxed a b) :
    m.Stores a b ∧ ¬ReflTransGen m.Stores b a := by
  obtain ⟨s', hs', hinline', ⟨member', hmember', hunboxed, rfl⟩, htarget⟩ := h
  rw [get?_boxRecursive] at hs'
  obtain ⟨s, hs, rfl⟩ := Option.map_eq_some_iff.1 hs'
  rw [isInline_boxShape] at hinline'
  rw [members_boxShape hinline'] at hmember'
  obtain ⟨member, hmember, rfl⟩ := List.mem_map.1 hmember'
  rw [target_boxMember] at htarget ⊢
  have hstores : m.Stores a member.target :=
    ⟨s, hs, hinline', ⟨member, hmember, rfl⟩, inline_boxRecursive.1 htarget⟩
  refine ⟨hstores, fun hreach => ?_⟩
  have hcloses : m.closesCycle s.id member = true := by
    rw [id_of_get? hs]
    exact closesCycle_iff.2 ⟨hstores, hreach⟩
  simp [boxMember, hcloses] at hunboxed

end Model

/-! ### Nothing else changes -/

def Member.unboxed (member : Member) : Member :=
  { member with traits := { member.traits with boxed := false } }

/-- The shape with the members of a structure or union unboxed. -/
def Shape.unboxed (s : Shape) : Shape :=
  match s.kind with
  | .struct members => { s with kind := .struct (members.map Member.unboxed) }
  | .union members => { s with kind := .union (members.map Member.unboxed) }
  | _ => s

namespace Model

variable {m : Model}

def unboxed (m : Model) : Model := ⟨m.shapes.map Shape.unboxed⟩

def Unboxed (m : Model) : Prop := ∀ s ∈ m.shapes, ∀ member ∈ s.members, member.traits.boxed = false

theorem unboxed_boxMember {container : ShapeId} {member : Member} (h : member.traits.boxed = false) :
    (m.boxMember container member).unboxed = member := by
  have hself : member.unboxed = member := by
    unfold Member.unboxed
    rw [← h]
  unfold boxMember
  split
  · exact hself
  · exact hself

theorem unboxed_boxMembers {container : ShapeId} {members : List Member}
    (h : ∀ member ∈ members, member.traits.boxed = false) :
    (m.boxMembers container members).map Member.unboxed = members := by
  rw [boxMembers_eq, List.map_map]
  refine (List.map_congr_left fun member hmember => ?_).trans (List.map_id members)
  exact unboxed_boxMember (h member hmember)

theorem unboxed_boxShape {s : Shape} (h : ∀ member ∈ s.members, member.traits.boxed = false) :
    (m.boxShape s).unboxed = s := by
  obtain ⟨id, kind, traits⟩ := s
  cases kind <;> simp_all [boxShape, Shape.unboxed, Shape.members, unboxed_boxMembers]

theorem boxMember_idem (container : ShapeId) (member : Member) :
    m.boxRecursive.boxMember container (m.boxMember container member) = m.boxMember container member := by
  rw [boxMember, closesCycle_boxRecursive]
  unfold boxMember
  split <;> rfl

theorem boxShape_idem (s : Shape) : m.boxRecursive.boxShape (m.boxShape s) = m.boxShape s := by
  have hmembers : ∀ members : List Member, m.boxRecursive.boxMembers s.id (m.boxMembers s.id members) =
      m.boxMembers s.id members := by
    intro members
    simp only [boxMembers_eq, List.map_map]
    exact List.map_congr_left fun member _ => boxMember_idem s.id member
  obtain ⟨id, kind, traits⟩ := s
  cases kind <;> simp_all [boxShape]

theorem boxRecursive_idem (m : Model) : m.boxRecursive.boxRecursive = m.boxRecursive := by
  have hshapes : m.boxRecursive.shapes.map m.boxRecursive.boxShape = m.boxRecursive.shapes := by
    rw [boxRecursive_eq m, List.map_map]
    exact List.map_congr_left fun s _ => boxShape_idem s
  rw [boxRecursive_eq m.boxRecursive, hshapes]

/-- **Exactly the members that close a cycle of inline storage are boxed.** No cycle is left without a
box, nothing but the boxes changes, and boxing once more changes nothing. -/
theorem boxRecursive_exact (fresh : m.Unboxed) :
    (∀ (id : ShapeId) (s : Shape) (i : Nat) (member : Member),
      m.get? id = some s → s.isInline = true → s.members[i]? = some member →
      ∃ (s' : Shape) (member' : Member),
        m.boxRecursive.get? id = some s' ∧ s'.members[i]? = some member' ∧
        (member'.traits.boxed = true ↔
          m.Inline member.target ∧ ReflTransGen m.Stores member.target id)) ∧
    (∀ id, ¬TransGen m.boxRecursive.StoresUnboxed id id) ∧
    m.boxRecursive.unboxed = m ∧
    m.boxRecursive.boxRecursive = m.boxRecursive := by
  refine ⟨?_, ?_, ?_, ?_⟩
  · intro id s i member hs hinline hmember
    refine ⟨m.boxShape s, m.boxMember s.id member, ?_, ?_, ?_⟩
    · rw [get?_boxRecursive, hs, Option.map_some]
    · rw [members_boxShape hinline, List.getElem?_map, hmember, Option.map_some]
    · have hmem : member ∈ s.members := List.mem_of_getElem? hmember
      have hfresh := fresh s (mem_of_get? hs) member hmem
      have hcloses : m.closesCycle s.id member = true ↔
          m.Inline member.target ∧ ReflTransGen m.Stores member.target id := by
        rw [closesCycle_iff, id_of_get? hs]
        refine and_congr_left fun _ => ⟨?_, ?_⟩
        · rintro ⟨_, _, _, _, htarget⟩
          exact htarget
        · intro htarget
          exact ⟨s, hs, hinline, ⟨member, hmem, rfl⟩, htarget⟩
      rw [← hcloses]
      unfold boxMember
      split <;> simp_all
  · intro id hcycle
    obtain ⟨b, hfirst, hrest⟩ := TransGen.head'_iff.1 hcycle
    have hsub : ∀ x y, m.boxRecursive.StoresUnboxed x y → m.Stores x y := fun x y h =>
      (not_reaches_of_storesUnboxed h).1
    have hback : ReflTransGen m.Stores b id := ReflTransGen.mono hsub b id hrest
    exact (not_reaches_of_storesUnboxed hfirst).2 hback
  · rw [boxRecursive_eq, unboxed, List.map_map]
    have hshapes : m.shapes.map (Shape.unboxed ∘ m.boxShape) = m.shapes :=
      (List.map_congr_left fun s hs => unboxed_boxShape (fresh s hs)).trans (List.map_id m.shapes)
    rw [hshapes]
  · exact boxRecursive_idem m

/-- A structure and a union that hold each other, and a list that leads back to the structure. -/
def tangled : Model :=
  ⟨[⟨⟨"t#A"⟩, .struct [⟨"b", ⟨"t#B"⟩, {}⟩, ⟨"all", ⟨"t#As"⟩, {}⟩], {}⟩,
    ⟨⟨"t#As"⟩, .list ⟨"member", ⟨"t#A"⟩, {}⟩, {}⟩,
    ⟨⟨"t#B"⟩, .union [⟨"a", ⟨"t#A"⟩, {}⟩, ⟨"leaf", ⟨"t#Leaf"⟩, {}⟩], {}⟩,
    ⟨⟨"t#Leaf"⟩, .struct [], {}⟩]⟩

theorem unboxed_tangled : tangled.Unboxed := by
  unfold Unboxed
  decide

theorem tangled_boxed :
    (∃ (s : Shape) (member : Member), tangled.boxRecursive.get? ⟨"t#A"⟩ = some s ∧
      s.members[0]? = some member ∧ member.traits.boxed = true) ∧
    (∃ (s : Shape) (member : Member), tangled.boxRecursive.get? ⟨"t#B"⟩ = some s ∧
      s.members[1]? = some member ∧ member.traits.boxed = false) ∧
    ¬TransGen tangled.boxRecursive.StoresUnboxed ⟨"t#A"⟩ ⟨"t#A"⟩ ∧
    tangled.boxRecursive.unboxed = tangled ∧
    tangled.boxRecursive.boxRecursive = tangled.boxRecursive := by
  obtain ⟨hboxed, hacyclic, hrest, hagain⟩ := boxRecursive_exact unboxed_tangled
  refine ⟨?_, ?_, hacyclic _, hrest, hagain⟩
  · obtain ⟨s, member, hs, hmember, hiff⟩ := hboxed ⟨"t#A"⟩ _ 0 _ rfl rfl rfl
    have hback : tangled.Stores ⟨"t#B"⟩ ⟨"t#A"⟩ :=
      ⟨_, rfl, rfl, ⟨_, List.mem_cons_self, rfl⟩, ⟨_, rfl, rfl⟩⟩
    exact ⟨s, member, hs, hmember, hiff.2 ⟨⟨_, rfl, rfl⟩, .single hback⟩⟩
  · obtain ⟨s, member, hs, hmember, hiff⟩ := hboxed ⟨"t#B"⟩ _ 1 _ rfl rfl rfl
    refine ⟨s, member, hs, hmember, ?_⟩
    rw [Bool.eq_false_iff]
    intro hbox
    obtain ⟨-, hreach⟩ := hiff.1 hbox
    obtain hsame | ⟨b, hfirst, -⟩ := hreach.cases_head
    · exact absurd hsame (by decide)
    · obtain ⟨s, hs, -, ⟨member, hmember, -⟩, -⟩ := hfirst
      obtain rfl : _ = s := Option.some.inj hs
      simp [Shape.members] at hmember

end Model

end WireShapes
