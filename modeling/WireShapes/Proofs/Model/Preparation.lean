import WireShapes.Proofs.Model.Distinct
import WireShapes.Proofs.Text.Split

/-!
What preparation does to a model.

* `Model.Closed`: everything that is referred to is there
* `Settles`: a shape and what becomes of it; only slots of operations and boxes of members differ
* `Model.Synthesized`: structures that stand for the missing input or output of an operation
* `Model.Grown`: what every step of preparation keeps
* `prepare_exact`: hence what the prepared model is like, and that nothing is left to prepare
-/

namespace WireShapes

/-! ### Ids -/

namespace ShapeId

theorem not_mem_space (id : ShapeId) : '#' ∉ id.space.toList := by
  unfold space
  split
  · next before after h =>
    rw [String.toList_ofList]
    exact Text.not_mem_of_splitOnce h
  · simp

theorem splitOnce_ofParts {space name : String} (h : '#' ∉ space.toList) :
    Text.splitOnce '#' (ofParts space name).text.toList = some (space.toList, name.toList) := by
  have htext : (ofParts space name).text.toList = space.toList ++ '#' :: name.toList := by
    simp [ofParts]
  rw [htext, Text.splitOnce_append h]

theorem space_ofParts {space name : String} (h : '#' ∉ space.toList) : (ofParts space name).space = space := by
  rw [ShapeId.space, splitOnce_ofParts h]
  exact String.ofList_toList

theorem name_ofParts {space name : String} (h : '#' ∉ space.toList) : (ofParts space name).name = name := by
  rw [ShapeId.name, splitOnce_ofParts h]
  exact String.ofList_toList

end ShapeId

/-! ### What becomes of a shape -/

namespace Shape

/-- The shape without what preparation gives it: the slots of an operation, and the boxes of the members of a
structure or union. -/
def bare (s : Shape) : Shape :=
  match s.kind with
  | .operation op => { s with kind := .operation { op with input := none, output := none } }
  | _ => s.unboxed

/-- An operation has its input and its output. -/
def Filled (s : Shape) : Prop := ∀ op, s.kind = .operation op → op.input.isSome = true ∧ op.output.isSome = true

theorem id_bare (s : Shape) : s.bare.id = s.id := by
  unfold bare unboxed
  split
  · rfl
  · split <;> rfl

end Shape

/-- A slot that is filled in the first is the same in the second. -/
structure Operation.Within (op op' : Operation) : Prop where
  input : op.input.isSome = true → op'.input = op.input
  output : op.output.isSome = true → op'.output = op.output

/-- The second is the first, but for slots of an operation that were empty and for boxes of members. -/
structure Settles (s s' : Shape) : Prop where
  bare : s'.bare = s.bare
  slots : ∀ op op', s.kind = .operation op → s'.kind = .operation op' → op.Within op'

namespace Settles

variable {s s' : Shape}

theorem refl (s : Shape) : Settles s s := by
  refine ⟨rfl, fun op op' h h' => ?_⟩
  obtain rfl : op = op' := Kind.operation.inj (h.symm.trans h')
  exact ⟨fun _ => rfl, fun _ => rfl⟩

theorem id_eq (h : Settles s s') : s'.id = s.id := by
  rw [← s'.id_bare, h.bare, s.id_bare]

end Settles

namespace Model

variable {m m' m₀ : Model}

theorem mem_operations {s : Shape} {op : Operation} :
    (s, op) ∈ m.operations ↔ s ∈ m.shapes ∧ s.kind = .operation op := by
  unfold operations
  rw [List.mem_filterMap]
  constructor
  · rintro ⟨t, ht, h⟩
    split at h
    · next hkind =>
      cases h
      exact ⟨ht, hkind⟩
    · cases h
  · rintro ⟨hs, hkind⟩
    exact ⟨s, hs, by rw [hkind]⟩

theorem contains_iff {id : ShapeId} : m.contains id = true ↔ id ∈ m.shapes.map Shape.id := by
  simp [contains]

theorem not_mem_of_get?_eq_none {id : ShapeId} (h : m.get? id = none) : id ∉ m.shapes.map Shape.id := by
  rw [List.mem_map]
  rintro ⟨s, hs, rfl⟩
  have hother := List.find?_eq_none.1 h s hs
  simp at hother

/-! ### Targets -/

/-- Everything that is referred to is there. -/
def Closed (m : Model) : Prop := ∀ s ∈ m.shapes, ∀ r ∈ s.references, m.contains r.2 = true

theorem danglingOf_eq_none {s : Shape} : m.danglingOf s = none ↔ ∀ r ∈ s.references, m.contains r.2 = true := by
  simp [danglingOf]

theorem checkTargets_iff : m.checkTargets = .ok () ↔ m.Closed := by
  have hnone : m.shapes.findSome? m.danglingOf = none ↔ m.Closed := by
    simp only [List.findSome?_eq_none_iff, danglingOf_eq_none]
    rfl
  rw [← hnone]
  unfold checkTargets
  cases m.shapes.findSome? m.danglingOf <;> simp

theorem assemble_eq_ok_iff {docs : List Source.RawModel} :
    assemble docs = .ok m ↔ ∃ merged, mergeDocuments docs = .ok merged ∧ lowerAll merged = .ok m ∧ m.Closed := by
  unfold assemble
  rw [Results.bind_eq_ok_iff]
  refine exists_congr fun merged => and_congr_right fun _ => ?_
  rw [Results.bind_eq_ok_iff]
  constructor
  · rintro ⟨model, hlower, h⟩
    obtain ⟨_, hcheck, h⟩ := Results.bind_eq_ok_iff.1 h
    cases h
    exact ⟨hlower, checkTargets_iff.1 hcheck⟩
  · rintro ⟨hlower, hclosed⟩
    exact ⟨m, hlower, Results.bind_eq_ok_iff.2 ⟨(), checkTargets_iff.2 hclosed, rfl⟩⟩

theorem closed_of_assemble {docs : List Source.RawModel} (h : assemble docs = .ok m) : m.Closed := by
  obtain ⟨-, -, -, hclosed⟩ := assemble_eq_ok_iff.1 h
  exact hclosed

theorem mem_references_of_slot {s : Shape} {op : Operation} (hkind : s.kind = .operation op) {id : ShapeId}
    (h : op.input = some id ∨ op.output = some id) : ∃ r ∈ s.references, r.2 = id := by
  rcases h with h | h
  · exact ⟨("input", id), by simp [Shape.references, hkind, h], rfl⟩
  · exact ⟨("output", id), by simp [Shape.references, hkind, h], rfl⟩

/-! ### Filling slots -/

/-- The structure that stands for a missing slot of an operation. -/
def slotShape (operation : ShapeId) (suffix : String) : Shape :=
  ⟨ShapeId.ofParts operation.space (operation.name ++ suffix), .struct [], {}⟩

theorem space_slotShape (operation : ShapeId) (suffix : String) :
    (slotShape operation suffix).id.space = operation.space :=
  ShapeId.space_ofParts operation.not_mem_space

theorem name_slotShape (operation : ShapeId) (suffix : String) :
    (slotShape operation suffix).id.name = operation.name ++ suffix :=
  ShapeId.name_ofParts operation.not_mem_space

/-- Some shapes come in behind those of the first model; they all have this property. -/
def Adds (P : Shape → Prop) (m m' : Model) : Prop :=
  ∃ new, m'.shapes = m.shapes ++ new ∧ ∀ s ∈ new, m.get? s.id = none ∧ P s

theorem place_eq_append {shape : Shape} {shapes : List Shape} (h : shape.id ∉ shapes.map Shape.id) :
    place shape shapes = shapes ++ [shape] := by
  induction shapes with
  | nil => rfl
  | cons s rest ih =>
    rw [List.map_cons, List.mem_cons, not_or] at h
    rw [place, if_neg (Ne.symm h.1), ih h.2, List.cons_append]

/-- **A slot that is filled stays so; for an empty one there is a structure afterwards.** -/
theorem fillSlot_exact {operation : ShapeId} {suffix : String} {slot filled : Option ShapeId}
    (h : m.fillSlot operation suffix slot = .ok (m', filled)) :
    m.Adds (fun s => slot = none ∧ s = slotShape operation suffix) m' ∧
    (slot.isSome = true → filled = slot) ∧
    ∃ id, filled = some id ∧ (slot = some id ∨ m'.contains id = true) := by
  cases slot with
  | some id =>
    cases h
    exact ⟨⟨[], by simp, by simp⟩, fun _ => rfl, id, rfl, .inl rfl⟩
  | none =>
    obtain ⟨⟨synthesized, id⟩, hsynthesize, h⟩ := Results.map_eq_ok_iff.1 h
    cases h
    unfold synthesize at hsynthesize
    dsimp only at hsynthesize
    split at hsynthesize
    · next existing hget =>
      split at hsynthesize
      · cases hsynthesize
        have hthere : m.contains existing.id = true :=
          contains_iff.2 (List.mem_map_of_mem (mem_of_get? hget))
        rw [id_of_get? hget] at hthere
        exact ⟨⟨[], by simp, by simp⟩, by simp, _, rfl, .inr hthere⟩
      · cases hsynthesize
    · next hget =>
      cases hsynthesize
      have hplaced : place (slotShape operation suffix) m.shapes = m.shapes ++ [slotShape operation suffix] :=
        place_eq_append (not_mem_of_get?_eq_none hget)
      refine ⟨⟨[slotShape operation suffix], hplaced, ?_⟩, by simp, _, rfl, .inr ?_⟩
      · intro s hs
        obtain rfl := List.mem_singleton.1 hs
        exact ⟨hget, rfl, rfl⟩
      · rw [contains_iff]
        show _ ∈ (place (slotShape operation suffix) m.shapes).map Shape.id
        rw [hplaced]
        simp [slotShape]

/-- The shape with these slots, if it is the operation of the id. -/
def putSlots (id : ShapeId) (input output : Option ShapeId) (s : Shape) : Shape :=
  if s.id = id then
    match s.kind with
    | .operation op => { s with kind := .operation { op with input := input, output := output } }
    | _ => s
  else s

section Slots

variable {id : ShapeId} {input output : Option ShapeId} {s s₀ : Shape} {op : Operation}

theorem putSlots_of_ne (h : s.id ≠ id) : putSlots id input output s = s := by
  rw [putSlots, if_neg h]

theorem putSlots_of_operation (hid : s.id = id) (h : s.kind = .operation op) :
    putSlots id input output s = { s with kind := .operation { op with input := input, output := output } } := by
  rw [putSlots, if_pos hid, h]

theorem putSlots_of_not_operation (h : ∀ op, s.kind ≠ .operation op) : putSlots id input output s = s := by
  unfold putSlots
  split
  · split
    · next op hkind => exact (h op hkind).elim
    · rfl
  · rfl

theorem putSlots_eq_self (h : ¬(s.id = id ∧ ∃ op, s.kind = .operation op)) : putSlots id input output s = s := by
  by_cases hid : s.id = id
  · exact putSlots_of_not_operation fun op hop => h ⟨hid, op, hop⟩
  · exact putSlots_of_ne hid

theorem id_putSlots (id : ShapeId) (input output : Option ShapeId) (s : Shape) :
    (putSlots id input output s).id = s.id := by
  unfold putSlots
  split
  · split <;> rfl
  · rfl

theorem bare_putSlots (id : ShapeId) (input output : Option ShapeId) (s : Shape) :
    (putSlots id input output s).bare = s.bare := by
  unfold putSlots
  split
  · split
    · next hkind => simp [Shape.bare, hkind]
    · rfl
  · rfl

theorem filled_putSlots (hin : input.isSome = true) (hout : output.isSome = true)
    (h : s.id = id ∨ s.Filled) : (putSlots id input output s).Filled := by
  by_cases hop : ∃ op, s.kind = .operation op
  · obtain ⟨op, hop⟩ := hop
    by_cases hid : s.id = id
    · rw [putSlots_of_operation hid hop]
      intro op' hop'
      cases hop'
      exact ⟨hin, hout⟩
    · rw [putSlots_of_ne hid]
      exact h.resolve_left hid
  · have hnot : ∀ op, s.kind ≠ .operation op := fun op h => hop ⟨op, h⟩
    rw [putSlots_of_not_operation hnot]
    intro op h
    exact (hnot op h).elim

/-- The only references that can come in are those in the slots. -/
theorem references_putSlots {r : String × ShapeId} (hr : r ∈ (putSlots id input output s).references) :
    r ∈ s.references ∨ input = some r.2 ∨ output = some r.2 := by
  by_cases hop : s.id = id ∧ ∃ op, s.kind = .operation op
  · obtain ⟨hid, op, hop⟩ := hop
    rw [putSlots_of_operation hid hop] at hr
    simp only [Shape.references, Shape.members, hop, List.map_nil, List.nil_append, List.mem_append, List.mem_map,
      Option.mem_toList] at hr ⊢
    rcases hr with (⟨_, hin, rfl⟩ | ⟨_, hout, rfl⟩) | herror
    · exact .inr (.inl hin)
    · exact .inr (.inr hout)
    · exact .inl (.inr herror)
  · rw [putSlots_eq_self hop] at hr
    exact .inl hr

/-- A shape settles further if its own filled slots are put back into it. -/
theorem settles_putSlots (h : Settles s₀ s) (hkind : s₀.id = id → s₀.kind = .operation op)
    (hslots : op.Within { op with input := input, output := output }) :
    Settles s₀ (putSlots id input output s) := by
  by_cases hid : s.id = id
  · refine ⟨(bare_putSlots _ _ _ s).trans h.bare, fun op₀ op' h₀ h' => ?_⟩
    obtain rfl : op = op₀ := Kind.operation.inj ((hkind (h.id_eq ▸ hid)).symm.trans h₀)
    by_cases hop : ∃ now, s.kind = .operation now
    · obtain ⟨now, hop⟩ := hop
      rw [putSlots_of_operation hid hop] at h'
      cases h'
      exact ⟨hslots.input, hslots.output⟩
    · rw [putSlots_of_not_operation fun now h => hop ⟨now, h⟩] at h'
      exact h.slots op op' h₀ h'
  · rw [putSlots_of_ne hid]
    exact h

end Slots

/-- **What an operation's slots come to**: structures come in behind the shapes that are there, and the slots are
put into the operation, those that were filled as they were. -/
theorem normalizeOperation_exact {id : ShapeId} {op : Operation}
    (h : m.normalizeOperation (id, op) = .ok m') :
    ∃ input output middle,
      m.Adds (fun s => (op.input = none ∧ s = slotShape id "Input") ∨
        (op.output = none ∧ s = slotShape id "Output")) middle ∧
      m'.shapes = middle.shapes.map (putSlots id input output) ∧
      op.Within { op with input := input, output := output } ∧
      (∃ i, input = some i ∧ (op.input = some i ∨ middle.contains i = true)) ∧
      (∃ o, output = some o ∧ (op.output = some o ∨ middle.contains o = true)) := by
  unfold normalizeOperation at h
  obtain ⟨⟨first, input⟩, hinput, h⟩ := Results.bind_eq_ok_iff.1 h
  obtain ⟨⟨second, output⟩, houtput, h⟩ := Results.bind_eq_ok_iff.1 h
  cases h
  obtain ⟨⟨new, hfirst, hnew⟩, hin, i, hi, hithere⟩ := fillSlot_exact hinput
  obtain ⟨⟨newer, hsecond, hnewer⟩, hout, o, ho, hothere⟩ := fillSlot_exact houtput
  refine ⟨input, output, second, ⟨new ++ newer, ?_, ?_⟩, rfl, ⟨hin, hout⟩, ⟨i, hi, ?_⟩, o, ho, hothere⟩
  · rw [hsecond, hfirst, List.append_assoc]
  · intro s hs
    rcases List.mem_append.1 hs with hs | hs
    · exact ⟨(hnew s hs).1, .inl (hnew s hs).2⟩
    · obtain ⟨habsent, hshape⟩ := hnewer s hs
      refine ⟨?_, .inr hshape⟩
      rw [get?, hfirst, List.find?_append] at habsent
      exact (Option.or_eq_none_iff.1 habsent).1
  · refine hithere.imp_right fun hthere => ?_
    rw [contains_iff] at hthere ⊢
    rw [hsecond, List.map_append]
    exact List.mem_append_left _ hthere

/-- What the slots of operations refer to is there afterwards. -/
theorem closed_normalizeOperation {id : ShapeId} {op : Operation} (hm : m.Closed)
    (hop : ∀ target, op.input = some target ∨ op.output = some target → m.contains target = true)
    (h : m.normalizeOperation (id, op) = .ok m') : m'.Closed := by
  obtain ⟨input, output, middle, ⟨added, hmiddle, hadded⟩, hshapes, -, ⟨i, hi, hin⟩, o, ho, hout⟩ :=
    normalizeOperation_exact h
  have hids : m'.shapes.map Shape.id = middle.shapes.map Shape.id := by
    rw [hshapes, List.map_map]
    exact List.map_congr_left fun s _ => id_putSlots _ _ _ s
  have hthere : ∀ target, m.contains target = true ∨ middle.contains target = true →
      m'.contains target = true := by
    intro target htarget
    simp only [contains_iff, hids, hmiddle, List.map_append] at htarget ⊢
    exact htarget.elim (List.mem_append_left _) fun h => h
  intro s' hs' r hr
  rw [hshapes] at hs'
  obtain ⟨s, hs, rfl⟩ := List.mem_map.1 hs'
  rcases references_putSlots hr with hold | hr | hr
  · rw [hmiddle] at hs
    rcases List.mem_append.1 hs with hs | hs
    · exact hthere r.2 (.inl (hm s hs r hold))
    · -- what came in refers to nothing
      rcases (hadded s hs).2 with ⟨-, rfl⟩ | ⟨-, rfl⟩ <;> simp [slotShape, Shape.references, Shape.members] at hold
  · obtain rfl : i = r.2 := Option.some.inj (hi.symm.trans hr)
    exact hthere r.2 (hin.imp_left fun h => hop r.2 (.inl h))
  · obtain rfl : o = r.2 := Option.some.inj (ho.symm.trans hr)
    exact hthere r.2 (hout.imp_left fun h => hop r.2 (.inr h))

/-! ### Boxes -/

theorem ids_boxRecursive (m : Model) : m.boxRecursive.shapes.map Shape.id = m.shapes.map Shape.id := by
  rw [boxRecursive_eq, List.map_map]
  exact List.map_congr_left fun s _ => id_boxShape s

theorem operation_boxShape {s : Shape} {op : Operation} :
    (m.boxShape s).kind = .operation op ↔ s.kind = .operation op := by
  unfold boxShape
  cases hkind : s.kind <;> simp [hkind]

theorem name_boxMember (container : ShapeId) (member : Member) :
    (m.boxMember container member).name = member.name := by
  unfold boxMember
  split <;> rfl

theorem unboxed_boxed (container : ShapeId) (member : Member) :
    (m.boxMember container member).unboxed = member.unboxed := by
  unfold boxMember
  split <;> rfl

theorem bare_boxShape (s : Shape) : (m.boxShape s).bare = s.bare := by
  have hmembers : ∀ members : List Member,
      (m.boxMembers s.id members).map Member.unboxed = members.map Member.unboxed := by
    intro members
    rw [boxMembers_eq, List.map_map]
    exact List.map_congr_left fun member _ => unboxed_boxed s.id member
  unfold boxShape
  cases hkind : s.kind <;> simp [Shape.bare, Shape.unboxed, hkind, hmembers]

theorem references_boxShape (s : Shape) : (m.boxShape s).references = s.references := by
  have hmembers : ∀ members : List Member,
      (m.boxMembers s.id members).map (fun member => (member.name, member.target)) =
        members.map fun member => (member.name, member.target) := by
    intro members
    rw [boxMembers_eq, List.map_map]
    refine List.map_congr_left fun member _ => ?_
    show ((m.boxMember s.id member).name, (m.boxMember s.id member).target) = _
    rw [name_boxMember, target_boxMember]
  unfold boxShape
  cases hkind : s.kind <;> simp [Shape.references, Shape.members, hkind, hmembers]

/-! ### Every step -/

/-- The shape stands for the missing input or output of an operation. -/
structure Synthesized (m : Model) (s : Shape) : Prop where
  absent : m.get? s.id = none
  plain : s = ⟨s.id, .struct [], {}⟩
  named : ∃ operation op suffix, (operation, op) ∈ m.operations ∧
    ((suffix = "Input" ∧ op.input = none) ∨ (suffix = "Output" ∧ op.output = none)) ∧
    s.id = ShapeId.ofParts operation.id.space (operation.id.name ++ suffix) ∧
    s.id.space = operation.id.space ∧ s.id.name = operation.id.name ++ suffix

/-- A model that came out of another by steps of preparation: nothing is missing, and behind the shapes that were
there, as they settled, are the structures that were synthesized. -/
structure Grown (m₀ m : Model) : Prop where
  closed : m.Closed
  shapes : ∃ kept new, m.shapes = kept ++ new ∧ List.Forall₂ Settles m₀.shapes kept ∧
    ∀ s ∈ new, m₀.Synthesized s

theorem synthesized_of_slotShape {s : Shape} {e : Shape × Operation} (he : e ∈ m.operations)
    (habsent : m.get? s.id = none)
    (h : (e.2.input = none ∧ s = slotShape e.1.id "Input") ∨ (e.2.output = none ∧ s = slotShape e.1.id "Output")) :
    m.Synthesized s := by
  obtain ⟨operation, op⟩ := e
  rcases h with ⟨hmissing, rfl⟩ | ⟨hmissing, rfl⟩
  · exact ⟨habsent, rfl, operation, op, "Input", he, .inl ⟨rfl, hmissing⟩, rfl, space_slotShape _ _,
      name_slotShape _ _⟩
  · exact ⟨habsent, rfl, operation, op, "Output", he, .inr ⟨rfl, hmissing⟩, rfl, space_slotShape _ _,
      name_slotShape _ _⟩

namespace Grown

theorem refl (h : m.Closed) : Grown m m := by
  refine ⟨h, m.shapes, [], by simp, ?_, by simp⟩
  rw [List.forall₂_same]
  exact fun s _ => Settles.refl s

theorem ids_subset (h : Grown m₀ m) : m₀.shapes.map Shape.id ⊆ m.shapes.map Shape.id := by
  obtain ⟨kept, new, hshapes, hkept, -⟩ := h.shapes
  have hids : kept.map Shape.id = m₀.shapes.map Shape.id := by
    rw [← List.forall₂_eq_eq_eq, List.forall₂_map_left_iff, List.forall₂_map_right_iff]
    exact hkept.flip.imp fun s s' hs => hs.id_eq
  rw [hshapes, List.map_append, hids]
  exact List.subset_append_left _ _

theorem absent (h : Grown m₀ m) {id : ShapeId} (hid : m.get? id = none) : m₀.get? id = none := by
  cases hget : m₀.get? id with
  | none => rfl
  | some s =>
    have hthere := h.ids_subset (List.mem_map_of_mem (mem_of_get? hget))
    rw [id_of_get? hget] at hthere
    exact (not_mem_of_get?_eq_none hid hthere).elim

/-- **Filling the slots of an operation keeps what has grown.** -/
theorem normalizeOperation (hm : m₀.Distinct) (h : Grown m₀ m) {operation : Shape} {op : Operation}
    (hclosed : ∀ id, op.input = some id ∨ op.output = some id → m.contains id = true)
    (he : (operation, op) ∈ m₀.operations) (hstep : m.normalizeOperation (operation.id, op) = .ok m') :
    Grown m₀ m' := by
  obtain ⟨hoperation, hkind⟩ := mem_operations.1 he
  refine ⟨closed_normalizeOperation h.closed hclosed hstep, ?_⟩
  obtain ⟨input, output, middle, ⟨added, hmiddle, hadded⟩, hshapes, hwithin, -⟩ := normalizeOperation_exact hstep
  obtain ⟨kept, new, hbefore, hkept, hnew⟩ := h.shapes
  have hsynthesized : ∀ s ∈ new ++ added, m₀.Synthesized s := by
    intro s hs
    rcases List.mem_append.1 hs with hs | hs
    · exact hnew s hs
    · obtain ⟨habsent, hshape⟩ := hadded s hs
      exact synthesized_of_slotShape he (h.absent habsent) hshape
  refine ⟨kept.map (putSlots operation.id input output), new ++ added, ?_, ?_, hsynthesized⟩
  · have hsame : (new ++ added).map (putSlots operation.id input output) = new ++ added := by
      refine (List.map_congr_left fun s hs => ?_).trans (List.map_id _)
      rw [(hsynthesized s hs).plain]
      exact putSlots_of_not_operation fun op h => by cases h
    rw [hshapes, hmiddle, hbefore, List.append_assoc, List.map_append, hsame]
  · rw [List.forall₂_map_right_iff]
    have hall := (List.forall₂_and_left m₀.shapes kept).2 ⟨fun s hs => hs, hkept⟩
    refine hall.imp fun s s' hs => settles_putSlots hs.2 (fun hid => ?_) hwithin
    rw [List.inj_on_of_nodup_map hm hs.1 hoperation hid, hkind]

theorem boxRecursive (h : Grown m₀ m) : Grown m₀ m.boxRecursive := by
  refine ⟨?_, ?_⟩
  · intro s' hs' r hr
    rw [boxRecursive_eq] at hs'
    obtain ⟨s, hs, rfl⟩ := List.mem_map.1 hs'
    rw [references_boxShape] at hr
    rw [contains_iff, ids_boxRecursive]
    exact contains_iff.1 (h.closed s hs r hr)
  · obtain ⟨kept, new, hshapes, hkept, hnew⟩ := h.shapes
    refine ⟨kept.map m.boxShape, new, ?_, ?_, hnew⟩
    · have hsame : new.map m.boxShape = new := by
        refine (List.map_congr_left fun s hs => ?_).trans (List.map_id new)
        rw [(hnew s hs).plain]
        rfl
      rw [boxRecursive_eq, hshapes, List.map_append, hsame]
    · rw [List.forall₂_map_right_iff]
      exact hkept.imp fun s s' hs => ⟨(bare_boxShape s').trans hs.bare, fun op op' h h' =>
        hs.slots op op' h (operation_boxShape.1 h')⟩

end Grown

/-- **Filling the slots of all operations keeps what has grown.** -/
theorem grown_normalizeOperations (hm : m.Distinct) (hclosed : m.Closed) (h : m.normalizeOperations = .ok m') :
    Grown m m' := by
  refine Results.invariant_foldlM (fun e he middle next hgrown hstep => ?_) (Grown.refl hclosed) h
  obtain ⟨operation, op⟩ := e
  have hmem : (operation, op) ∈ m.operations := List.mem_of_mem_filter he
  obtain ⟨hoperation, hkind⟩ := mem_operations.1 hmem
  refine hgrown.normalizeOperation hm (fun id hid => ?_) hmem hstep
  obtain ⟨r, hr, rfl⟩ := mem_references_of_slot hkind hid
  exact contains_iff.2 (hgrown.ids_subset (contains_iff.1 (hclosed operation hoperation r hr)))

/-- Operations that are gone through have their slots in the end, and so have those that had them before. -/
theorem filled_foldlM {entries : List (Shape × Operation)}
    (h : entries.foldlM (fun m e => m.normalizeOperation (e.1.id, e.2)) m = .ok m')
    (hrest : ∀ s ∈ m.shapes, s.Filled ∨ s.id ∈ entries.map fun e => e.1.id) : ∀ s ∈ m'.shapes, s.Filled := by
  induction entries generalizing m with
  | nil =>
    cases h
    exact fun s hs => (hrest s hs).resolve_right (by simp)
  | cons e rest ih =>
    rw [List.foldlM_cons] at h
    obtain ⟨next, hstep, h⟩ := Results.bind_eq_ok_iff.1 h
    refine ih h fun s' hs' => ?_
    obtain ⟨input, output, middle, ⟨added, hmiddle, hadded⟩, hshapes, -, ⟨i, rfl, -⟩, o, rfl, -⟩ :=
      normalizeOperation_exact hstep
    rw [hshapes] at hs'
    obtain ⟨s, hs, rfl⟩ := List.mem_map.1 hs'
    rw [id_putSlots]
    rw [hmiddle] at hs
    rcases List.mem_append.1 hs with hs | hs
    · rcases hrest s hs with hfilled | hid
      · exact .inl (filled_putSlots rfl rfl (.inr hfilled))
      · rcases List.mem_cons.1 hid with hid | hid
        · exact .inl (filled_putSlots rfl rfl (.inl hid))
        · exact .inr hid
    · have hfilled : s.Filled := by
        rcases (hadded s hs).2 with ⟨-, rfl⟩ | ⟨-, rfl⟩ <;> intro op hop <;> cases hop
      exact .inl (filled_putSlots rfl rfl (.inr hfilled))

/-- **Every operation gets its slots.** -/
theorem filled_normalizeOperations (h : m.normalizeOperations = .ok m') : ∀ s ∈ m'.shapes, s.Filled := by
  refine filled_foldlM h fun s hs => ?_
  by_cases hmissing : ∃ op, s.kind = .operation op ∧ (op.input.isNone || op.output.isNone) = true
  · obtain ⟨op, hop, hnone⟩ := hmissing
    have hmem : (s, op) ∈ m.operations := mem_operations.2 ⟨hs, hop⟩
    exact .inr (List.mem_map.2 ⟨(s, op), List.mem_filter.2 ⟨hmem, hnone⟩, rfl⟩)
  · refine .inl fun op hop => ?_
    have hsome : ¬(op.input.isNone || op.output.isNone) = true := fun hnone => hmissing ⟨op, hop, hnone⟩
    simpa [Option.isSome_iff_ne_none] using hsome

/-- Where every operation has its slots, there is nothing to fill. -/
theorem normalizeOperations_of_filled (h : ∀ s ∈ m.shapes, s.Filled) : m.normalizeOperations = .ok m := by
  have hnone : m.operations.filter (fun e => e.2.input.isNone || e.2.output.isNone) = [] := by
    rw [List.filter_eq_nil_iff]
    rintro ⟨s, op⟩ he
    obtain ⟨hs, hkind⟩ := mem_operations.1 he
    obtain ⟨hin, hout⟩ := h s hs op hkind
    simp [Option.isSome_iff_ne_none.1 hin, Option.isSome_iff_ne_none.1 hout]
  unfold normalizeOperations
  simp only [hnone]
  rfl

end Model

/-- **What a prepared model is like.** Every operation has an input and an output, everything that is referred to
is there, as the check of targets finds once more, and the shapes are those from before in their order, each the
same but for slots that were empty and for boxes, with empty structures behind them that stand for missing slots.
Preparing the model again succeeds and changes nothing. -/
theorem prepare_exact {docs : List Source.RawModel} {m m' : Model} (h : assemble docs = .ok m)
    (hprepare : m.prepare = .ok m') :
    (∀ operation op, (operation, op) ∈ m'.operations → op.input.isSome = true ∧ op.output.isSome = true) ∧
    m'.Closed ∧ m'.checkTargets = .ok () ∧
    (∃ kept new, m'.shapes = kept ++ new ∧ List.Forall₂ Settles m.shapes kept ∧ ∀ s ∈ new, m.Synthesized s) ∧
    m'.prepare = .ok m' := by
  unfold Model.prepare at hprepare
  obtain ⟨normal, hnormal, hprepare⟩ := Results.bind_eq_ok_iff.1 hprepare
  cases hprepare
  have hgrown := Model.grown_normalizeOperations (distinct_assemble h) (Model.closed_of_assemble h) hnormal
  have hfilled : ∀ s ∈ normal.boxRecursive.shapes, s.Filled := by
    intro s' hs'
    rw [Model.boxRecursive_eq] at hs'
    obtain ⟨s, hs, rfl⟩ := List.mem_map.1 hs'
    intro op hop
    exact Model.filled_normalizeOperations hnormal s hs op (Model.operation_boxShape.1 hop)
  have hclosed := hgrown.boxRecursive.closed
  refine ⟨?_, hclosed, Model.checkTargets_iff.2 hclosed, hgrown.boxRecursive.shapes, ?_⟩
  · intro operation op he
    obtain ⟨hs, hkind⟩ := Model.mem_operations.1 he
    exact hfilled operation hs op hkind
  · rw [Model.prepare, Model.normalizeOperations_of_filled hfilled, Results.ok_bind, Model.boxRecursive_idem]

/-- An operation without slots, whose input is there already and stands among the errors of another one, and a
structure that holds itself. -/
def pings : Source.RawModel :=
  ⟨"2.0", [
    ("t#Ping", ⟨"operation", [], none, none, none, none, none, [], [], none, []⟩),
    ("t#Get", ⟨"operation", [], none, none, none, some "t#Node", none, ["t#PingInput"], [], none, []⟩),
    ("t#PingInput", ⟨"structure", [], none, none, none, none, none, [], [], none, []⟩),
    ("t#Node", ⟨"structure", [("next", ⟨"t#Node", []⟩)], none, none, none, none, none, [], [], none, []⟩)]⟩

/-- The model of these definitions. -/
def pinged : Model :=
  ⟨preludeShapes ++ [
    ⟨⟨"t#Ping"⟩, .operation ⟨none, none, []⟩, {}⟩,
    ⟨⟨"t#Get"⟩, .operation ⟨some ⟨"t#Node"⟩, none, [⟨"t#PingInput"⟩]⟩, {}⟩,
    ⟨⟨"t#PingInput"⟩, .struct [], {}⟩,
    ⟨⟨"t#Node"⟩, .struct [⟨"next", ⟨"t#Node"⟩, {}⟩], {}⟩]⟩

/-- The same with all slots filled and the cycle boxed. -/
def answered : Model :=
  ⟨preludeShapes ++ [
    ⟨⟨"t#Ping"⟩, .operation ⟨some ⟨"t#PingInput"⟩, some ⟨"t#PingOutput"⟩, []⟩, {}⟩,
    ⟨⟨"t#Get"⟩, .operation ⟨some ⟨"t#Node"⟩, some ⟨"t#GetOutput"⟩, [⟨"t#PingInput"⟩]⟩, {}⟩,
    ⟨⟨"t#PingInput"⟩, .struct [], {}⟩,
    ⟨⟨"t#Node"⟩, .struct [⟨"next", ⟨"t#Node"⟩, { boxed := true }⟩], {}⟩,
    ⟨⟨"t#PingOutput"⟩, .struct [], {}⟩,
    ⟨⟨"t#GetOutput"⟩, .struct [], {}⟩]⟩

theorem pings_answered :
    assemble [pings] = .ok pinged ∧ pinged.prepare = .ok answered ∧
    (∃ kept new, answered.shapes = kept ++ new ∧ List.Forall₂ Settles pinged.shapes kept ∧
      ∀ s ∈ new, pinged.Synthesized s) ∧
    answered.Closed ∧ answered.checkTargets = .ok () ∧ answered.prepare = .ok answered := by
  have hassemble : assemble [pings] = .ok pinged := rfl
  have hprepare : pinged.prepare = .ok answered := rfl
  obtain ⟨-, hclosed, hcheck, hshapes, hagain⟩ := prepare_exact hassemble hprepare
  exact ⟨hassemble, hprepare, hshapes, hclosed, hcheck, hagain⟩

end WireShapes
