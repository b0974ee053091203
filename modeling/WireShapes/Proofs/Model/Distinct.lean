import Mathlib.Data.List.Nodup
import WireShapes.Model.Loading
import WireShapes.Model.Transform
import WireShapes.Proofs.Model.Recursion
import WireShapes.Proofs.Results

/-!
Every shape of a model is the one under its id.

* `Model.Distinct`: no id has two shapes
* `Model.get?_of_mem`: in such a model a shape is found under its id
* `Model.get?_insert`, `Model.distinct_insert`, `Model.distinct_modify`: how models are changed
* `distinct_assemble`, `Model.distinct_prepare`: models from documents, and those that code is
  generated from
-/

namespace WireShapes

namespace Model

variable {m m' : Model} {shape : Shape}

/-- No id has two shapes. -/
def Distinct (m : Model) : Prop := (m.shapes.map Shape.id).Nodup

instance (m : Model) : Decidable m.Distinct := inferInstanceAs (Decidable (m.shapes.map Shape.id).Nodup)

theorem get?_of_mem (hm : m.Distinct) (h : shape ∈ m.shapes) : m.get? shape.id = some shape := by
  cases hget : m.get? shape.id with
  | none =>
    unfold get? at hget
    rw [List.find?_eq_none] at hget
    exact (hget shape h (beq_self_eq_true shape.id)).elim
  | some found => rw [List.inj_on_of_nodup_map hm (mem_of_get? hget) h (id_of_get? hget)]

/-! ### Changes -/

/-- A shape in its place takes that of the shape with its id, or stands behind all others. -/
theorem ids_place (shape : Shape) (shapes : List Shape) :
    (place shape shapes).map Shape.id =
      if shape.id ∈ shapes.map Shape.id then shapes.map Shape.id else shapes.map Shape.id ++ [shape.id] := by
  induction shapes with
  | nil => rfl
  | cons s rest ih =>
    unfold place
    by_cases hid : s.id = shape.id
    · simp [hid]
    · rw [if_neg hid, List.map_cons, ih]
      by_cases hrest : shape.id ∈ rest.map Shape.id
      · simp [hrest]
      · have hnot : ¬(shape.id ∈ (s :: rest).map Shape.id) := by
          rw [List.map_cons, List.mem_cons]
          rintro (heq | hin)
          · exact hid heq.symm
          · exact hrest hin
        rw [if_neg hrest, if_neg hnot]
        rfl

theorem get?_insert (m : Model) (shape : Shape) (id : ShapeId) :
    (m.insert shape).get? id = if shape.id = id then some shape else m.get? id := by
  obtain ⟨shapes⟩ := m
  unfold insert get?
  dsimp only
  induction shapes with
  | nil => by_cases hid : shape.id = id <;> simp [place, hid]
  | cons s rest ih =>
    unfold place
    by_cases hs : s.id = shape.id
    · by_cases hid : shape.id = id <;> simp [hs, hid]
    · rw [if_neg hs]
      by_cases hid : s.id = id
      · have hne : shape.id ≠ id := fun h => hs (hid.trans h.symm)
        simp [hid, hne]
      · simp [hid, ih]

theorem distinct_insert (hm : m.Distinct) (shape : Shape) : (m.insert shape).Distinct := by
  unfold Distinct insert
  rw [ids_place]
  split
  · exact hm
  · next hnew =>
    rw [List.nodup_append]
    refine ⟨hm, List.nodup_cons.2 ⟨List.not_mem_nil, List.nodup_nil⟩, ?_⟩
    rintro id hid other hother rfl
    rw [List.mem_singleton] at hother
    exact hnew (hother ▸ hid)

theorem distinct_modify (hm : m.Distinct) {id : ShapeId} {f : Shape → Shape} (hf : ∀ s, (f s).id = s.id) :
    (m.modify id f).Distinct := by
  have hids : (m.modify id f).shapes.map Shape.id = m.shapes.map Shape.id := by
    unfold modify
    rw [List.map_map]
    refine List.map_congr_left fun s _ => ?_
    rw [Function.comp_apply]
    split
    · exact hf s
    · rfl
  unfold Distinct
  rw [hids]
  exact hm

theorem distinct_boxRecursive (hm : m.Distinct) : m.boxRecursive.Distinct := by
  unfold Distinct
  rw [boxRecursive_eq, List.map_map]
  have hids : Shape.id ∘ m.boxShape = Shape.id := by
    funext s
    exact id_boxShape s
  rw [hids]
  exact hm

/-! ### Operations -/

theorem distinct_fillSlot (hm : m.Distinct) {operation : ShapeId} {suffix : String}
    {slot filled : Option ShapeId} (h : m.fillSlot operation suffix slot = .ok (m', filled)) : m'.Distinct := by
  unfold fillSlot at h
  cases slot with
  | some id =>
    cases h
    exact hm
  | none =>
    obtain ⟨⟨synthesized, id⟩, hsynthesize, h⟩ := Results.map_eq_ok_iff.1 h
    cases h
    unfold synthesize at hsynthesize
    dsimp only at hsynthesize
    split at hsynthesize
    · split at hsynthesize
      · cases hsynthesize
        exact hm
      · cases hsynthesize
    · cases hsynthesize
      exact distinct_insert hm _

theorem distinct_normalizeOperation (hm : m.Distinct) {entry : ShapeId × Operation}
    (h : m.normalizeOperation entry = .ok m') : m'.Distinct := by
  unfold normalizeOperation at h
  obtain ⟨⟨first, input⟩, hinput, h⟩ := Results.bind_eq_ok_iff.1 h
  obtain ⟨⟨second, output⟩, houtput, h⟩ := Results.bind_eq_ok_iff.1 h
  cases h
  refine distinct_modify (distinct_fillSlot (distinct_fillSlot hm hinput) houtput) fun s => ?_
  split <;> rfl

theorem distinct_normalizeOperations (hm : m.Distinct) (h : m.normalizeOperations = .ok m') : m'.Distinct :=
  Results.invariant_foldlM (fun _ _ _ _ hm hstep => distinct_normalizeOperation hm hstep) hm h

/-- **Preparation keeps the shapes distinct.** -/
theorem distinct_prepare (hm : m.Distinct) (h : m.prepare = .ok m') : m'.Distinct := by
  unfold prepare at h
  obtain ⟨normal, hnormal, h⟩ := Results.bind_eq_ok_iff.1 h
  cases h
  exact distinct_boxRecursive (distinct_normalizeOperations hm hnormal)

end Model

theorem distinct_lowerAll {raw : List (String × Source.RawShape)} {m : Model} (h : lowerAll raw = .ok m) :
    m.Distinct := by
  have hprelude : (⟨preludeShapes⟩ : Model).Distinct := by decide
  refine Results.invariant_foldlM (fun e _ m m' hm hstep => ?_) hprelude h
  obtain ⟨lowered, -, hstep⟩ := Results.bind_eq_ok_iff.1 hstep
  cases lowered with
  | none =>
    cases hstep
    exact hm
  | some shape =>
    cases hstep
    exact Model.distinct_insert hm shape

/-- **A model from documents has distinct shapes.** -/
theorem distinct_assemble {docs : List Source.RawModel} {m : Model} (h : assemble docs = .ok m) : m.Distinct := by
  unfold assemble at h
  obtain ⟨merged, -, h⟩ := Results.bind_eq_ok_iff.1 h
  obtain ⟨model, hlower, h⟩ := Results.bind_eq_ok_iff.1 h
  obtain ⟨-, -, h⟩ := Results.bind_eq_ok_iff.1 h
  cases h
  exact distinct_lowerAll hlower

theorem distinct_loadModel {sources : List SourceText} {m : Model} (h : loadModel sources = .ok m) :
    m.Distinct := by
  obtain ⟨docs, -, hassemble⟩ := Results.bind_eq_ok_iff.1 h
  exact distinct_assemble hassemble

end WireShapes
