import Mathlib.Data.List.Basic

/-!
Lists that grow round by round until a round adds nothing.

* `saturate`: the list after some rounds, each of which adds what `next` finds
* `mem_saturate_of_keeps`: what the rounds keep of the list holds of the whole result
* `saturate_add`: once nothing is left to add, more rounds change nothing
* `next_saturate_eq_nil`: with a round for each element that can come in, nothing is left to add
-/

namespace WireShapes

variable {α : Type}

/-- Adds what is found, as many times over as there are rounds. -/
def saturate (next : List α → List α) : Nat → List α → List α
  | 0, seen => seen
  | rounds + 1, seen =>
    if (next seen).isEmpty then seen else saturate next rounds (seen ++ next seen)

variable {next : List α → List α}

theorem subset_saturate (next : List α → List α) (rounds : Nat) (seen : List α) :
    seen ⊆ saturate next rounds seen := by
  induction rounds generalizing seen with
  | zero => exact List.Subset.refl seen
  | succ rounds ih =>
    rw [saturate]
    split
    · exact List.Subset.refl seen
    · exact fun x hx => ih (seen ++ next seen) (List.mem_append_left _ hx)

/-- **What every round keeps holds of all that is there in the end.** -/
theorem mem_saturate_of_keeps {P : α → Prop}
    (keeps : ∀ seen, (∀ x ∈ seen, P x) → ∀ x ∈ next seen, P x) (rounds : Nat) {seen : List α}
    (hseen : ∀ x ∈ seen, P x) : ∀ x ∈ saturate next rounds seen, P x := by
  induction rounds generalizing seen with
  | zero => exact hseen
  | succ rounds ih =>
    rw [saturate]
    split
    · exact hseen
    · refine ih fun x hx => ?_
      rcases List.mem_append.1 hx with hx | hx
      · exact hseen x hx
      · exact keeps seen hseen x hx

/-- Once nothing is left to add, more rounds change nothing. -/
theorem saturate_add {rounds : Nat} {seen : List α} (h : next (saturate next rounds seen) = []) (more : Nat) :
    saturate next (rounds + more) seen = saturate next rounds seen := by
  induction rounds generalizing seen with
  | zero =>
    rw [Nat.zero_add]
    cases more with
    | zero => rfl
    | succ more =>
      have hnone : next seen = [] := h
      show (if (next seen).isEmpty then seen else saturate next more (seen ++ next seen)) = seen
      rw [hnone]
      rfl
  | succ rounds ih =>
    rw [Nat.add_right_comm, saturate, saturate]
    rw [saturate] at h
    split
    · rfl
    · next hsome =>
      rw [if_neg hsome] at h
      exact ih h

section Pool

variable [DecidableEq α] {pool : List α}

/-- The elements that may still come in. -/
def missing (pool seen : List α) : List α := pool.filter fun x => decide (x ∉ seen)

theorem length_missing_le (pool seen : List α) : (missing pool seen).length ≤ pool.length :=
  List.length_filter_le _ pool

theorem mem_missing {seen : List α} {x : α} : x ∈ missing pool seen ↔ x ∈ pool ∧ x ∉ seen := by
  simp [missing]

theorem missing_append (pool seen new : List α) :
    missing pool (seen ++ new) = (missing pool seen).filter fun y => decide (y ∉ new) := by
  unfold missing
  rw [List.filter_filter]
  refine List.filter_congr fun y _ => ?_
  simp [Bool.and_comm]

theorem length_missing_append_le (pool seen new : List α) :
    (missing pool (seen ++ new)).length ≤ (missing pool seen).length := by
  rw [missing_append]
  exact List.length_filter_le _ _

theorem length_missing_lt {seen new : List α} {x : α} (hx : x ∈ pool) (hseen : x ∉ seen)
    (hnew : x ∈ new) : (missing pool (seen ++ new)).length < (missing pool seen).length := by
  rw [missing_append]
  refine List.length_filter_lt_length_iff_exists.2 ⟨x, mem_missing.2 ⟨hx, hseen⟩, ?_⟩
  simpa using hnew

/-- **With a round for each element that may come in, nothing is left to add.** -/
theorem next_saturate_eq_nil (fresh : ∀ seen, ∀ x ∈ next seen, x ∈ pool ∧ x ∉ seen) {rounds : Nat}
    {seen : List α} (enough : (missing pool seen).length ≤ rounds) :
    next (saturate next rounds seen) = [] := by
  induction rounds generalizing seen with
  | zero =>
    have hnone : missing pool seen = [] := List.length_eq_zero_iff.1 (Nat.le_zero.1 enough)
    rw [saturate, List.eq_nil_iff_forall_not_mem]
    intro x hx
    have hmissing : x ∈ missing pool seen := mem_missing.2 (fresh seen x hx)
    simp [hnone] at hmissing
  | succ rounds ih =>
    rw [saturate]
    split
    · next hempty => exact List.isEmpty_iff.1 hempty
    · next hsome =>
      obtain ⟨x, hx⟩ := List.exists_mem_of_ne_nil (next seen) (by simpa using hsome)
      obtain ⟨hpool, hseen⟩ := fresh seen x hx
      have hless := length_missing_lt hpool hseen hx
      exact ih (by omega)

end Pool

end WireShapes
