import WireShapes.Pattern.Search

/-!
Patterns that ask for a whole text of characters of one set.

* `mem_reach_set`: the positions that a repeated set reaches from one position are those of the run of
  its characters that starts there
* `isFoundIn_wholeText`: `^s+$` is found exactly in the texts that are not empty and have only
  characters of `s`
* `isMatch_smallLetters`: so it is for `^[a-z]+$`
-/

namespace WireShapes.Pattern

/-- One character of the set or more, from the start to the end of the text. -/
def wholeText (chars : CharSet) : Expr :=
  .both (.anchor .textStart) (.both (.times 1 none (.set chars)) (.anchor .textEnd))

theorem ends_set_single (text : Array Char) (chars : CharSet) (i : Nat) :
    (Expr.set chars).ends text [i] = if heldAfter text chars i then [i + 1] else [] := by
  unfold Expr.ends heldAfter
  by_cases h : ((text[i]?).map chars.mem).getD false = true
  · simp [h]
  · simp [h]

/-- Positions up to `i` have been seen, and the search goes on at `i` alone: what it reaches is the
run of characters of the set from there on. -/
theorem mem_reach_set (text : Array Char) (chars : CharSet) (fuel i : Nat) (seen : List Nat)
    (hseen : ∀ j ∈ seen, j ≤ i) (j : Nat) :
    j ∈ reach ((Expr.set chars).ends text) fuel seen [i] ↔
      j ∈ seen ∨ (i < j ∧ j ≤ i + fuel ∧ ∀ k, i ≤ k → k < j → heldAfter text chars k = true) := by
  induction fuel generalizing i seen with
  | zero =>
    rw [reach]
    refine ⟨Or.inl, fun h => h.resolve_right fun hj => ?_⟩
    omega
  | succ fuel ih =>
    have hnew : i + 1 ∉ seen := fun h => by
      have := hseen _ h
      omega
    rw [reach, ends_set_single]
    by_cases hi : heldAfter text chars i = true
    · have hadd : addPositions seen [i + 1] = (i + 1) :: seen := by simp [addPositions, hnew]
      have hseen' : ∀ j ∈ (i + 1) :: seen, j ≤ i + 1 := by
        intro j hj
        rcases List.mem_cons.1 hj with rfl | hj
        · exact Nat.le_refl _
        · exact Nat.le_succ_of_le (hseen j hj)
      simp only [hi, if_true, List.filter_cons, hnew, decide_false, List.filter_nil,
        List.isEmpty_cons, Bool.false_eq_true, if_false, hadd, List.elem_eq_mem, Bool.not_false,
        ih (i + 1) _ hseen', List.mem_cons]
      constructor
      · rintro ((rfl | hj) | ⟨h1, h2, h3⟩)
        · refine .inr ⟨by omega, by omega, fun k hk hk' => ?_⟩
          obtain rfl : k = i := by omega
          exact hi
        · exact .inl hj
        · refine .inr ⟨by omega, by omega, fun k hk hk' => ?_⟩
          rcases Nat.eq_or_lt_of_le hk with rfl | hlt
          · exact hi
          · exact h3 k hlt hk'
      · rintro (hj | ⟨h1, h2, h3⟩)
        · exact .inl (.inr hj)
        · by_cases hj : j = i + 1
          · exact .inl (.inl hj)
          · exact .inr ⟨by omega, by omega, fun k hk hk' => h3 k (by omega) hk'⟩
    · simp only [hi, if_false, Bool.false_eq_true, List.filter_nil, List.isEmpty_nil, if_true]
      refine ⟨Or.inl, fun h => h.resolve_right fun hj => hi ?_⟩
      exact hj.2.2 i (Nat.le_refl i) hj.1

theorem reach_nil (text : Array Char) (chars : CharSet) (fuel : Nat) :
    reach ((Expr.set chars).ends text) fuel [] [] = [] := by
  cases fuel <;> rfl

theorem forall_heldAfter_iff (cs : List Char) (chars : CharSet) :
    (∀ k, k < cs.length → heldAfter cs.toArray chars k = true) ↔ ∀ c ∈ cs, chars.mem c = true := by
  have hk : ∀ k (h : k < cs.length), heldAfter cs.toArray chars k = chars.mem cs[k] := by
    intro k h
    simp [heldAfter, h]
  constructor
  · intro h c hc
    obtain ⟨k, hlt, rfl⟩ := List.getElem_of_mem hc
    rw [← hk k hlt]
    exact h k hlt
  · intro h k hlt
    rw [hk k hlt]
    exact h _ (List.getElem_mem hlt)

theorem lt_length_of_heldAfter {cs : List Char} {chars : CharSet} {k : Nat}
    (h : heldAfter cs.toArray chars k = true) : k < cs.length := by
  apply Decidable.byContradiction
  intro hk
  simp [heldAfter, Nat.le_of_not_lt hk] at h

theorem ends_textStart (text : Array Char) :
    (Expr.anchor .textStart).ends text (List.range (text.size + 1)) = [0] := by
  show (List.range (text.size + 1)).filter (fun i => i == 0) = [0]
  rw [List.range_succ_eq_map, List.filter_cons]
  simp [List.filter_map, Function.comp_def]

theorem ends_wholeText (text : Array Char) (chars : CharSet) :
    (wholeText chars).ends text (List.range (text.size + 1)) =
      if heldAfter text chars 0 then
        (reach ((Expr.set chars).ends text) (text.size + 1) [1] [1]).filter fun i => i == text.size
      else [] := by
  have hmust : iterate ((Expr.set chars).ends text) 1 [0] =
      if heldAfter text chars 0 then [1] else [] := by
    rw [iterate, iterate, ends_set_single]
    rfl
  unfold wholeText
  rw [Expr.ends, ends_textStart]
  show (reach _ _ (iterate _ 1 [0]) (iterate _ 1 [0])).filter (fun i => i == text.size) = _
  rw [hmust]
  split
  · rfl
  · rw [reach_nil]
    rfl

/-- **A set, once or more, from the start to the end is found exactly in the texts that are not empty
and have no other characters.** -/
theorem isFoundIn_wholeText (chars : CharSet) (s : String) :
    (wholeText chars).isFoundIn s = true ↔ s.toList ≠ [] ∧ ∀ c ∈ s.toList, chars.mem c = true := by
  unfold Expr.isFoundIn
  generalize s.toList = cs
  dsimp only
  rw [ends_wholeText, ← forall_heldAfter_iff, List.size_toArray]
  by_cases h0 : heldAfter cs.toArray chars 0 = true
  · have hpos := lt_length_of_heldAfter h0
    have hne : cs ≠ [] := List.ne_nil_of_length_pos hpos
    rw [if_pos h0]
    simp only [Bool.not_eq_true', List.isEmpty_eq_false_iff, ne_eq, List.filter_eq_nil_iff, beq_iff_eq,
      Classical.not_forall, Decidable.not_not, exists_prop, hne, not_false_eq_true, true_and]
    constructor
    · rintro ⟨j, hj, rfl⟩ k hk
      rcases (mem_reach_set _ _ _ 1 [1] (by simp) _).1 hj with h1 | ⟨-, -, h3⟩
      · obtain rfl : k = 0 := by
          simp only [List.mem_singleton] at h1
          omega
        exact h0
      · by_cases hk0 : k = 0
        · exact hk0 ▸ h0
        · exact h3 k (by omega) hk
    · intro hall
      refine ⟨_, (mem_reach_set _ _ _ 1 [1] (by simp) _).2 ?_, rfl⟩
      by_cases h1 : cs.length = 1
      · exact .inl (by simp [h1])
      · exact .inr ⟨by omega, by omega, fun k _ hk => hall k hk⟩
  · rw [if_neg h0]
    simp only [List.isEmpty_nil, Bool.not_true, Bool.false_eq_true, false_iff, not_and]
    intro hne hall
    exact h0 (hall 0 (List.length_pos_iff.2 hne))

theorem compile?_smallLetters :
    compile? "^[a-z]+$" = some (wholeText ⟨[(97, 122)]⟩) := by
  with_unfolding_all rfl

/-- **The pattern `^[a-z]+$` matches exactly the texts of small letters, at least one.** -/
theorem isMatch_smallLetters (s : String) :
    isMatch "^[a-z]+$" s = true ↔ s.toList ≠ [] ∧ ∀ c ∈ s.toList, 'a' ≤ c ∧ c ≤ 'z' := by
  have hmem : ∀ c : Char, CharSet.mem ⟨[(97, 122)]⟩ c = true ↔ 'a' ≤ c ∧ c ≤ 'z' := by
    intro c
    simp only [CharSet.mem, CharSet.holds, Text.inRanges, List.any_cons, List.any_nil, Bool.or_false,
      Bool.and_eq_true, decide_eq_true_eq]
    exact Iff.rfl
  unfold isMatch
  rw [compile?_smallLetters]
  simp only [isFoundIn_wholeText, hmem]

end WireShapes.Pattern
