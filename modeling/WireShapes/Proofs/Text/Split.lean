import Mathlib.Data.List.TakeWhile
import WireShapes.Text.Split

/-!
Texts that were cut at a character.

* `splitOn_append_cons`: a text is cut on both sides of a separator apart
* `splitOn_joinWith`, `splitOnce_append`: parts that hold no separator are found again
* `not_mem_of_mem_splitOn`: the parts of a text hold none
* `joinWith_splitOn`: the parts of a text, put together, are the text
* `not_mem_of_splitOnce`: what stands before the first separator holds none
-/

namespace WireShapes.Text

variable {sep : Char}

theorem splitOn_of_not_mem {cs : List Char} (h : sep ∉ cs) : splitOn sep cs = [cs] := by
  induction cs with
  | nil => rfl
  | cons c rest ih =>
    simp only [List.mem_cons, not_or] at h
    rw [splitOn, if_neg (Ne.symm h.1), ih h.2]

theorem exists_splitOn (sep : Char) (cs : List Char) : ∃ part parts, splitOn sep cs = part :: parts := by
  cases cs with
  | nil => exact ⟨[], [], rfl⟩
  | cons c rest =>
    rw [splitOn]
    split
    · exact ⟨_, _, rfl⟩
    · split <;> exact ⟨_, _, rfl⟩

theorem splitOn_append_cons (cs rest : List Char) :
    splitOn sep (cs ++ sep :: rest) = splitOn sep cs ++ splitOn sep rest := by
  induction cs with
  | nil => simp [splitOn]
  | cons c cs ih =>
    obtain ⟨part, parts, hparts⟩ := exists_splitOn sep cs
    rw [List.cons_append, splitOn, splitOn, ih, hparts]
    split <;> rfl

theorem splitOn_append {cs rest : List Char} (h : sep ∉ cs) :
    splitOn sep (cs ++ sep :: rest) = cs :: splitOn sep rest := by
  rw [splitOn_append_cons, splitOn_of_not_mem h, List.singleton_append]

theorem joinWith_cons_cons (part next : List Char) (parts : List (List Char)) :
    joinWith [sep] (part :: next :: parts) = part ++ sep :: joinWith [sep] (next :: parts) := by
  simp [joinWith]

theorem joinWith_cons (part : List Char) (parts : List (List Char)) :
    joinWith [sep] (part :: parts) = part ++ parts.flatMap (sep :: ·) := by
  induction parts generalizing part with
  | nil => simp [joinWith]
  | cons next parts ih =>
    rw [joinWith_cons_cons, ih next, List.flatMap_cons, List.cons_append]

theorem joinWith_eq_intercalate (parts : List (List Char)) : joinWith [sep] parts = [sep].intercalate parts := by
  induction parts with
  | nil => rfl
  | cons part parts ih =>
    cases parts with
    | nil => simp [joinWith]
    | cons next parts => rw [joinWith_cons_cons, ih, List.intercalate_cons_cons, List.append_assoc]; rfl

theorem joinWith_splitOn (cs : List Char) : joinWith [sep] (splitOn sep cs) = cs := by
  induction cs with
  | nil => rfl
  | cons c rest ih =>
    obtain ⟨part, parts, hparts⟩ := exists_splitOn sep rest
    rw [hparts] at ih
    rw [splitOn, hparts]
    split
    · next hc => rw [joinWith_cons_cons, ih, hc, List.nil_append]
    · show joinWith [sep] ((c :: part) :: parts) = c :: rest
      rw [joinWith_cons, List.cons_append, ← joinWith_cons, ih]

/-- Parts that do not hold the separator are found again. -/
theorem splitOn_joinWith {parts : List (List Char)} (hne : parts ≠ []) (h : ∀ p ∈ parts, sep ∉ p) :
    splitOn sep (joinWith [sep] parts) = parts := by
  induction parts with
  | nil => exact absurd rfl hne
  | cons part parts ih =>
    cases parts with
    | nil => exact splitOn_of_not_mem (h part (by simp))
    | cons next parts =>
      rw [joinWith_cons_cons, splitOn_append (h part (by simp)), ih (by simp) fun p hp => h p (by simp [hp])]

theorem not_mem_of_mem_splitOn {cs part : List Char} (h : part ∈ splitOn sep cs) : sep ∉ part := by
  induction cs generalizing part with
  | nil =>
    rw [List.mem_singleton.1 h]
    exact List.not_mem_nil
  | cons c rest ih =>
    obtain ⟨first, parts, hparts⟩ := exists_splitOn sep rest
    rw [hparts] at ih
    rw [splitOn, hparts] at h
    split at h
    · rcases List.mem_cons.1 h with rfl | h
      · exact List.not_mem_nil
      · exact ih h
    · next hc =>
      rcases List.mem_cons.1 h with rfl | h
      · rw [List.mem_cons, not_or]
        exact ⟨Ne.symm hc, ih List.mem_cons_self⟩
      · exact ih (List.mem_cons_of_mem _ h)

theorem forall_bne_of_not_mem {cs : List Char} (h : sep ∉ cs) : ∀ c ∈ cs, (c != sep) = true := by
  intro c hc
  have hne : c ≠ sep := fun hs => h (hs ▸ hc)
  simpa using hne

theorem takeWhile_of_not_mem {cs : List Char} (h : sep ∉ cs) : cs.takeWhile (· != sep) = cs :=
  List.takeWhile_eq_self_iff.2 (forall_bne_of_not_mem h)

theorem dropWhile_of_not_mem {cs : List Char} (h : sep ∉ cs) : cs.dropWhile (· != sep) = [] :=
  List.dropWhile_eq_nil_iff.2 (forall_bne_of_not_mem h)

theorem takeWhile_append {cs rest : List Char} (h : sep ∉ cs) :
    (cs ++ sep :: rest).takeWhile (· != sep) = cs := by
  rw [List.takeWhile_append_of_pos (forall_bne_of_not_mem h), List.takeWhile_cons_of_neg (by simp),
    List.append_nil]

theorem dropWhile_append {cs rest : List Char} (h : sep ∉ cs) :
    (cs ++ sep :: rest).dropWhile (· != sep) = sep :: rest := by
  rw [List.dropWhile_append_of_pos (forall_bne_of_not_mem h), List.dropWhile_cons_of_neg (by simp)]

theorem splitOnce_append {cs rest : List Char} (h : sep ∉ cs) :
    splitOnce sep (cs ++ sep :: rest) = some (cs, rest) := by
  rw [splitOnce, dropWhile_append h, takeWhile_append h]

theorem not_mem_of_splitOnce {cs before after : List Char} (h : splitOnce sep cs = some (before, after)) :
    sep ∉ before := by
  unfold splitOnce at h
  split at h
  · cases h
  · cases h
    intro hsep
    have hne := List.mem_takeWhile_imp hsep
    simp at hne

end WireShapes.Text
