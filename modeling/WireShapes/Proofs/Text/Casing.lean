import WireShapes.Proofs.Text.Split
import WireShapes.Text.Casing

/-!
Words of a name, and what is left of a name in its spellings.

* `isNameChar_of_mem_words`: words are made of letters and digits
* `nameParts`: what stands between the underscores of a name in small letters, and of a longer one (`splitOn_named`)
* `isNameChar_camelCase`: a name in capitalised words is made of letters and digits
-/

namespace WireShapes.Text

/-! ### Letters and digits -/

theorem toNat_lt_of_isNameChar {c : Char} (h : isNameChar c = true) : c.toNat < 0x80 := by
  simp only [isNameChar, isAsciiDigit, isAsciiCapital, isAsciiSmall, Bool.or_eq_true, Bool.and_eq_true,
    decide_eq_true_eq] at h
  omega

theorem isNameChar_case {c : Char} (h : isNameChar c = true) :
    isNameChar c.toLower = true ∧ isNameChar c.toUpper = true := by
  have hall : ∀ k < 0x80, isNameChar (Char.ofNat k) = true →
      isNameChar (Char.ofNat k).toLower = true ∧ isNameChar (Char.ofNat k).toUpper = true := by decide
  have hc := hall c.toNat (toNat_lt_of_isNameChar h)
  rw [Char.ofNat_toNat] at hc
  exact hc h

theorem isNameChar_of_mem_pieces {cs piece : List Char} (h : piece ∈ pieces cs) {c : Char} (hc : c ∈ piece) :
    isNameChar c = true := by
  induction cs generalizing piece with
  | nil =>
    rw [List.mem_singleton.1 h] at hc
    cases hc
  | cons d rest ih =>
    unfold pieces at h
    split at h
    · next hd =>
      split at h
      · obtain rfl := List.mem_singleton.1 h
        rwa [List.mem_singleton.1 hc]
      · next p ps hpieces =>
        rcases List.mem_cons.1 h with rfl | h
        · rcases List.mem_cons.1 hc with rfl | hc
          · exact hd
          · exact ih (hpieces ▸ List.mem_cons_self) hc
        · exact ih (hpieces ▸ List.mem_cons_of_mem _ h) hc
    · rcases List.mem_cons.1 h with rfl | h
      · cases hc
      · exact ih h hc

/-! ### Words -/

theorem mem_of_mem_camelWords {mode : WordMode} {word cs w : List Char} (h : w ∈ camelWords mode word cs)
    {c : Char} (hc : c ∈ w) : c ∈ word ++ cs := by
  fun_induction camelWords mode word cs with
  | case1 => cases h
  | case2 mode word d =>
    obtain rfl := List.mem_singleton.1 h
    exact hc
  | case3 mode word d e rest hcut ih =>
    rcases List.mem_cons.1 h with rfl | h
    · exact List.mem_append.2 ((List.mem_append.1 hc).imp_right fun hd => by simp_all)
    · exact List.mem_append_right _ (List.mem_cons_of_mem _ (ih h))
  | case4 mode word d e rest hsmall hcut ih =>
    rcases List.mem_cons.1 h with rfl | h
    · exact List.mem_append_left _ hc
    · exact List.mem_append_right _ (ih h)
  | case5 mode word d e rest hsmall hcapital ih =>
    have hmem := ih h
    rwa [List.append_assoc] at hmem

variable {cs w : List Char}

theorem isNameChar_of_mem_words (h : w ∈ words cs) {c : Char} (hc : c ∈ w) : isNameChar c = true := by
  obtain ⟨piece, hpiece, hw⟩ := List.mem_flatMap.1 h
  exact isNameChar_of_mem_pieces hpiece (mem_of_mem_camelWords hw hc)

/-! ### Small letters -/

/-- The words of a name in small letters. -/
def smallWords (name : String) : List (List Char) := (words name.toList).map smallWord

theorem toList_snakeCase (name : String) : (snakeCase name).toList = joinWith ['_'] (smallWords name) := by
  rw [snakeCase, String.toList_intercalate, joinWith_eq_intercalate, smallWords, List.map_map]
  congr 2
  funext word
  exact String.toList_ofList

theorem isNameChar_of_mem_smallWords {name : String} (h : w ∈ smallWords name) {c : Char} (hc : c ∈ w) :
    isNameChar c = true := by
  obtain ⟨word, hword, rfl⟩ := List.mem_map.1 h
  obtain ⟨d, hd, rfl⟩ := List.mem_map.1 hc
  exact (isNameChar_case (isNameChar_of_mem_words hword hd)).1

/-- What stands between the underscores of a name in small letters: its words, or the empty text if it has none. -/
def nameParts (name : String) : List (List Char) := if smallWords name = [] then [[]] else smallWords name

theorem nameParts_ne_nil (name : String) : nameParts name ≠ [] := by
  unfold nameParts
  split
  · simp
  · next h => exact h

theorem isNameChar_of_mem_nameParts {name : String} (h : w ∈ nameParts name) {c : Char} (hc : c ∈ w) :
    isNameChar c = true := by
  unfold nameParts at h
  split at h
  · rw [List.mem_singleton.1 h] at hc
    cases hc
  · exact isNameChar_of_mem_smallWords h hc

theorem joinWith_nameParts (name : String) : joinWith ['_'] (nameParts name) = (snakeCase name).toList := by
  rw [toList_snakeCase, nameParts]
  split
  · next h => rw [h]; rfl
  · rfl

theorem joinWith_append {parts : List (List Char)} (hne : parts ≠ []) (more : List (List Char)) :
    joinWith ['_'] (parts ++ more) = joinWith ['_'] parts ++ more.flatMap fun part => '_' :: part := by
  obtain ⟨part, rest, rfl⟩ := List.exists_cons_of_ne_nil hne
  rw [List.cons_append, joinWith_cons, joinWith_cons, List.flatMap_append, List.append_assoc]

/-- **The parts of a name in small letters are found again**, with more words after it as well. -/
theorem splitOn_named (name : String) {more : List (List Char)} (hmore : ∀ part ∈ more, '_' ∉ part) :
    splitOn '_' ((snakeCase name).toList ++ more.flatMap fun part => '_' :: part) = nameParts name ++ more := by
  rw [← joinWith_nameParts, ← joinWith_append (nameParts_ne_nil name)]
  refine splitOn_joinWith (by simp [nameParts_ne_nil]) fun part hpart => ?_
  rcases List.mem_append.1 hpart with hpart | hpart
  · exact fun hmem => absurd (isNameChar_of_mem_nameParts hpart hmem) (by decide)
  · exact hmore part hpart

/-! ### Capitalised words -/

theorem isNameChar_of_mem_capitalWord {word : List Char} (h : ∀ c ∈ word, isNameChar c = true) {c : Char}
    (hc : c ∈ capitalWord word) : isNameChar c = true := by
  cases word with
  | nil => cases hc
  | cons d rest =>
    rcases List.mem_cons.1 hc with rfl | hc
    · exact (isNameChar_case (h d List.mem_cons_self)).2
    · obtain ⟨e, he, rfl⟩ := List.mem_map.1 hc
      exact (isNameChar_case (h e (List.mem_cons_of_mem _ he))).1

theorem isNameChar_camelCase {name : String} {c : Char} (h : c ∈ (camelCase name).toList) : isNameChar c = true := by
  rw [camelCase, String.toList_ofList] at h
  obtain ⟨word, hword, hc⟩ := List.mem_flatMap.1 h
  exact isNameChar_of_mem_capitalWord (fun _ hd => isNameChar_of_mem_words hword hd) hc

end WireShapes.Text
