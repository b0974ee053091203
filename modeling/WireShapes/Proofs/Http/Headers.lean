import WireShapes.Http.Header
import WireShapes.Proofs.Text.Utf8

/-!
Header fields, written and read.

* `FieldText`: a text of visible ASCII, spaces and tabs; `Visible`: one that is not empty and has no tabs
* `FieldText.fieldValue`, `FieldText.fieldText?`: such a text goes into a field and comes back from it
* `one_of_getAll`: and so does the value of a field that occurs once or not at all
* `WritableText`, `AsciiText`: a text without control characters, tabs apart; one without characters beyond ASCII
* `fieldValue_eq`, `fieldText?_encode`: which texts are written, and which of them are read
* `one_fieldValue`: of the texts that are written those of ASCII are read
-/

namespace WireShapes.Http

/-- Visible ASCII, space or tab. -/
def FieldChar (c : Char) : Prop := c = '\t' ∨ 0x20 ≤ c.toNat ∧ c.toNat ≤ 0x7E

instance : DecidablePred FieldChar := fun c =>
  inferInstanceAs (Decidable (c = '\t' ∨ 0x20 ≤ c.toNat ∧ c.toNat ≤ 0x7E))

/-- A text of visible ASCII, spaces and tabs. -/
def FieldText (s : String) : Prop := ∀ c ∈ s.toList, FieldChar c

-- the characters of the text are gone through, not all there are
instance : DecidablePred FieldText := fun s => List.decidableBAll FieldChar s.toList

/-- A text that is not empty and has visible ASCII and spaces only. -/
structure Visible (s : String) : Prop where
  ne_empty : s ≠ ""
  visible : ∀ c ∈ s.toList, 0x20 ≤ c.toNat ∧ c.toNat ≤ 0x7E

theorem Visible.fieldText {s : String} (h : Visible s) : FieldText s := fun c hc => .inr (h.visible c hc)

namespace FieldText

variable {s : String}

theorem code (h : FieldText s) {c : Char} (hc : c ∈ s.toList) :
    c.toNat = 0x09 ∨ 0x20 ≤ c.toNat ∧ c.toNat ≤ 0x7E := by
  rcases h c hc with rfl | hvisible
  · exact .inl rfl
  · exact .inr hvisible

theorem ascii (h : FieldText s) : ∀ c ∈ s.toList, c.toNat < 0x80 := fun c hc => by
  have := h.code hc
  omega

theorem bytes (h : FieldText s) {b : UInt8} (hb : b ∈ Utf8.encode s) :
    b.toNat = 0x09 ∨ 0x20 ≤ b.toNat ∧ b.toNat < 0x7F := by
  rw [Utf8.encode, Utf8.encodeChars_ascii h.ascii] at hb
  obtain ⟨c, hc, rfl⟩ := List.mem_map.1 hb
  have := h.code hc
  rw [Utf8.toNat_ofNat (by omega)]
  omega

theorem fieldValue (h : FieldText s) (name : String) : fieldValue name s = .ok (Utf8.encode s) := by
  have hall : (Utf8.encode s).all isFieldByte = true := by
    rw [List.all_eq_true]
    intro b hb
    have := h.bytes hb
    simp only [isFieldByte, Bool.or_eq_true, Bool.and_eq_true, decide_eq_true_eq, bne_iff_ne, ne_eq, beq_iff_eq,
      UInt8.le_iff_toNat_le, ← UInt8.toNat_inj, UInt8.reduceToNat]
    omega
  simp [Http.fieldValue, hall]

theorem fieldText? (h : FieldText s) : fieldText? (Utf8.encode s) = some s := by
  have hall : (Utf8.encode s).all isTextByte = true := by
    rw [List.all_eq_true]
    intro b hb
    have := h.bytes hb
    simp only [isTextByte, Bool.or_eq_true, Bool.and_eq_true, decide_eq_true_eq, beq_iff_eq, UInt8.le_iff_toNat_le,
      UInt8.lt_iff_toNat_lt, ← UInt8.toNat_inj, UInt8.reduceToNat]
    omega
  rw [Http.fieldText?, if_pos hall, Utf8.encode, Utf8.map_encodeChars_ascii h.ascii, String.ofList_toList]

end FieldText

theorem fieldValue_visible {s : String} (h : Visible s) (name : String) :
    fieldValue name s = .ok (Utf8.encode s) := h.fieldText.fieldValue name

theorem fieldText?_visible {s : String} (h : Visible s) : fieldText? (Utf8.encode s) = some s :=
  h.fieldText.fieldText?

theorem fieldName_ne {x y : String} (h : x.toList.map Char.toLower ≠ y.toList.map Char.toLower) :
    fieldName x ≠ fieldName y := by
  intro hxy
  have := congrArg String.toList hxy
  rw [fieldName, fieldName, String.toList_map, String.toList_map] at this
  exact h this

theorem getAll_append (name : String) (headers more : Headers) :
    getAll name (headers ++ more) = getAll name headers ++ getAll name more := by
  simp [getAll]

/-- **A field that is written once or not at all is read as its text or as nothing.** -/
theorem one_of_getAll {name : String} {headers : Headers} {text : Option String}
    (h : getAll name headers = (text.map Utf8.encode).toList) (hvisible : ∀ s, text = some s → Visible s) :
    one headers name = .ok text := by
  unfold one
  rw [h]
  cases text with
  | none => rfl
  | some s =>
    simp only [Option.map_some, Option.toList_some, textOf, fieldText?_visible (hvisible s rfl)]
    rfl

/-! ### Texts that are written, and texts that are read -/

/-- A character that is no control character, or a tab. -/
def Writable (c : Char) : Prop := c = '\t' ∨ 0x20 ≤ c.toNat ∧ c.toNat ≠ 0x7F

instance : DecidablePred Writable := fun c =>
  inferInstanceAs (Decidable (c = '\t' ∨ 0x20 ≤ c.toNat ∧ c.toNat ≠ 0x7F))

/-- A text without control characters, tabs apart. -/
def WritableText (s : String) : Prop := ∀ c ∈ s.toList, Writable c

instance : DecidablePred WritableText := fun s => List.decidableBAll Writable s.toList

/-- A text without characters beyond ASCII. -/
def AsciiText (s : String) : Prop := ∀ c ∈ s.toList, c.toNat < 0x80

instance : DecidablePred AsciiText := fun s => List.decidableBAll (fun c : Char => c.toNat < 0x80) s.toList

theorem fieldChar_iff (c : Char) : FieldChar c ↔ Writable c ∧ c.toNat < 0x80 := by
  unfold FieldChar Writable
  by_cases hc : c = '\t'
  · simp [hc]
  · simp only [hc, false_or]
    omega

theorem fieldText_iff (s : String) : FieldText s ↔ WritableText s ∧ AsciiText s := by
  simp only [FieldText, WritableText, AsciiText, fieldChar_iff, imp_and, forall_and]

theorem eq_tab_iff {c : Char} : c = '\t' ↔ c.toNat = 0x09 := Char.toNat_inj.symm

/-- A byte beyond ASCII may stand in a value, but such a value is not read. -/
theorem wideByte {b : UInt8} (h : 0x80 ≤ b.toNat) : isFieldByte b = true ∧ isTextByte b = false := by
  simp only [isFieldByte, isTextByte, Bool.or_eq_true, Bool.or_eq_false_iff, Bool.and_eq_true, Bool.and_eq_false_iff,
    decide_eq_true_eq, decide_eq_false_iff_not, bne_iff_ne, ne_eq, beq_iff_eq, beq_eq_false_iff_ne,
    UInt8.le_iff_toNat_le, UInt8.lt_iff_toNat_lt, ← UInt8.toNat_inj, UInt8.reduceToNat]
  omega

/-- A character of ASCII is one byte, and that may stand in a value just if it is read from one. -/
theorem asciiByte {c : Char} (h : c.toNat < 0x80) :
    (isFieldByte (UInt8.ofNat c.toNat) = true ↔ Writable c) ∧ (isTextByte (UInt8.ofNat c.toNat) = true ↔ Writable c) := by
  have hbyte : (UInt8.ofNat c.toNat).toNat = c.toNat := Utf8.toNat_ofNat (by omega)
  simp only [isFieldByte, isTextByte, Writable, eq_tab_iff, Bool.or_eq_true, Bool.and_eq_true, decide_eq_true_eq,
    bne_iff_ne, ne_eq, beq_iff_eq, UInt8.le_iff_toNat_le, UInt8.lt_iff_toNat_lt, ← UInt8.toNat_inj, UInt8.reduceToNat,
    hbyte]
  omega

theorem all_isFieldByte_char (c : Char) : (String.utf8EncodeChar c).all isFieldByte = true ↔ Writable c := by
  rcases Nat.lt_or_ge c.toNat 0x80 with hascii | hwide
  · rw [Utf8.encodeChar_ascii hascii, List.all_cons, List.all_nil, Bool.and_true, (asciiByte hascii).1]
  · have hall : (String.utf8EncodeChar c).all isFieldByte = true :=
      List.all_eq_true.2 fun b hb => (wideByte (Utf8.le_of_mem_encodeChar hwide hb)).1
    have hwritable : Writable c := .inr ⟨by omega, by omega⟩
    exact iff_of_true hall hwritable

theorem all_isTextByte_char (c : Char) : (String.utf8EncodeChar c).all isTextByte = true ↔ FieldChar c := by
  rcases Nat.lt_or_ge c.toNat 0x80 with hascii | hwide
  · rw [Utf8.encodeChar_ascii hascii, List.all_cons, List.all_nil, Bool.and_true, (asciiByte hascii).2, fieldChar_iff,
      and_iff_left hascii]
  · obtain ⟨b, more, hbytes⟩ := List.exists_cons_of_ne_nil (String.utf8EncodeChar_ne_nil (c := c))
    have hb := wideByte (Utf8.le_of_mem_encodeChar hwide (hbytes ▸ List.mem_cons_self))
    have hnot : ¬FieldChar c := fun hc => Nat.not_lt.2 hwide ((fieldChar_iff c).1 hc).2
    rw [hbytes, List.all_cons, hb.2, Bool.false_and]
    exact iff_of_false Bool.false_ne_true hnot

/-- **A text is written unless a control character is in it**, a tab apart. -/
theorem fieldValue_eq (name s : String) :
    fieldValue name s = if WritableText s then .ok (Utf8.encode s) else .error (.headerValue name) := by
  have hall : (Utf8.encode s).all isFieldByte = true ↔ WritableText s := by
    rw [Utf8.encode, Utf8.encodeChars, List.all_flatMap, List.all_eq_true]
    simp only [all_isFieldByte_char]
    rfl
  rw [fieldValue]
  exact if_congr hall rfl rfl

/-- **The bytes of a text are read if it is of visible ASCII, spaces and tabs.** -/
theorem fieldText?_encode (s : String) : fieldText? (Utf8.encode s) = if FieldText s then some s else none := by
  split
  · next htext => exact htext.fieldText?
  · next htext =>
    have hall : ¬(Utf8.encode s).all isTextByte = true := by
      rw [Utf8.encode, Utf8.encodeChars, List.all_flatMap, List.all_eq_true]
      simp only [all_isTextByte_char]
      exact htext
    rw [fieldText?, if_neg hall]

/-- **Of the texts that can be written to a field those of ASCII are read back from it**, and the others are refused.
What can be written is any text without control characters, tabs apart. -/
theorem one_fieldValue (name s : String) :
    (fieldValue name s = if WritableText s then .ok (Utf8.encode s) else .error (.headerValue name)) ∧
    ∀ (bytes : List UInt8) (headers : Headers), fieldValue name s = .ok bytes → getAll name headers = [bytes] →
      one headers name = if AsciiText s then .ok (some s) else .error (.header name .notText) := by
  refine ⟨fieldValue_eq name s, fun bytes headers hwritten hvalue => ?_⟩
  rw [fieldValue_eq] at hwritten
  split at hwritten
  · next hwritable =>
    obtain rfl := Except.ok.inj hwritten
    have htext : FieldText s ↔ AsciiText s := (fieldText_iff s).trans (and_iff_right hwritable)
    rw [one, hvalue]
    by_cases hascii : AsciiText s
    · simp only [textOf, fieldText?_encode, if_pos (htext.2 hascii), if_pos hascii]
      rfl
    · simp only [textOf, fieldText?_encode, if_neg (mt htext.1 hascii), if_neg hascii]
      rfl
  · cases hwritten

/-- A text of ASCII with a tab comes back, and one with an accent does not. -/
theorem tabbedText_comes_back :
    fieldValue "x-id" "a\tb" = .ok (Utf8.encode "a\tb") ∧
      one [("x-id", Utf8.encode "a\tb")] "x-id" = .ok (some "a\tb") ∧
    fieldValue "x-id" "é" = .ok (Utf8.encode "é") ∧
      one [("x-id", Utf8.encode "é")] "x-id" = .error (.header "x-id" .notText) := by
  have hplain : fieldValue "x-id" "a\tb" = .ok (Utf8.encode "a\tb") := by
    rw [fieldValue_eq, if_pos (by decide)]
  have haccent : fieldValue "x-id" "é" = .ok (Utf8.encode "é") := by
    rw [fieldValue_eq, if_pos (by decide)]
  have hread := (one_fieldValue "x-id" "a\tb").2 _ [("x-id", Utf8.encode "a\tb")] hplain (by simp [getAll])
  have hrefused := (one_fieldValue "x-id" "é").2 _ [("x-id", Utf8.encode "é")] haccent (by simp [getAll])
  rw [if_pos (by decide)] at hread
  rw [if_neg (by decide)] at hrefused
  exact ⟨hplain, hread, haccent, hrefused⟩

/-- A text beyond ASCII is written to a field and not read from it. -/
theorem accentedText_refused :
    ¬∀ (name s : String) (bytes : List UInt8), fieldValue name s = .ok bytes →
      one [(name, bytes)] name = .ok (some s) := by
  intro hclaim
  have hwritten : fieldValue "x-id" "é" = .ok (Utf8.encode "é") := by
    rw [fieldValue_eq, if_pos (by decide)]
  have hread := hclaim "x-id" "é" _ hwritten
  have hvalue : getAll "x-id" [("x-id", Utf8.encode "é")] = [Utf8.encode "é"] := by simp [getAll]
  have hnone : fieldText? (Utf8.encode "é") = none := by rw [fieldText?_encode, if_neg (by decide)]
  rw [one, hvalue] at hread
  simp only [textOf, hnone] at hread
  cases hread

end WireShapes.Http
