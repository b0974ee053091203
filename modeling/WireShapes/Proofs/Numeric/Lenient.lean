import WireShapes.Proofs.Numeric.Numerals

/-!
Decimal numbers that are read, although a document may not write them so.

* `Lenient`: an optional minus, digits with or without a point among them, and an optional exponent
* `Lenient.Strict`: digits on both sides of the point, and no zero in front of other digits
* `readUnsigned?_eq_some`: what is read of a text without a sign is such a number
* `Lenient.parts_of_chars`: a text is that of one number
* `Lenient.exists_numeral_iff`: a document may write it so just if it is strict
-/

namespace WireShapes.Decimal

/-- A number as it may be read: there is a digit before the point or after it. -/
structure Lenient where
  minus : Bool
  whole : List Char
  fraction : Option (List Char)
  exponent : Option Exponent
  each : ∀ c ∈ whole ++ fraction.getD [], isDigit c = true
  ne_nil : whole ++ fraction.getD [] ≠ []

namespace Lenient

/-- The point and the digits after it. -/
def fractionChars (l : Lenient) : List Char := (l.fraction.map ('.' :: ·)).getD []

def exponentChars (l : Lenient) : List Char := (l.exponent.map Exponent.chars).getD []

def unsigned (l : Lenient) : List Char := l.whole ++ (l.fractionChars ++ l.exponentChars)

def chars (l : Lenient) : List Char := if l.minus then '-' :: l.unsigned else l.unsigned

/-- There are digits on both sides of the point, and a zero stands in front of no other digit. -/
def Strict (l : Lenient) : Prop :=
  l.whole ≠ [] ∧ l.fraction ≠ some [] ∧ (l.whole.head? = some '0' → l.whole = ['0'])

instance (l : Lenient) : Decidable l.Strict := inferInstanceAs (Decidable (_ ∧ _ ∧ _))

end Lenient

/-! ### What was read -/

theorem exists_digits {cs : List Char} (h : (!cs.isEmpty && cs.all isDigit) = true) :
    ∃ ds : Digits, ds.chars = cs := by
  rw [Bool.and_eq_true, Bool.not_eq_true', List.isEmpty_eq_false_iff] at h
  exact ⟨⟨cs, h.1, List.all_eq_true.1 h.2⟩, rfl⟩

theorem readNat?_eq_some {cs : List Char} {n : Nat} (h : readNat? cs = some n) :
    ∃ ds : Digits, ds.chars = cs := by
  unfold readNat? at h
  split at h
  · next hdigits => exact exists_digits hdigits
  · cases h

theorem readExponent?_eq_some {cs : List Char} {e : Int} (h : readExponent? cs = some e) :
    ∃ (sign : Option Char) (ds : Digits), sign ∈ [none, some '+', some '-'] ∧
      cs = sign.toList ++ ds.chars := by
  unfold readExponent? at h
  split at h <;> split at h
  · next ds hdigits =>
    obtain ⟨digits, rfl⟩ := exists_digits hdigits
    exact ⟨some '-', digits, by simp, rfl⟩
  · cases h
  · next ds hdigits =>
    obtain ⟨digits, rfl⟩ := exists_digits hdigits
    exact ⟨some '+', digits, by simp, rfl⟩
  · cases h
  · next hdigits =>
    obtain ⟨digits, hds⟩ := exists_digits hdigits
    exact ⟨none, digits, by simp, hds.symm⟩
  · cases h

theorem exists_exponent {cs : List Char} {bare x : Double} {value : Int → Double}
    (h : (match cs with
      | [] => some bare
      | c :: more => if c = 'e' ∨ c = 'E' then (readExponent? more).map value else none) = some x) :
    ∃ exponent : Option Exponent, (exponent.map Exponent.chars).getD [] = cs := by
  cases cs with
  | nil => exact ⟨none, rfl⟩
  | cons c more =>
    obtain ⟨hmark, hvalue⟩ := Option.ite_none_right_eq_some.1 h
    obtain ⟨e, he, -⟩ := Option.map_eq_some_iff.1 hvalue
    obtain ⟨sign, ds, hsign, rfl⟩ := readExponent?_eq_some he
    exact ⟨some ⟨c, sign, ds, by simpa using hmark, hsign⟩, rfl⟩

theorem takeWhile_isDigit (cs : List Char) : ∀ c ∈ cs.takeWhile isDigit, isDigit c = true :=
  fun c hc => List.all_eq_true.1 List.all_takeWhile c hc

theorem readUnsigned?_eq_some {minus : Bool} {cs : List Char} {x : Double}
    (h : readUnsigned? minus cs = some x) : ∃ l : Lenient, l.minus = minus ∧ l.unsigned = cs := by
  have hwhole : cs.takeWhile isDigit ++ cs.dropWhile isDigit = cs := List.takeWhile_append_dropWhile
  unfold readUnsigned? at h
  dsimp only at h
  split at h <;> dsimp only at h <;> split at h
  · cases h
  · next _ more hmore hne =>
    have hfraction : more.takeWhile isDigit ++ more.dropWhile isDigit = more :=
      List.takeWhile_append_dropWhile
    obtain ⟨exponent, hexponent⟩ := exists_exponent h
    refine ⟨⟨minus, cs.takeWhile isDigit, some (more.takeWhile isDigit), exponent,
      List.forall_mem_append.2 ⟨takeWhile_isDigit _, takeWhile_isDigit _⟩, by simpa using hne⟩, rfl, ?_⟩
    simp only [Lenient.unsigned, Lenient.fractionChars, Lenient.exponentChars, Option.map_some,
      Option.getD_some, hexponent, List.cons_append, hfraction]
    rw [← hmore, hwhole]
  · cases h
  · next hne =>
    obtain ⟨exponent, hexponent⟩ := exists_exponent h
    refine ⟨⟨minus, cs.takeWhile isDigit, none, exponent, ?_, by simpa using hne⟩, rfl, ?_⟩
    · rw [Option.getD_none, List.append_nil]
      exact takeWhile_isDigit cs
    · simp only [Lenient.unsigned, Lenient.fractionChars, Lenient.exponentChars, Option.map_none,
        Option.getD_none, hexponent, List.nil_append, hwhole]

/-! ### How a document may write it -/

theorem Lenient.exists_numeral {l : Lenient} (h : l.Strict) : ∃ m : Numeral, m.chars = l.chars := by
  obtain ⟨minus, whole, fraction, exponent, each, ne_nil⟩ := l
  obtain ⟨hwhole, hfraction, hleading⟩ := h
  have hdigits : ∀ c ∈ whole, isDigit c = true := fun c hc => each c (List.mem_append_left _ hc)
  cases fraction with
  | none => exact ⟨⟨minus, ⟨whole, hwhole, hdigits⟩, none, exponent, hleading⟩, rfl⟩
  | some ds =>
    have hds : ds ≠ [] := fun hnil => hfraction (congrArg some hnil)
    exact ⟨⟨minus, ⟨whole, hwhole, hdigits⟩,
      some ⟨ds, hds, fun c hc => each c (List.mem_append_right _ hc)⟩, exponent, hleading⟩, rfl⟩

/-- A document may write all of them but those that are not strict. -/
theorem Numeral.exists_lenient (m : Numeral) : ∃ l : Lenient, l.Strict ∧ l.chars = m.chars := by
  obtain ⟨minus, whole, fraction, exponent, leading⟩ := m
  cases fraction with
  | none =>
    refine ⟨⟨minus, whole.chars, none, exponent, ?_, ?_⟩, ⟨whole.ne_nil, by simp, leading⟩, rfl⟩
    · rw [Option.getD_none, List.append_nil]
      exact whole.each
    · rw [Option.getD_none, List.append_nil]
      exact whole.ne_nil
  | some ds =>
    refine ⟨⟨minus, whole.chars, some ds.chars, exponent, List.forall_mem_append.2 ⟨whole.each, ds.each⟩, ?_⟩,
      ⟨whole.ne_nil, fun h => ds.ne_nil (Option.some.inj h), leading⟩, rfl⟩
    exact fun h => whole.ne_nil (List.append_eq_nil_iff.1 h).1

/-! ### What a text tells -/

/-- Digits are told from what comes after them. -/
theorem append_inj_of_digits {ds es cs bs : List Char} (hds : ∀ c ∈ ds, isDigit c = true)
    (hes : ∀ c ∈ es, isDigit c = true) (hcs : ∀ c more, cs = c :: more → isDigit c = false)
    (hbs : ∀ c more, bs = c :: more → isDigit c = false) (h : ds ++ cs = es ++ bs) : ds = es ∧ cs = bs := by
  have hstop : ∀ {xs : List Char}, (∀ c more, xs = c :: more → isDigit c = false) →
      xs.takeWhile isDigit = [] := by
    intro xs hxs
    cases xs with
    | nil => rfl
    | cons c more => exact List.takeWhile_cons_of_neg (by simp [hxs c more rfl])
  have htake := congrArg (List.takeWhile isDigit) h
  rw [List.takeWhile_append_of_pos hds, List.takeWhile_append_of_pos hes, hstop hcs, hstop hbs,
    List.append_nil, List.append_nil] at htake
  exact ⟨htake, List.append_cancel_left (htake ▸ h)⟩

namespace Lenient

theorem exponentChars_start (l : Lenient) {c : Char} {more : List Char} (h : l.exponentChars = c :: more) :
    c ≠ '.' ∧ isDigit c = false := by
  unfold exponentChars at h
  cases he : l.exponent with
  | none => simp [he] at h
  | some e =>
    have hmark := e.mark_mem
    simp only [he, Option.map_some, Option.getD_some, Exponent.chars, List.cons.injEq] at h
    rw [← h.1]
    simp only [List.mem_cons, List.not_mem_nil, or_false] at hmark
    rcases hmark with h | h <;> rw [h] <;> decide

theorem rest_start (l : Lenient) {c : Char} {more : List Char}
    (h : l.fractionChars ++ l.exponentChars = c :: more) : isDigit c = false := by
  unfold fractionChars at h
  cases hf : l.fraction with
  | none =>
    rw [hf] at h
    exact (l.exponentChars_start h).2
  | some ds =>
    simp only [hf, Option.map_some, Option.getD_some, List.cons_append, List.cons.injEq] at h
    rw [← h.1]
    decide

/-- Without its sign, a number starts with a digit or a point. -/
theorem unsigned_start (l : Lenient) : ∃ c more, l.unsigned = c :: more ∧ c ≠ '-' := by
  have hne := l.ne_nil
  unfold unsigned fractionChars
  cases hwhole : l.whole with
  | cons c more =>
    have hc := l.each c (by simp [hwhole])
    exact ⟨c, _, rfl, ne_of_isDigit hc (by decide)⟩
  | nil =>
    cases hf : l.fraction with
    | none => simp [hwhole, hf] at hne
    | some ds => exact ⟨'.', _, rfl, by decide⟩

/-- A text is that of one number. -/
theorem parts_of_chars {l m : Lenient} (h : l.chars = m.chars) :
    l.whole = m.whole ∧ l.fraction = m.fraction := by
  obtain ⟨c, more, hl, hc⟩ := l.unsigned_start
  obtain ⟨d, rest, hm, hd⟩ := m.unsigned_start
  have hunsigned : l.unsigned = m.unsigned := by
    unfold chars at h
    rw [hl, hm] at h ⊢
    split at h <;> split at h
    · exact List.cons.inj h |>.2
    · exact absurd (List.cons.inj h).1.symm hd
    · exact absurd (List.cons.inj h).1 hc
    · exact h
  obtain ⟨hwhole, hrest⟩ := append_inj_of_digits
    (fun c hc => l.each c (List.mem_append_left _ hc)) (fun c hc => m.each c (List.mem_append_left _ hc))
    (fun c more => l.rest_start) (fun c more => m.rest_start) hunsigned
  refine ⟨hwhole, ?_⟩
  unfold fractionChars at hrest
  cases hf : l.fraction with
  | none =>
    cases hg : m.fraction with
    | none => rfl
    | some es =>
      rw [hf, hg] at hrest
      exact absurd rfl (l.exponentChars_start hrest).1
  | some ds =>
    cases hg : m.fraction with
    | none =>
      rw [hf, hg] at hrest
      exact absurd rfl (m.exponentChars_start hrest.symm).1
    | some es =>
      rw [hf, hg] at hrest
      have heach : ∀ (k : Lenient) (xs : List Char), k.fraction = some xs → ∀ c ∈ xs, isDigit c = true :=
        fun k xs hk c hc => k.each c (List.mem_append_right _ (by rw [hk]; exact hc))
      have hdigits := append_inj_of_digits (heach l ds hf) (heach m es hg)
        (fun c more h => (l.exponentChars_start h).2) (fun c more h => (m.exponentChars_start h).2)
        (List.cons.inj hrest).2
      rw [hdigits.1]

/-- **A document may write a number so just if there are digits on both sides of the point, and no zero
stands in front of other digits.** -/
theorem exists_numeral_iff (l : Lenient) : (∃ m : Numeral, m.chars = l.chars) ↔ l.Strict := by
  refine ⟨?_, exists_numeral⟩
  rintro ⟨m, hm⟩
  obtain ⟨k, hk, hchars⟩ := m.exists_lenient
  obtain ⟨hwhole, hfraction⟩ := parts_of_chars (hchars.trans hm)
  unfold Strict at hk ⊢
  rwa [hwhole, hfraction] at hk

end Lenient

end WireShapes.Decimal
