import WireShapes.Numeric.Number

/-!
Decimal numbers as a document may write them.

* `Numeral`: an optional minus, digits without a zero in front of others, an optional fraction and an
  optional exponent
* `Numeral.double`: the floating-point value nearest to the number
* `readDouble?_chars`: that is the value that is read
* `Numeral.Denotes`: the form of the number: an integer of 64 bits where there is one, and else a
  floating-point value
-/

namespace WireShapes.Decimal

/-- At least one digit. -/
structure Digits where
  chars : List Char
  ne_nil : chars ≠ []
  each : ∀ c ∈ chars, isDigit c = true

/-- An exponent: its mark, a sign if there is one, and digits. -/
structure Exponent where
  mark : Char
  sign : Option Char
  digits : Digits
  mark_mem : mark ∈ ['e', 'E']
  sign_mem : sign ∈ [none, some '+', some '-']

namespace Exponent

def chars (e : Exponent) : List Char := e.mark :: (e.sign.toList ++ e.digits.chars)

def value (e : Exponent) : Int :=
  if e.sign = some '-' then -(digitsValue e.digits.chars : Int) else digitsValue e.digits.chars

end Exponent

/-- A number as a document may write it. A zero stands in front of no other digit of the whole part. -/
structure Numeral where
  minus : Bool
  whole : Digits
  fraction : Option Digits
  exponent : Option Exponent
  leading : whole.chars.head? = some '0' → whole.chars = ['0']

namespace Numeral

def fractionDigits (l : Numeral) : List Char := (l.fraction.map Digits.chars).getD []

def fractionChars (l : Numeral) : List Char := (l.fraction.map fun ds => '.' :: ds.chars).getD []

def exponentChars (l : Numeral) : List Char := (l.exponent.map Exponent.chars).getD []

def unsigned (l : Numeral) : List Char := l.whole.chars ++ (l.fractionChars ++ l.exponentChars)

def chars (l : Numeral) : List Char := if l.minus then '-' :: l.unsigned else l.unsigned

/-- The floating-point value nearest to the number. -/
def double (l : Numeral) : Double :=
  scaled l.minus (digitsValue (l.whole.chars ++ l.fractionDigits))
    ((l.exponent.map Exponent.value).getD 0 - l.fractionDigits.length)

/-- The value of the whole part. -/
def magnitude (l : Numeral) : Nat := digitsValue l.whole.chars

/-- There is neither a fraction nor an exponent. -/
def IsInteger (l : Numeral) : Prop := l.fraction = none ∧ l.exponent = none

/-- An integer that 64 bits can hold, with its sign if it has one. -/
def Fits (l : Numeral) : Prop :=
  l.IsInteger ∧ (l.minus = false ∧ l.magnitude < 0x10000000000000000 ∨
    l.minus = true ∧ l.magnitude ≤ 0x8000000000000000)

/-- The form of the number: an integer that fits has its exact value, everything else is rounded. -/
inductive Denotes (l : Numeral) : Number → Prop
  | natural {k : UInt64} (integer : l.IsInteger) (sign : l.minus = false)
      (value : k.toNat = l.magnitude) : Denotes l (.natural k)
  | negative {k : Int64} (integer : l.IsInteger) (sign : l.minus = true)
      (value : k.toInt = -(l.magnitude : Int)) : Denotes l (.negative k)
  | real (wide : ¬l.Fits) : Denotes l (.real l.double)

end Numeral

/-! ### Reading -/

variable {c : Char}

theorem ne_of_isDigit (h : isDigit c = true) {d : Char} (hd : isDigit d = false) : c ≠ d := by
  rintro rfl
  rw [h] at hd
  cases hd

theorem Digits.span (ds : Digits) {rest : List Char}
    (hrest : ∀ c more, rest = c :: more → isDigit c = false) :
    (ds.chars ++ rest).takeWhile isDigit = ds.chars ∧ (ds.chars ++ rest).dropWhile isDigit = rest := by
  rw [List.takeWhile_append_of_pos ds.each, List.dropWhile_append_of_pos ds.each]
  cases rest with
  | nil => simp
  | cons c more => simp [hrest c more rfl]

theorem Digits.exists_cons (ds : Digits) : ∃ c more, ds.chars = c :: more ∧ isDigit c = true := by
  obtain ⟨c, more, h⟩ := List.exists_cons_of_ne_nil ds.ne_nil
  exact ⟨c, more, h, ds.each c (by simp [h])⟩

theorem Digits.all (ds : Digits) : (!ds.chars.isEmpty && ds.chars.all isDigit) = true := by
  have hall : ds.chars.all isDigit = true := List.all_eq_true.2 ds.each
  simp [ds.ne_nil, hall]

theorem readNat?_chars (ds : Digits) : readNat? ds.chars = some (digitsValue ds.chars) := by
  rw [readNat?, if_pos ds.all]

theorem readExponent?_chars (e : Exponent) :
    readExponent? (e.sign.toList ++ e.digits.chars) = some e.value := by
  have hsign := e.sign_mem
  simp only [List.mem_cons, List.not_mem_nil, or_false] at hsign
  rcases hsign with h | h | h
  · obtain ⟨c, more, hchars, hc⟩ := e.digits.exists_cons
    have hall := e.digits.all
    have hminus : c ≠ '-' := ne_of_isDigit hc (by decide)
    have hplus : c ≠ '+' := ne_of_isDigit hc (by decide)
    simp only [Exponent.value, h, hchars] at hall ⊢
    rw [Option.toList_none, List.nil_append, readExponent?, if_pos hall]
    · simp
    · simpa using hminus
    · simpa using hplus
  · simp [readExponent?, Exponent.value, h, e.digits.all]
  · simp [readExponent?, Exponent.value, h, e.digits.all]

theorem Numeral.exponentChars_start (l : Numeral) {c : Char} {more : List Char}
    (h : l.exponentChars = c :: more) : (c = 'e' ∨ c = 'E') ∧ isDigit c = false := by
  unfold Numeral.exponentChars at h
  cases he : l.exponent with
  | none => simp [he] at h
  | some e =>
    have hmark := e.mark_mem
    simp only [he, Option.map_some, Option.getD_some, Exponent.chars, List.cons.injEq] at h
    rw [← h.1]
    simp only [List.mem_cons, List.not_mem_nil, or_false] at hmark
    rcases hmark with h | h <;> rw [h] <;> decide

theorem Numeral.rest_start (l : Numeral) {c : Char} {more : List Char}
    (h : l.fractionChars ++ l.exponentChars = c :: more) : isDigit c = false := by
  cases hf : l.fraction with
  | none =>
    rw [Numeral.fractionChars, hf] at h
    exact (l.exponentChars_start h).2
  | some ds =>
    simp only [Numeral.fractionChars, hf, Option.map_some, Option.getD_some, List.cons_append,
      List.cons.injEq] at h
    rw [← h.1]
    decide

theorem readUnsigned?_unsigned (l : Numeral) : readUnsigned? l.minus l.unsigned = some l.double := by
  obtain ⟨htake, hdrop⟩ := l.whole.span fun c more => l.rest_start
  have hexp : ∀ e, l.exponent = some e → l.exponentChars = e.mark :: (e.sign.toList ++ e.digits.chars) ∧
      (e.mark = 'e' ∨ e.mark = 'E') := by
    intro e he
    have hchars : l.exponentChars = e.chars := by simp [Numeral.exponentChars, he]
    exact ⟨hchars, (l.exponentChars_start hchars).1⟩
  unfold readUnsigned? Numeral.unsigned
  simp only [htake, hdrop, Numeral.double]
  cases hf : l.fraction with
  | none =>
    simp only [Numeral.fractionChars, Numeral.fractionDigits, hf, Option.map_none, Option.getD_none,
      List.nil_append]
    cases he : l.exponent with
    | none => simp [Numeral.exponentChars, he, l.whole.ne_nil]
    | some e =>
      obtain ⟨hchars, hmark⟩ := hexp e he
      have hpoint : e.mark ≠ '.' := by rcases hmark with h | h <;> rw [h] <;> decide
      simp [hchars, hpoint, hmark, l.whole.ne_nil, readExponent?_chars]
  | some ds =>
    obtain ⟨htake', hdrop'⟩ := ds.span fun c more h => (l.exponentChars_start h).2
    simp only [Numeral.fractionChars, Numeral.fractionDigits, hf, Option.map_some, Option.getD_some,
      List.cons_append, htake', hdrop']
    cases he : l.exponent with
    | none => simp [Numeral.exponentChars, he, l.whole.ne_nil]
    | some e =>
      obtain ⟨hchars, hmark⟩ := hexp e he
      simp [hchars, hmark, l.whole.ne_nil, readExponent?_chars]

/-- **A number of a document is read as the floating-point value nearest to it.** -/
theorem readDouble?_chars (l : Numeral) : readDouble? l.chars = some l.double := by
  have hread := readUnsigned?_unsigned l
  unfold Numeral.chars
  cases hm : l.minus with
  | true =>
    rw [hm] at hread
    simp [readDouble?, hread]
  | false =>
    rw [hm] at hread
    obtain ⟨c, more, hchars, hc⟩ := l.whole.exists_cons
    have hcons : l.unsigned = c :: (more ++ (l.fractionChars ++ l.exponentChars)) := by
      rw [Numeral.unsigned, hchars, List.cons_append]
    have hminus : c ≠ '-' := ne_of_isDigit hc (by decide)
    have hplus : c ≠ '+' := ne_of_isDigit hc (by decide)
    rw [hcons] at hread
    simp [hcons, readDouble?, hminus, hplus, hread]

/-! ### Forms -/

theorem Numeral.fits_of_natural {l : Numeral} {k : UInt64} (integer : l.IsInteger) (sign : l.minus = false)
    (value : k.toNat = l.magnitude) : l.Fits :=
  ⟨integer, .inl ⟨sign, value ▸ k.toNat_lt⟩⟩

theorem Numeral.fits_of_negative {l : Numeral} {k : Int64} (integer : l.IsInteger) (sign : l.minus = true)
    (value : k.toInt = -(l.magnitude : Int)) : l.Fits := by
  have hmin := k.le_toInt
  exact ⟨integer, .inr ⟨sign, by omega⟩⟩

/-- **A number has one form.** -/
theorem Numeral.Denotes.unique {l : Numeral} {m n : Number} (hm : l.Denotes m) (hn : l.Denotes n) :
    m = n := by
  cases hm with
  | natural integer sign value =>
    cases hn with
    | natural _ _ value' => rw [UInt64.toNat_inj.1 (value.trans value'.symm)]
    | negative _ sign' => simp [sign] at sign'
    | real wide => exact absurd (fits_of_natural integer sign value) wide
  | negative integer sign value =>
    cases hn with
    | natural _ sign' => simp [sign] at sign'
    | negative _ _ value' => rw [Int64.toInt_inj.1 (value.trans value'.symm)]
    | real wide => exact absurd (fits_of_negative integer sign value) wide
  | real wide =>
    cases hn with
    | natural integer sign value => exact absurd (fits_of_natural integer sign value) wide
    | negative integer sign value => exact absurd (fits_of_negative integer sign value) wide
    | real => rfl

end WireShapes.Decimal
