import Mathlib.Tactic.FieldSimp
import Mathlib.Tactic.Linarith
import Mathlib.Tactic.Ring
import WireShapes.Proofs.Instant.Texts
import WireShapes.Proofs.Numeric.Numerals

/-!
Points in time as epoch seconds: which number the text is.

* `Decimal.value?`: the number that a decimal text denotes, without any rounding
* `Decimal.value?_integer`, `unsignedValue?_point`: what is read of an integer and of digits after it
* `Instant.fraction_trimTrailingZeros`: zeros at the end of a fraction do not count
* `Instant.elapsed`, `signed`: the seconds from the epoch, exactly, and what their text makes of them
* `value?_write`: the text is these seconds, unless it has a fraction and is before the epoch
* `lastMillis_misread`: one where it is not
-/

namespace WireShapes

/-! ### Decimals -/

namespace Decimal

/-- The number that digits denote, with digits after a point if there are any. -/
def unsignedValue? (cs : List Char) : Option Rat :=
  let whole := cs.takeWhile isDigit
  match cs.dropWhile isDigit with
  | [] => (readNat? whole).map fun n : Nat => (n : Rat)
  | '.' :: fraction => do
    let n ← readNat? whole
    let k ← readNat? fraction
    return n + k / 10 ^ fraction.length
  | _ => none

/-- The number that a decimal text denotes: an optional minus, digits, and digits after a point if there
are any. -/
def value? : List Char → Option Rat
  | '-' :: cs => (unsignedValue? cs).map fun x => -x
  | cs => unsignedValue? cs

def digitsOf (n : Nat) : Digits := ⟨Nat.toDigits 10 n, Nat.toDigits_ne_nil, fun _ => isDigit_of_mem_toDigits⟩

theorem unsignedValue?_digits (ds : Digits) : unsignedValue? ds.chars = some ((digitsValue ds.chars : Nat) : Rat) := by
  have hend : ∀ c more, [] = c :: more → isDigit c = false := fun _ _ h => (nomatch h)
  obtain ⟨htake, hdrop⟩ := ds.span hend
  rw [List.append_nil] at htake hdrop
  unfold unsignedValue?
  simp only [htake, hdrop, readNat?_chars, Option.map_some]

theorem unsignedValue?_point (ds fraction : Digits) : unsignedValue? (ds.chars ++ '.' :: fraction.chars) =
    some ((digitsValue ds.chars : Rat) + digitsValue fraction.chars / 10 ^ fraction.chars.length) := by
  have hpoint : ∀ c more, '.' :: fraction.chars = c :: more → isDigit c = false := by
    rintro c more ⟨⟩
    decide
  obtain ⟨htake, hdrop⟩ := ds.span hpoint
  unfold unsignedValue?
  simp only [htake, hdrop, readNat?_chars]
  rfl

theorem value?_integer (z : Int) (rest : List Char) : value? ((toString z).toList ++ rest) =
    (unsignedValue? (Nat.toDigits 10 z.natAbs ++ rest)).map fun x => if z < 0 then -x else x := by
  rw [Int.toString_eq_repr, Int.repr_eq_if]
  split
  · next hz =>
    have hnat : z.toNat = z.natAbs := by omega
    have hpos : ¬z < 0 := by omega
    obtain ⟨c, more, hchars, hc⟩ := (digitsOf z.natAbs).exists_cons
    have hminus : c ≠ '-' := ne_of_isDigit hc (by decide)
    have hdigits : Nat.toDigits 10 z.natAbs = c :: more := hchars
    simp [hnat, hpos, hdigits, value?, hminus]
  · next hz =>
    have hnat : (-z).toNat = z.natAbs := by omega
    have hneg : z < 0 := by omega
    simp [hnat, hneg, value?]

end Decimal

/-! ### Zeros at the end -/

namespace Instant

open Decimal

theorem digitsValue_append_replicate (ds : List Char) (k : Nat) :
    digitsValue (ds ++ List.replicate k '0') = digitsValue ds * 10 ^ k := by
  induction k with
  | zero => simp
  | succ k ih =>
    have hlast : digitsValue (ds ++ List.replicate k '0' ++ ['0']) =
        digitsValue (ds ++ List.replicate k '0') * 10 := by
      simp [digitsValue, List.foldl_append]
    rw [List.replicate_succ', ← List.append_assoc, hlast, ih, pow_succ, mul_assoc]

theorem exists_trimTrailingZeros (ds : List Char) :
    ∃ k, ds = trimTrailingZeros ds ++ List.replicate k '0' := by
  have hzeros : ds.reverse.takeWhile (· == '0') =
      List.replicate (ds.reverse.takeWhile (· == '0')).length '0' :=
    List.eq_replicate_of_mem fun c hc => by simpa using List.mem_takeWhile_imp hc
  refine ⟨(ds.reverse.takeWhile (· == '0')).length, ?_⟩
  have hsplit := List.takeWhile_append_dropWhile (p := (· == '0')) (l := ds.reverse)
  rw [← List.reverse_inj, trimTrailingZeros, List.reverse_append, List.reverse_reverse, List.reverse_replicate,
    ← hzeros, hsplit]

/-- Zeros at the end of a fraction do not count. -/
theorem fraction_trimTrailingZeros (ds : List Char) :
    (digitsValue (trimTrailingZeros ds) : Rat) / 10 ^ (trimTrailingZeros ds).length =
      digitsValue ds / 10 ^ ds.length := by
  obtain ⟨k, hk⟩ := exists_trimTrailingZeros ds
  have hvalue : digitsValue ds = digitsValue (trimTrailingZeros ds) * 10 ^ k := by
    rw [← digitsValue_append_replicate, ← hk]
  have hlength : ds.length = (trimTrailingZeros ds).length + k := by
    conv_lhs => rw [hk]
    rw [List.length_append, List.length_replicate]
  rw [hvalue, hlength]
  push_cast
  rw [pow_add]
  field_simp

/-! ### Epoch seconds -/

variable {t : Instant}

/-- The seconds from the epoch, exactly. -/
def elapsed (t : Instant) : Rat := t.seconds + t.nanos / 10 ^ 9

/-- Nanoseconds in nine digits, without zeros at the end. -/
def fractionDigits (t : Instant) (h : t.nanos ≠ 0) : Digits where
  chars := trimTrailingZeros (padded 9 t.nanos)
  ne_nil := by
    intro hnil
    obtain ⟨k, hk⟩ := exists_trimTrailingZeros (padded 9 t.nanos)
    have hzero : digitsValue (padded 9 t.nanos) = 0 := by
      rw [hk, digitsValue_append_replicate, hnil]
      exact Nat.zero_mul _
    exact h ((digitsValue_padded 9 t.nanos).symm.trans hzero)
  each := by
    intro c hc
    obtain ⟨k, hk⟩ := exists_trimTrailingZeros (padded 9 t.nanos)
    have hmem : c ∈ padded 9 t.nanos := by
      rw [hk]
      exact List.mem_append_left _ hc
    exact isDigit_of_mem_padded hmem

theorem value_fractionDigits (h : t.nanos ≠ 0) :
    (digitsValue (t.fractionDigits h).chars : Rat) / 10 ^ (t.fractionDigits h).chars.length = t.nanos / 10 ^ 9 := by
  have hlength : (padded 9 t.nanos).length = 9 := length_padded (by decide) t.nanos_lt
  rw [fractionDigits, fraction_trimTrailingZeros, hlength, digitsValue_padded]

/-- The number with the sign of whole seconds, the fraction under that sign too. -/
def signed (z : Int) (x : Rat) : Rat := if z < 0 then z - x else z + x

theorem signed_eq (z : Int) (x : Rat) :
    (if z < 0 then -((z.natAbs : Rat) + x) else z.natAbs + x) = signed z x := by
  rw [signed, Nat.cast_natAbs]
  split
  · next hneg =>
    rw [abs_of_neg hneg]
    push_cast
    ring
  · next hpos => rw [abs_of_nonneg (by omega)]

theorem signed_of_neg {z : Int} (h : z < 0) (x : Rat) : signed z x = z - x := if_pos h

theorem signed_of_nonneg {z : Int} (h : 0 ≤ z) (x : Rat) : signed z x = z + x := if_neg (by omega)

/-- The fraction is on the right side of the seconds when these are not negative, or there is none. -/
theorem signed_eq_add_iff (z : Int) (x : Rat) : signed z x = z + x ↔ 0 ≤ z ∨ x = 0 := by
  by_cases hz : z < 0
  · rw [signed_of_neg hz]
    have hz' : ¬0 ≤ z := by omega
    constructor
    · intro h
      exact .inr (by linarith)
    · rintro (h | rfl)
      · exact absurd h hz'
      · rw [sub_zero, add_zero]
  · rw [signed_of_nonneg (by omega)]
    exact iff_of_true rfl (.inl (by omega))

theorem value?_writeEpoch (t : Instant) :
    value? t.writeEpoch = some (signed t.seconds (t.nanos / 10 ^ 9)) := by
  have hchars : Nat.toDigits 10 t.seconds.natAbs = (digitsOf t.seconds.natAbs).chars := rfl
  have hwhole : digitsValue (digitsOf t.seconds.natAbs).chars = t.seconds.natAbs := digitsValue_toDigits _
  unfold writeEpoch
  split
  · next hnanos =>
    have hread := value?_integer t.seconds []
    rw [List.append_nil, List.append_nil, hchars, unsignedValue?_digits, hwhole, Option.map_some] at hread
    have hsign := signed_eq t.seconds 0
    rw [add_zero] at hsign
    rw [hread, hsign, hnanos, Nat.cast_zero, zero_div]
  · next hnanos =>
    have hfraction : '.' :: trimTrailingZeros (padded 9 t.nanos) = '.' :: (t.fractionDigits hnanos).chars := rfl
    rw [List.append_assoc, value?_integer, hchars, List.singleton_append, hfraction, unsignedValue?_point, hwhole,
      value_fractionDigits, Option.map_some, signed_eq]

/-- **Epoch seconds, read as a decimal, are the time since the epoch just when that is not before the epoch or
has no fraction.** Seconds before the epoch are rounded down and the nanoseconds count forward from there, but the
text has both under one minus: what it denotes is as far on the other side of these seconds. -/
theorem value?_write (t : Instant) :
    value? (t.write .epochSeconds).toList =
        some (if t.seconds < 0 then (t.seconds : Rat) - t.nanos / 10 ^ 9 else t.elapsed) ∧
      (value? (t.write .epochSeconds).toList = some t.elapsed ↔ 0 ≤ t.seconds ∨ t.nanos = 0) := by
  have htext : (t.write .epochSeconds).toList = t.writeEpoch := by
    unfold write
    rw [String.toList_ofList]
    split <;> rfl
  have hnanos : (t.nanos : Rat) / 10 ^ 9 = 0 ↔ t.nanos = 0 := by simp
  rw [htext, value?_writeEpoch]
  refine ⟨rfl, ?_⟩
  rw [Option.some_inj, elapsed, signed_eq_add_iff, hnanos]

/-- One millisecond before the epoch is written as almost two seconds before it. -/
theorem lastMillis_misread :
    value? ((Instant.ofMillis (-1)).write .epochSeconds).toList = some (-1999 / 1000) ∧
      (Instant.ofMillis (-1)).elapsed = -1 / 1000 := by
  decide +kernel

end Instant

end WireShapes
