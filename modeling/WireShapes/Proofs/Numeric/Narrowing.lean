import Mathlib.Data.Rat.Floor
import WireShapes.Proofs.Numeric.Integers

/-!
Which numbers are integers of a width, and as which integers they are taken.

* `Double.value?`, `Number.value?`: the number that is denoted, exactly
* `Double.isInteger_iff`, `Double.truncate_of_value`: a double that denotes an integer, and its truncation
* `IntWidth.toRat_greatest`: the greatest integer of a width, after it is rounded to a double
* `IntWidth.ofNumber_real_eq_ok_iff`: which doubles are taken, and as which integers
* `ofNumber_eq_ok_iff`: a number is taken as the integer that it denotes, if the width holds it; there is
  one double of which this does not hold
* `twoPow63_clamped`: that one
-/

namespace WireShapes

/-- The number that a double denotes; infinities and what is not a number denote none. -/
def Double.value? (x : Double) : Option Rat := if x.isFinite then some x.toRat else none

/-- The number that is denoted, exactly. -/
def Number.value? : Number → Option Rat
  | natural n => some (n.toNat : Rat)
  | negative n => some (n.toInt : Rat)
  | real x => x.value?

namespace Double

variable {x : Double} {q : Rat} {k : Int}

theorem value?_eq_some_iff : x.value? = some q ↔ x.isFinite = true ∧ x.toRat = q := by
  unfold value?
  split <;> simp_all

theorem isNaN_of_isFinite (h : x.isFinite = true) : x.isNaN = false ∧ x.isInfinite = false := by
  unfold isFinite at h
  unfold isNaN isInfinite
  rw [decide_eq_true_eq] at h
  rw [decide_eq_false_iff_not, decide_eq_false_iff_not]
  omega

theorem isInteger_iff : x.isInteger = true ↔ ∃ k : Int, x.value? = some (k : Rat) := by
  simp only [isInteger, Bool.and_eq_true, beq_iff_eq, value?_eq_some_iff]
  constructor
  · rintro ⟨hfinite, hden⟩
    exact ⟨x.toRat.num, hfinite, (Rat.coe_int_num_of_den_eq_one hden).symm⟩
  · rintro ⟨k, hfinite, hk⟩
    exact ⟨hfinite, by rw [hk, Rat.den_intCast]⟩

/-- A double that denotes an integer is truncated to that integer, within the bounds. -/
theorem truncate_of_value (h : x.value? = some (k : Rat)) (low high : Int) :
    x.truncate low high = max low (min high k) := by
  obtain ⟨hfinite, hk⟩ := value?_eq_some_iff.1 h
  obtain ⟨hnan, hinfinite⟩ := isNaN_of_isFinite hfinite
  have hwhole : (if x.negative then -x.absRat.floor else x.absRat.floor) = k := by
    unfold toRat at hk
    split
    · next hneg =>
      rw [if_pos hneg] at hk
      rw [show x.absRat = ((-k : Int) : Rat) by rw [Int.cast_neg, ← hk, neg_neg], Rat.floor_intCast, neg_neg]
    · next hneg =>
      rw [if_neg hneg] at hk
      rw [hk, Rat.floor_intCast]
  unfold truncate
  simp only [hnan, hinfinite, Bool.false_eq_true, if_false, hwhole]

end Double

namespace IntWidth

variable (w : IntWidth)

/-- The greatest integer of a width as a double: only that of 64 bits is no double, and is rounded up. -/
theorem toRat_greatest :
    (Double.ofInt (w.bound - 1)).toRat = ((if w = .w64 then w.bound else w.bound - 1 : Int) : Rat) := by
  cases w <;> decide +kernel

theorem check_eq_ok_iff {n k : Int} {e : NarrowError} :
    (if w.fits n then Except.ok n else Except.error e) = .ok k ↔ n = k ∧ w.fits k = true := by
  split
  · next h =>
    rw [Except.ok.injEq]
    constructor
    · rintro rfl
      exact ⟨rfl, h⟩
    · exact fun hk => hk.1
  · next h =>
    refine iff_of_false (by simp) ?_
    rintro ⟨rfl, hfits⟩
    exact h hfits

end IntWidth

variable {w : IntWidth} {n : Number} {k : Int}

/-- A double is taken as the integer that it denotes, clamped to the width, unless that passes the greatest
one of the width after this is rounded. -/
theorem IntWidth.ofNumber_real_eq_ok_iff {x : Double} :
    w.ofNumber (.real x) = .ok k ↔ ∃ m : Int, x.value? = some (m : Rat) ∧
      (-(w.bound : Int) ≤ m ∧ m ≤ if w = .w64 then (w.bound : Int) else w.bound - 1) ∧
      max (-(w.bound : Int)) (min (w.bound - 1) m) = k := by
  unfold IntWidth.ofNumber
  dsimp only
  rw [w.toRat_greatest]
  generalize (if w = .w64 then (w.bound : Int) else w.bound - 1) = top
  cases hinteger : x.isInteger with
  | false =>
    simp only [Bool.not_false, if_true, reduceCtorEq, false_iff]
    rintro ⟨m, hm, -⟩
    rw [Double.isInteger_iff.2 ⟨m, hm⟩] at hinteger
    cases hinteger
  | true =>
    obtain ⟨m, hm⟩ := Double.isInteger_iff.1 hinteger
    have hsame : ∀ j : Int, x.value? = some (j : Rat) ↔ m = j := by
      intro j
      rw [hm, Option.some.injEq, Int.cast_inj]
    simp only [Bool.not_true, Bool.false_eq_true, if_false, (Double.value?_eq_some_iff.1 hm).2,
      Double.truncate_of_value hm, Int.cast_lt, hsame, exists_eq_left']
    split
    · next hout =>
      simp only [reduceCtorEq, false_iff, not_and]
      omega
    · next hin =>
      rw [Except.ok.injEq, iff_and_self]
      omega

/-- **A number is taken as the integer that it denotes exactly, if the width holds it, and else it is
refused**: nothing is rounded, clamped or wrapped. There is one exception. The greatest integer of 64 bits is
rounded up before a double is compared with it, so that the double next above the range passes, and is taken
as the greatest integer. -/
theorem ofNumber_eq_ok_iff :
    w.ofNumber n = .ok k ↔ (n.value? = some (k : Rat) ∧ w.fits k = true) ∨
      (w = .w64 ∧ k = 2 ^ 63 - 1 ∧ ∃ x, n = .real x ∧ x.value? = some (2 ^ 63)) := by
  cases n with
  | natural j =>
    have hj : (j.toNat : Rat) = ((j.toNat : Int) : Rat) := rfl
    simp only [IntWidth.ofNumber, IntWidth.check_eq_ok_iff, Number.value?, hj, Option.some.injEq, Int.cast_inj,
      reduceCtorEq, false_and, exists_false, and_false, or_false]
  | negative j =>
    simp only [IntWidth.ofNumber, IntWidth.check_eq_ok_iff, Number.value?, Option.some.injEq, Int.cast_inj,
      reduceCtorEq, false_and, exists_false, and_false, or_false]
  | real x =>
    have hcast : (2 ^ 63 : Rat) = ((2 ^ 63 : Int) : Rat) := by norm_num
    have hbound : IntWidth.w64.bound = 2 ^ 63 := by decide
    rw [IntWidth.ofNumber_real_eq_ok_iff]
    simp only [Number.value?, Number.real.injEq, exists_eq_left', w.fits_iff, hcast]
    constructor
    · rintro ⟨m, hm, hrange, hk⟩
      by_cases hfits : m ≤ w.bound - 1
      · obtain rfl : m = k := by omega
        exact .inl ⟨hm, by omega⟩
      · have hw : w = .w64 := by
          by_contra hw
          rw [if_neg hw] at hrange
          exact hfits hrange.2
        subst hw
        rw [if_pos rfl] at hrange
        obtain rfl : m = 2 ^ 63 := by omega
        exact .inr ⟨rfl, by omega, hm⟩
    · rintro (⟨hk, hfits⟩ | ⟨rfl, rfl, hx⟩)
      · refine ⟨k, hk, ⟨hfits.1, ?_⟩, by omega⟩
        split <;> omega
      · exact ⟨2 ^ 63, hx, by simp [hbound], by simp [hbound]⟩

/-- The double next above the range of 64 bits is no integer of it, and is taken as the greatest one. -/
theorem twoPow63_clamped :
    (Number.real ⟨0x43E0000000000000⟩).value? = some 9223372036854775808 ∧
      IntWidth.w64.ofNumber (.real ⟨0x43E0000000000000⟩) = .ok 9223372036854775807 := by
  decide +kernel

end WireShapes
