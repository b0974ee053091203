import WireShapes.Numeric.Number

/-!
Integers in decimal.

* `Decimal.digitsValue_toDigits`: the digits of a number have that number as their value
* `Number.Exact`: the numbers that are integers, each in the form of its sign
* `Number.exact_ofInt`, `IntWidth.ofNumber_ofInt`: an integer of a width has such a form, from which it
  is taken back
-/

namespace WireShapes

namespace Decimal

theorem isDigit_of_mem_toDigits {n : Nat} {c : Char} (h : c ∈ Nat.toDigits 10 n) : isDigit c = true := by
  have hc := Nat.isDigit_of_mem_toDigits (by decide) (by decide) h
  rw [Char.isDigit_iff_toNat] at hc
  simp only [isDigit, Bool.and_eq_true, decide_eq_true_eq]
  exact hc

theorem digitsValue_toDigits (n : Nat) : digitsValue (Nat.toDigits 10 n) = n := by
  have h := Nat.ofDigitChars_ten_toDigits (n := n)
  rw [Nat.ofDigitChars_eq_foldl] at h
  simpa only [digitsValue, Nat.mul_comm, Char.reduceToNat] using h

end Decimal

/-- An integer in the form of its sign. -/
def Number.Exact : Number → Prop
  | natural _ => True
  | negative n => n.toInt < 0
  | real _ => False

theorem IntWidth.bound_le (w : IntWidth) : w.bound ≤ 0x8000000000000000 := by
  cases w <;> decide

theorem IntWidth.fits_iff (w : IntWidth) (n : Int) :
    w.fits n = true ↔ -(w.bound : Int) ≤ n ∧ n < w.bound := by
  simp [IntWidth.fits]

theorem IntWidth.toInt_ofInt {w : IntWidth} {n : Int} (h : w.fits n = true) :
    (Int64.ofInt n).toInt = n := by
  rw [IntWidth.fits_iff] at h
  have hb := w.bound_le
  exact Int64.toInt_ofInt_of_le (by simp; omega) (by simp; omega)

theorem Number.exact_ofInt {w : IntWidth} {n : Int} (h : w.fits n = true) : (Number.ofInt n).Exact := by
  unfold Number.ofInt
  split
  · next hn =>
    rw [Number.Exact, IntWidth.toInt_ofInt h]
    exact hn
  · trivial

theorem IntWidth.ofNumber_ofInt {w : IntWidth} {n : Int} (h : w.fits n = true) :
    w.ofNumber (Number.ofInt n) = .ok n := by
  have hb := w.bound_le
  have hn := (w.fits_iff n).1 h
  unfold Number.ofInt
  split
  · simp only [IntWidth.ofNumber, IntWidth.toInt_ofInt h, h, if_true]
  · next hneg =>
    have hnat : (UInt64.ofNat n.toNat).toNat = n.toNat := by
      rw [UInt64.toNat_ofNat']
      exact Nat.mod_eq_of_lt (by omega)
    have hint : ((n.toNat : Nat) : Int) = n := Int.toNat_of_nonneg (by omega)
    simp only [IntWidth.ofNumber, hnat, hint, h, if_true]

end WireShapes
