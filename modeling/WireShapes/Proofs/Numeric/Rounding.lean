import Mathlib.Data.Nat.Log
import Mathlib.Data.Rat.Floor
import Mathlib.Tactic.Linarith
import Mathlib.Tactic.Ring
import WireShapes.Proofs.Numeric.Narrowing
import WireShapes.Proofs.Source.Numbers

/-!
Integers as doubles.

* `roundEven_spec`: rounding goes to a neighbour, and leaves integers alone
* `inUnits`, `roundedSignificand`: a natural number in units of the last digit that is kept, and what it is rounded to
* `round_natCast`, `Double.absRat_of_magnitude`: the bits of that, and the number behind them
* `Double.Holds`: the integers with at most 53 binary digits before the zeros at their end
* `Double.value?_ofInt`: an integer of 64 bits is rounded to an integer, which is itself just if it is one of these
-/

namespace WireShapes

theorem twoPow_eq_zpow (e : Int) : twoPow e = (2 : Rat) ^ e := by
  unfold twoPow
  split
  · next he =>
    rw [Nat.pow_eq, Nat.cast_pow, ← zpow_natCast, Int.toNat_of_nonneg he]
    rfl
  · next he =>
    rw [Nat.pow_eq, Nat.cast_pow, one_div, ← zpow_natCast, ← zpow_neg, Int.toNat_of_nonneg (by omega), neg_neg]
    rfl

/-- Rounding goes to a neighbour, and leaves integers alone. -/
theorem roundEven_spec (x : Rat) :
    (roundEven x = ⌊x⌋ ∨ roundEven x = ⌊x⌋ + 1) ∧ (x = ⌊x⌋ → roundEven x = ⌊x⌋) := by
  have hfloor : x.floor = ⌊x⌋ := rfl
  unfold roundEven
  rw [hfloor]
  dsimp only
  refine ⟨by split_ifs <;> simp, fun h => if_pos ?_⟩
  rw [← h, sub_self, mul_zero]
  exact one_pos

/-! ### Natural numbers -/

section Natural

variable {a : Nat}

/-- The exponent of the last digit that is kept of a natural number. -/
def unitExponent (a : Nat) : Int := (Nat.log2 a : Int) - 52

theorem exponentOf_natCast (ha : a ≠ 0) : double.exponentOf (a : Rat) = unitExponent a := by
  have hpow : twoPow (Nat.log2 a) ≤ (a : Rat) := by
    rw [twoPow_eq_zpow, zpow_natCast]
    exact_mod_cast Nat.log2_self_le ha
  have hone : Nat.log2 1 = 0 := by decide
  unfold BinaryFormat.exponentOf unitExponent
  simp only [Rat.num_natCast, Rat.den_natCast, Int.toNat_natCast, hone, Nat.cast_zero, sub_zero, if_neg (not_lt.2 hpow)]
  show max (-1074 : Int) ((Nat.log2 a : Int) - 53 + 1) = _
  omega

/-- A natural number in units of the last digit that is kept. -/
def inUnits (a : Nat) : Rat := a / 2 ^ unitExponent a

theorem inUnits_mul (a : Nat) : inUnits a * 2 ^ unitExponent a = a :=
  div_mul_cancel₀ _ (zpow_ne_zero _ two_ne_zero)

/-- In these units it has 53 digits before the point. -/
theorem inUnits_mem (ha : a ≠ 0) : (2 ^ 52 : Rat) ≤ inUnits a ∧ inUnits a < 2 ^ 53 := by
  have hunit : (0 : Rat) < 2 ^ unitExponent a := zpow_pos two_pos _
  have hpow : ∀ k : Nat, (2 : Rat) ^ k * 2 ^ unitExponent a = 2 ^ ((k : Int) + unitExponent a) := by
    intro k
    rw [← zpow_natCast, ← zpow_add₀ two_ne_zero]
  have hlow : ((52 : Nat) : Int) + unitExponent a = (Nat.log2 a : Int) := by unfold unitExponent; omega
  have hhigh : ((53 : Nat) : Int) + unitExponent a = ((Nat.log2 a + 1 : Nat) : Int) := by unfold unitExponent; omega
  unfold inUnits
  constructor
  · rw [le_div_iff₀ hunit, hpow, hlow, zpow_natCast]
    exact_mod_cast Nat.log2_self_le ha
  · rw [div_lt_iff₀ hunit, hpow, hhigh, zpow_natCast]
    exact_mod_cast Nat.lt_log2_self

/-- The significand of a natural number that is rounded. -/
def roundedSignificand (a : Nat) : Nat := (roundEven (inUnits a)).toNat

theorem roundedSignificand_mem (ha : a ≠ 0) : 2 ^ 52 ≤ roundedSignificand a ∧ roundedSignificand a ≤ 2 ^ 53 := by
  obtain ⟨hlow, hhigh⟩ := inUnits_mem ha
  have hfloor : (2 ^ 52 : Int) ≤ ⌊inUnits a⌋ := Int.le_floor.2 (by exact_mod_cast hlow)
  have hless : ⌊inUnits a⌋ < (2 ^ 53 : Int) := Int.floor_lt.2 (by exact_mod_cast hhigh)
  have hround := (roundEven_spec (inUnits a)).1
  unfold roundedSignificand
  omega

theorem roundedSignificand_of_whole (ha : a ≠ 0) {k : Int} (h : inUnits a = k) :
    (roundedSignificand a : Rat) = inUnits a := by
  have hfloor : ⌊inUnits a⌋ = k := by rw [h, Int.floor_intCast]
  have hround := (roundEven_spec (inUnits a)).2 (by rw [hfloor, h])
  have hnonneg : (0 : Int) ≤ roundEven (inUnits a) := by
    have hmem := (roundedSignificand_mem ha).1
    unfold roundedSignificand at hmem
    omega
  have hcast : ((roundedSignificand a : Int) : Rat) = k := by
    rw [roundedSignificand, Int.toNat_of_nonneg hnonneg, hround, hfloor]
  rw [h, ← hcast, Int.cast_natCast]

/-- A natural number of 64 bits is rounded to its significand with the exponent of its unit. -/
theorem round_natCast (ha : a ≠ 0) (hlt : a < 2 ^ 64) :
    double.round (a : Rat) = (Nat.log2 a + 1022) * 2 ^ 52 + roundedSignificand a := by
  have hlog : Nat.log2 a < 64 := (Nat.log2_lt ha).2 hlt
  have hmem := (roundedSignificand_mem ha).2
  have hexponent : (unitExponent a - double.minExponent).toNat = Nat.log2 a + 1022 := by
    show ((Nat.log2 a : Int) - 52 - (-1074)).toNat = _
    omega
  have hsignificand : (roundEven ((a : Rat) / twoPow (unitExponent a))).toNat = roundedSignificand a := by
    rw [twoPow_eq_zpow]
    rfl
  have hpower : Nat.pow 2 (double.precision - 1) = 2 ^ 52 := rfl
  have hinfinity : double.infinity = 2047 * 2 ^ 52 := rfl
  rw [BinaryFormat.round, if_neg (Nat.cast_ne_zero.2 ha)]
  dsimp only
  rw [exponentOf_natCast ha, hexponent, hsignificand, hpower, hinfinity]
  omega

end Natural

namespace Double

/-! ### The number behind the bits -/

theorem ofMagnitude_spec (negative : Bool) {m : Nat} (h : m < 2 ^ 63) :
    (ofMagnitude negative m).magnitude = m ∧ (ofMagnitude negative m).negative = negative := by
  have hsign : (0x8000000000000000 : UInt64).toNat = 2 ^ 63 := rfl
  have hbits : (ofMagnitude negative m).bits.toNat = (if negative then 2 ^ 63 else 0) + m := by
    unfold ofMagnitude
    rw [UInt64.toNat_ofNat']
    split <;> omega
  constructor
  · rw [magnitude, hbits]
    split <;> omega
  · rw [Double.negative, Bool.eq_iff_iff, decide_eq_true_iff, UInt64.le_iff_toNat_le, hsign, hbits]
    cases negative with
    | true => simp
    | false => simpa using h

/-- A significand that may be rounded up to the next power of two, which the exponent takes over. -/
theorem absRat_of_magnitude {x : Double} {g m : Nat} (h : x.magnitude = g * 2 ^ 52 + m) (hlow : 2 ^ 52 ≤ m)
    (hhigh : m ≤ 2 ^ 53) : x.absRat = m * 2 ^ ((g : Int) - 1074) := by
  rcases Nat.lt_or_eq_of_le hhigh with hless | rfl
  · have hfield : x.exponentField = g + 1 := by
      unfold exponentField
      omega
    have hsignificand : x.significand = m := by
      unfold significand
      dsimp only
      rw [hfield, if_neg (Nat.succ_ne_zero g)]
      omega
    have hexponent : x.exponent = (g : Int) - 1074 := by
      unfold exponent
      rw [hfield, if_neg (Nat.succ_ne_zero g)]
      omega
    rw [absRat, hsignificand, hexponent, twoPow_eq_zpow]
  · have hfield : x.exponentField = g + 2 := by
      unfold exponentField
      omega
    have hsignificand : x.significand = 2 ^ 52 := by
      unfold significand
      dsimp only
      rw [hfield, if_neg (Nat.succ_ne_zero _)]
      omega
    have hexponent : x.exponent = (g : Int) - 1074 + 1 := by
      unfold exponent
      rw [hfield, if_neg (Nat.succ_ne_zero _)]
      omega
    rw [absRat, hsignificand, hexponent, twoPow_eq_zpow, zpow_add_one₀ two_ne_zero]
    push_cast
    ring

theorem absRat_nonneg (x : Double) : 0 ≤ x.absRat :=
  mul_nonneg (Nat.cast_nonneg _) (twoPow_eq_zpow x.exponent ▸ zpow_nonneg two_pos.le _)

theorem abs_toRat (x : Double) : |x.toRat| = x.absRat := by
  unfold toRat
  split
  · rw [abs_neg, abs_of_nonneg x.absRat_nonneg]
  · exact abs_of_nonneg x.absRat_nonneg

theorem significand_lt (x : Double) : x.significand < 2 ^ 53 := by
  unfold significand
  dsimp only
  split <;> omega

/-! ### Integers -/

/-- The integers with at most 53 binary digits before the zeros at their end. -/
def Holds (k : Int) : Prop := ∃ c e : Nat, c < 2 ^ 53 ∧ k.natAbs = c * 2 ^ e

/-- A double that is an integer is one of these. -/
theorem holds_of_value? {x : Double} {k : Int} (h : x.value? = some (k : Rat)) : Holds k := by
  obtain ⟨-, hk⟩ := value?_eq_some_iff.1 h
  have habs : (x.significand : Rat) * 2 ^ x.exponent = (k.natAbs : Nat) := by
    rw [← twoPow_eq_zpow, Nat.cast_natAbs, Int.cast_abs, ← hk, abs_toRat]
    rfl
  have hlt := x.significand_lt
  rcases Int.le_total 0 x.exponent with hexponent | hexponent
  · refine ⟨x.significand, x.exponent.toNat, hlt, ?_⟩
    rw [← Int.toNat_of_nonneg hexponent, zpow_natCast] at habs
    exact_mod_cast habs.symm
  · -- there is nothing before the point but the integer, which is no greater than the significand
    have hmul : x.significand = k.natAbs * 2 ^ (-x.exponent).toNat := by
      have hinverse : (2 : Rat) ^ x.exponent * 2 ^ (-x.exponent).toNat = 1 := by
        rw [← zpow_natCast, Int.toNat_of_nonneg (by omega), ← zpow_add₀ two_ne_zero, add_neg_cancel, zpow_zero]
      have hcast : (x.significand : Rat) = (k.natAbs : Nat) * 2 ^ (-x.exponent).toNat := by
        rw [← habs, mul_assoc, hinverse, mul_one]
      exact_mod_cast hcast
    have hle : k.natAbs ≤ x.significand := hmul ▸ Nat.le_mul_of_pos_right _ (Nat.two_pow_pos _)
    exact ⟨k.natAbs, 0, by omega, by rw [pow_zero, mul_one]⟩

/-- In units of the last digit that is kept, these are whole. -/
theorem exists_inUnits_eq {a : Nat} (ha : a ≠ 0) (h : Holds a) : ∃ k : Int, inUnits a = k := by
  obtain ⟨c, e, hc, heq⟩ := h
  rw [Int.natAbs_natCast] at heq
  have hlog : Nat.log2 a < 53 + e := by
    rw [Nat.log2_lt ha, heq, pow_add]
    exact Nat.mul_lt_mul_of_pos_right hc (Nat.two_pow_pos e)
  have hexponent : (e : Int) = ((e + 52 - Nat.log2 a : Nat) : Int) + unitExponent a := by
    unfold unitExponent
    omega
  have hcast : (a : Rat) = c * 2 ^ e := by exact_mod_cast heq
  refine ⟨c * 2 ^ (e + 52 - Nat.log2 a), ?_⟩
  rw [inUnits, div_eq_iff (zpow_ne_zero _ two_ne_zero), hcast]
  push_cast
  rw [mul_assoc, ← zpow_natCast, ← zpow_natCast, ← zpow_add₀ two_ne_zero, ← hexponent]

/-- **A natural number of 64 bits is rounded to one**, which is itself if it has few digits. -/
theorem absRat_round {x : Double} {a : Nat} (hlt : a < 2 ^ 64) (hx : x.magnitude = double.round (a : Rat)) :
    x.isFinite = true ∧ ∃ r : Nat, x.absRat = r ∧ (Holds a → r = a) := by
  have hinfinity : double.infinity = 2047 * 2 ^ 52 := rfl
  by_cases ha : a = 0
  · subst ha
    have hzero : x.magnitude = 0 := hx
    have hsignificand : x.significand = 0 := by simp [significand, exponentField, hzero]
    refine ⟨by simp [isFinite, hzero, hinfinity], 0, ?_, fun _ => rfl⟩
    rw [absRat, hsignificand, Nat.cast_zero, zero_mul]
  · obtain ⟨hlow, hhigh⟩ := roundedSignificand_mem ha
    have hlog : Nat.log2 a < 64 := (Nat.log2_lt ha).2 hlt
    rw [round_natCast ha hlt] at hx
    have hexponent : ((Nat.log2 a + 1022 : Nat) : Int) - 1074 = unitExponent a := by
      unfold unitExponent
      omega
    have habs := absRat_of_magnitude hx hlow hhigh
    rw [hexponent] at habs
    refine ⟨by simp only [isFinite, hx, hinfinity, decide_eq_true_eq]; omega, ?_⟩
    by_cases hwhole : ∃ k : Int, inUnits a = k
    · obtain ⟨k, hk⟩ := hwhole
      rw [roundedSignificand_of_whole ha hk, inUnits_mul] at habs
      exact ⟨a, habs, fun _ => rfl⟩
    · have hbig : 2 ^ 53 ≤ a := by
        by_contra hsmall
        exact hwhole (exists_inUnits_eq ha ⟨a, 0, by omega, by simp⟩)
      have hunit : unitExponent a = ((Nat.log2 a - 52 : Nat) : Int) := by
        have hge : 53 ≤ Nat.log2 a := (Nat.le_log2 ha).2 hbig
        unfold unitExponent
        omega
      rw [hunit, zpow_natCast] at habs
      exact ⟨roundedSignificand a * 2 ^ (Nat.log2 a - 52), by rw [habs]; push_cast; rfl,
        fun hholds => absurd (exists_inUnits_eq ha hholds) hwhole⟩

theorem ofInt_eq (k : Int) : ofInt k = ofSigned (decide (k < 0)) (k.natAbs : Nat) := by
  unfold ofInt ofRat
  have hsign : ((k : Rat) < 0) ↔ k < 0 := Int.cast_lt_zero
  split
  · next hneg =>
    rw [decide_eq_true (hsign.1 hneg), Nat.cast_natAbs, Int.cast_abs, abs_of_neg hneg]
  · next hneg =>
    rw [decide_eq_false (mt hsign.2 hneg), Nat.cast_natAbs, Int.cast_abs, abs_of_nonneg (not_lt.1 hneg)]

/-- **An integer of 64 bits is rounded to an integer, which is itself just if it has at most 53 binary digits** before
the zeros at its end. -/
theorem value?_ofInt {k : Int} (h : k.natAbs < 2 ^ 64) :
    ∃ m : Int, (ofInt k).value? = some (m : Rat) ∧ (m = k ↔ Holds k) := by
  have hround : double.round ((k.natAbs : Nat) : Rat) < 2 ^ 63 := lt_of_le_of_lt (double.round_le _) (by decide)
  obtain ⟨hmagnitude, hsign⟩ := ofMagnitude_spec (decide (k < 0)) hround
  obtain ⟨hfinite, r, habs, hsame⟩ := absRat_round h hmagnitude
  have hvalue : (ofInt k).value? = some ((if k < 0 then -(r : Int) else r : Int) : Rat) := by
    rw [ofInt_eq]
    refine value?_eq_some_iff.2 ⟨hfinite, ?_⟩
    rw [toRat, ofSigned, hsign, habs]
    by_cases hneg : k < 0 <;> simp [hneg]
  refine ⟨_, hvalue, fun heq => holds_of_value? (heq ▸ hvalue), fun hholds => ?_⟩
  have hr : r = k.natAbs := hsame hholds
  split <;> omega

end Double

end WireShapes
