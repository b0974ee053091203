import WireShapes.Constraint.Bounds
import WireShapes.Proofs.Instant.Seconds
import WireShapes.Proofs.Numeric.Rounding

/-!
Bounds of integers in generated code: which integers the rendered condition refuses.

* `Double.whole_eq`: a bound is cut to an integer towards zero
* `value?_boundLiteral`: the literal of a bound denotes that integer, clamped to 64 bits
* `Comparison`, `RangeBounds.comparisons`: what is compared, and its text (`rangeViolated_eq`)
* `rangeViolated_exact_iff`: what the condition refuses, and when that is what the bounds exclude
* `half_accepted`: an integer below its least bound that the condition accepts
-/

namespace WireShapes

/-! ### Bounds as integers -/

namespace Double

/-- The integer part of a number, towards zero. -/
def whole (x : Double) : Int := if x.negative then -x.absRat.floor else x.absRat.floor

theorem truncate_of_isFinite {x : Double} (h : x.isFinite = true) (low high : Int) :
    x.truncate low high = max low (min high x.whole) := by
  obtain ⟨hnan, hinfinite⟩ := isNaN_of_isFinite h
  simp only [truncate, hnan, hinfinite, Bool.false_eq_true, if_false]
  rfl

/-- A number is cut down if it is positive, and else it is cut up. -/
theorem whole_eq (x : Double) : x.whole = if 0 < x.toRat then ⌊x.toRat⌋ else ⌈x.toRat⌉ := by
  have hnonneg := x.absRat_nonneg
  have hfloor : x.absRat.floor = ⌊x.absRat⌋ := rfl
  unfold whole toRat
  rw [hfloor]
  by_cases hsign : x.negative = true
  · rw [if_pos hsign, if_pos hsign, if_neg (by linarith), Int.ceil_neg]
  · rw [if_neg hsign, if_neg hsign]
    split
    · rfl
    · next hzero =>
      have heq : x.absRat = 0 := le_antisymm (not_lt.1 hzero) hnonneg
      rw [heq, Int.floor_zero, Int.ceil_zero]

end Double

theorem Decimal.value?_toString (z : Int) : Decimal.value? (toString z).toList = some (z : Rat) := by
  have hread := Decimal.value?_integer z []
  have hdigits := Decimal.unsignedValue?_digits (Decimal.digitsOf z.natAbs)
  rw [show (Decimal.digitsOf z.natAbs).chars = Nat.toDigits 10 z.natAbs from rfl,
    Decimal.digitsValue_toDigits] at hdigits
  rw [List.append_nil, List.append_nil, hdigits, Option.map_some] at hread
  rw [hread, Option.some.injEq]
  split
  · next hz => rw [← Int.cast_natCast, Int.ofNat_natAbs_of_nonpos hz.le, Int.cast_neg, neg_neg]
  · next hz => rw [← Int.cast_natCast, Int.natAbs_of_nonneg (not_lt.1 hz)]

/-- The literal of a bound denotes the integer that the bound is cut to. -/
theorem value?_boundLiteral (x : Double) :
    Decimal.value? (boundLiteral x true).toList = some (boundInteger x : Rat) := Decimal.value?_toString _

theorem boundInteger_eq {x : Double} (h : x.isFinite = true) :
    boundInteger x = max (-2 ^ 63) (min (2 ^ 63 - 1) (if 0 < x.toRat then ⌊x.toRat⌋ else ⌈x.toRat⌉)) := by
  rw [boundInteger, Double.truncate_of_isFinite h, Double.whole_eq]
  rfl

/-! ### Comparisons -/

/-- A comparison of a number with a limit that it must not be below, or above. -/
inductive Comparison
  | below (limit : Int)
  | above (limit : Int)

namespace Comparison

def text (var : String) : Comparison → String
  | below limit => var ++ " < " ++ toString limit
  | above limit => var ++ " > " ++ toString limit

/-- The comparison holds of the number, so that it is refused. -/
def Holds (v : Int64) : Comparison → Prop
  | below limit => v.toInt < limit
  | above limit => limit < v.toInt

end Comparison

/-- Comparisons as a condition that holds if one of them does, if there are any. -/
def conditionText? (var : String) : List Comparison → Option String
  | [] => none
  | checks => some (" || ".intercalate (checks.map (Comparison.text var)))

namespace RangeBounds

/-- What a number is compared with. -/
def comparisons (bounds : RangeBounds) : List Comparison :=
  (bounds.min.map fun min => .below (boundInteger min)).toList ++
    (bounds.max.map fun max => .above (boundInteger max)).toList

/-- The bounds are numbers. -/
structure Finite (bounds : RangeBounds) : Prop where
  min : ∀ min ∈ bounds.min, min.isFinite = true
  max : ∀ max ∈ bounds.max, max.isFinite = true

/-- The integer is outside the bounds as they stand in the model. -/
def Excludes (bounds : RangeBounds) (v : Int64) : Prop :=
  (∃ min ∈ bounds.min, (v.toInt : Rat) < min.toRat) ∨ ∃ max ∈ bounds.max, max.toRat < v.toInt

end RangeBounds

/-- **The condition is that one of the comparisons holds.** -/
theorem rangeViolated_eq (var : String) (bounds : RangeBounds) :
    rangeViolated var bounds true = conditionText? var bounds.comparisons := by
  obtain ⟨min, max⟩ := bounds
  cases min <;> cases max <;> rfl

theorem holds_comparisons_iff {bounds : RangeBounds} {v : Int64} :
    (∃ c ∈ bounds.comparisons, c.Holds v) ↔
      (∃ min ∈ bounds.min, v.toInt < boundInteger min) ∨ ∃ max ∈ bounds.max, boundInteger max < v.toInt := by
  obtain ⟨min, max⟩ := bounds
  cases min <;> cases max <;> simp [RangeBounds.comparisons, Comparison.Holds]

/-! ### What is refused -/

section Refused

variable {x : Double} {v : Int64}

theorem toInt_mem_range (v : Int64) : -2 ^ 63 ≤ v.toInt ∧ v.toInt < 2 ^ 63 := ⟨v.le_toInt, v.toInt_lt⟩

/-- An integer is below the limit if it is below the bound and is not the limit. -/
theorem lt_boundInteger_iff (h : x.isFinite = true) :
    v.toInt < boundInteger x ↔ (v.toInt : Rat) < x.toRat ∧ v.toInt ≠ boundInteger x := by
  have hrange := toInt_mem_range v
  have hfloor : ⌊x.toRat⌋ ≤ ⌈x.toRat⌉ := Int.floor_le_ceil _
  have hceil : ⌈x.toRat⌉ ≤ ⌊x.toRat⌋ + 1 := Int.ceil_le_floor_add_one _
  rw [boundInteger_eq h, ← Int.lt_ceil]
  split
  · next hpos =>
    have hnonneg : 0 ≤ ⌊x.toRat⌋ := Int.floor_nonneg.2 hpos.le
    omega
  · next hnonpos =>
    have hzero : ⌈x.toRat⌉ ≤ 0 := Int.ceil_le.2 (by simpa using hnonpos)
    omega

theorem boundInteger_lt_iff (h : x.isFinite = true) :
    boundInteger x < v.toInt ↔ x.toRat < v.toInt ∧ v.toInt ≠ boundInteger x := by
  have hrange := toInt_mem_range v
  have hfloor : ⌊x.toRat⌋ ≤ ⌈x.toRat⌉ := Int.floor_le_ceil _
  have hceil : ⌈x.toRat⌉ ≤ ⌊x.toRat⌋ + 1 := Int.ceil_le_floor_add_one _
  rw [boundInteger_eq h, ← Int.floor_lt]
  split
  · next hpos =>
    have hnonneg : 0 ≤ ⌊x.toRat⌋ := Int.floor_nonneg.2 hpos.le
    omega
  · next hnonpos =>
    have hzero : ⌈x.toRat⌉ ≤ 0 := Int.ceil_le.2 (by simpa using hnonpos)
    omega

/-- A least bound is not cut down: it is not positive, or an integer of 64 bits. -/
def Double.KeptBelow (x : Double) : Prop := x.toRat ≤ 0 ∨ ∃ k : Int, x.toRat = k ∧ k < 2 ^ 63

/-- A greatest bound is not cut up: it is not negative, or an integer of 64 bits. -/
def Double.KeptAbove (x : Double) : Prop := 0 ≤ x.toRat ∨ ∃ k : Int, x.toRat = k ∧ -2 ^ 63 ≤ k

theorem le_boundInteger_iff (h : x.isFinite = true) : x.toRat ≤ boundInteger x ↔ x.KeptBelow := by
  have hceil : ⌊x.toRat⌋ ≤ ⌈x.toRat⌉ := Int.floor_le_ceil _
  rw [← Int.ceil_le, boundInteger_eq h]
  unfold Double.KeptBelow
  split
  · next hpos =>
    have hnonneg : 0 ≤ ⌊x.toRat⌋ := Int.floor_nonneg.2 hpos.le
    constructor
    · intro hle
      refine .inr ⟨⌊x.toRat⌋, le_antisymm ?_ (Int.floor_le _), by omega⟩
      exact Int.ceil_le.1 (by omega)
    · rintro (hnonpos | ⟨k, hk, hlt⟩)
      · exact absurd hpos (not_lt.2 hnonpos)
      · rw [hk, Int.floor_intCast, Int.ceil_intCast] at *
        omega
  · next hnonpos =>
    have hzero : ⌈x.toRat⌉ ≤ 0 := Int.ceil_le.2 (by simpa using hnonpos)
    exact iff_of_true (by omega) (.inl (not_lt.1 hnonpos))

theorem boundInteger_le_iff (h : x.isFinite = true) : (boundInteger x : Rat) ≤ x.toRat ↔ x.KeptAbove := by
  have hceil : ⌊x.toRat⌋ ≤ ⌈x.toRat⌉ := Int.floor_le_ceil _
  rw [← Int.le_floor, boundInteger_eq h]
  unfold Double.KeptAbove
  split
  · next hpos =>
    have hnonneg : 0 ≤ ⌊x.toRat⌋ := Int.floor_nonneg.2 hpos.le
    exact iff_of_true (by omega) (.inl hpos.le)
  · next hnonpos =>
    have hzero : ⌈x.toRat⌉ ≤ 0 := Int.ceil_le.2 (by simpa using hnonpos)
    constructor
    · intro hle
      refine .inr ⟨⌈x.toRat⌉, le_antisymm (Int.le_ceil _) ?_, by omega⟩
      exact Int.le_floor.1 (by omega)
    · rintro (hnonneg | ⟨k, hk, hlt⟩)
      · have heq : x.toRat = 0 := le_antisymm (not_lt.1 hnonpos) hnonneg
        rw [heq, Int.floor_zero, Int.ceil_zero]
        omega
      · rw [hk, Int.floor_intCast, Int.ceil_intCast] at *
        omega

theorem exists_toInt_eq (h : x.isFinite = true) : ∃ v : Int64, v.toInt = boundInteger x := by
  have hrange : -2 ^ 63 ≤ boundInteger x ∧ boundInteger x < 2 ^ 63 := by
    rw [boundInteger_eq h]
    omega
  exact ⟨Int64.ofInt (boundInteger x), Int64.toInt_ofInt_of_le hrange.1 hrange.2⟩

end Refused

section Exact

variable {bounds : RangeBounds}

/-- An integer is refused if it is outside the bounds and is not what the bound is cut to. -/
theorem holds_iff (h : bounds.Finite) {v : Int64} : (∃ c ∈ bounds.comparisons, c.Holds v) ↔
    (∃ min ∈ bounds.min, (v.toInt : Rat) < min.toRat ∧ v.toInt ≠ boundInteger min) ∨
      ∃ max ∈ bounds.max, max.toRat < v.toInt ∧ v.toInt ≠ boundInteger max := by
  rw [holds_comparisons_iff]
  refine or_congr (exists_congr fun min => ?_) (exists_congr fun max => ?_)
  · exact and_congr_right fun hmin => lt_boundInteger_iff (h.min min hmin)
  · exact and_congr_right fun hmax => boundInteger_lt_iff (h.max max hmax)

theorem excludes_of_holds (h : bounds.Finite) {v : Int64} (hv : ∃ c ∈ bounds.comparisons, c.Holds v) :
    bounds.Excludes v := by
  rcases (holds_iff h).1 hv with ⟨min, hmin, hlt, -⟩ | ⟨max, hmax, hlt, -⟩
  · exact .inl ⟨min, hmin, hlt⟩
  · exact .inr ⟨max, hmax, hlt⟩

theorem exact_iff (h : bounds.Finite) :
    (∀ v : Int64, (∃ c ∈ bounds.comparisons, c.Holds v) ↔ bounds.Excludes v) ↔
      (∀ min ∈ bounds.min, min.KeptBelow ∨ ∃ max ∈ bounds.max, boundInteger max < boundInteger min) ∧
        ∀ max ∈ bounds.max, max.KeptAbove ∨ ∃ min ∈ bounds.min, boundInteger max < boundInteger min := by
  constructor
  · -- the limit itself is outside a bound that is cut inward, and only the other comparison can refuse it
    intro hexact
    refine ⟨fun min hmin => or_iff_not_imp_left.2 fun hcut => ?_, fun max hmax => or_iff_not_imp_left.2 fun hcut => ?_⟩
    · obtain ⟨v, hv⟩ := exists_toInt_eq (h.min min hmin)
      rw [← le_boundInteger_iff (h.min min hmin), not_le, ← hv] at hcut
      rcases holds_comparisons_iff.1 ((hexact v).2 (.inl ⟨min, hmin, hcut⟩)) with
        ⟨other, hother, hlt⟩ | ⟨max, hmax, hlt⟩
      · rw [Option.mem_unique hother hmin, hv] at hlt
        exact absurd hlt (lt_irrefl _)
      · exact ⟨max, hmax, hv ▸ hlt⟩
    · obtain ⟨v, hv⟩ := exists_toInt_eq (h.max max hmax)
      rw [← boundInteger_le_iff (h.max max hmax), not_le, ← hv] at hcut
      rcases holds_comparisons_iff.1 ((hexact v).2 (.inr ⟨max, hmax, hcut⟩)) with
        ⟨min, hmin, hlt⟩ | ⟨other, hother, hlt⟩
      · exact ⟨min, hmin, hv ▸ hlt⟩
      · rw [Option.mem_unique hother hmax, hv] at hlt
        exact absurd hlt (lt_irrefl _)
  · rintro ⟨hbelow, habove⟩ v
    refine ⟨excludes_of_holds h, fun hout => holds_comparisons_iff.2 ?_⟩
    rcases hout with ⟨min, hmin, hlt⟩ | ⟨max, hmax, hlt⟩
    · by_cases hv : v.toInt = boundInteger min
      · rw [hv, ← not_le, le_boundInteger_iff (h.min min hmin)] at hlt
        obtain ⟨max, hmax, hless⟩ := (hbelow min hmin).resolve_left hlt
        exact .inr ⟨max, hmax, hv ▸ hless⟩
      · exact .inl ⟨min, hmin, (lt_boundInteger_iff (h.min min hmin)).2 ⟨hlt, hv⟩⟩
    · by_cases hv : v.toInt = boundInteger max
      · rw [hv, ← not_le, boundInteger_le_iff (h.max max hmax)] at hlt
        obtain ⟨min, hmin, hless⟩ := (habove max hmax).resolve_left hlt
        exact .inl ⟨min, hmin, hv ▸ hless⟩
      · exact .inr ⟨max, hmax, (boundInteger_lt_iff (h.max max hmax)).2 ⟨hlt, hv⟩⟩

/-- **The condition refuses exactly the integers outside the bounds, unless a bound is cut inward.** Its comparisons
are with the bounds as their literals spell them. It refuses the integers that are outside the bounds and are not what
the bound is cut to; that is all of them just if neither bound is cut inward, or else the limits exclude each other. -/
theorem rangeViolated_exact_iff (h : bounds.Finite) :
    (∀ var, rangeViolated var bounds true = conditionText? var bounds.comparisons) ∧
    (∀ x, Decimal.value? (boundLiteral x true).toList = some (boundInteger x : Rat)) ∧
    (∀ v : Int64, (∃ c ∈ bounds.comparisons, c.Holds v) ↔
      (∃ min ∈ bounds.min, (v.toInt : Rat) < min.toRat ∧ v.toInt ≠ boundInteger min) ∨
        ∃ max ∈ bounds.max, max.toRat < v.toInt ∧ v.toInt ≠ boundInteger max) ∧
    ((∀ v : Int64, (∃ c ∈ bounds.comparisons, c.Holds v) ↔ bounds.Excludes v) ↔
      (∀ min ∈ bounds.min, min.KeptBelow ∨ ∃ max ∈ bounds.max, boundInteger max < boundInteger min) ∧
        ∀ max ∈ bounds.max, max.KeptAbove ∨ ∃ min ∈ bounds.min, boundInteger max < boundInteger min) :=
  ⟨fun var => rangeViolated_eq var bounds, value?_boundLiteral, fun _ => holds_iff h, exact_iff h⟩

end Exact

/-- From nothing to ten. -/
def smallCount : RangeBounds := ⟨some ⟨0⟩, some ⟨0x4024000000000000⟩⟩

theorem smallCount_exact : smallCount.Finite ∧ rangeViolated "value" smallCount true = some "value < 0 || value > 10" ∧
    ∀ v : Int64, (∃ c ∈ smallCount.comparisons, c.Holds v) ↔ smallCount.Excludes v := by
  have hfinite : smallCount.Finite := ⟨fun min hmin => by cases hmin; decide, fun max hmax => by cases hmax; decide⟩
  obtain ⟨htext, -, -, hexact⟩ := rangeViolated_exact_iff hfinite
  refine ⟨hfinite, (htext "value").trans (by decide +kernel), hexact.2 ⟨?_, ?_⟩⟩
  · rintro min hmin
    cases hmin
    exact .inl (.inl (by decide +kernel))
  · rintro max hmax
    cases hmax
    exact .inl (.inl (by decide +kernel))

/-- At least a half. -/
def fromHalf : RangeBounds := ⟨some ⟨0x3FE0000000000000⟩, none⟩

/-- **The condition can accept an integer that is below the least bound.** -/
theorem half_accepted : rangeViolated "value" fromHalf true = some "value < 0" ∧
    ¬∀ bounds : RangeBounds, bounds.Finite →
      ∀ v : Int64, (∃ c ∈ bounds.comparisons, c.Holds v) ↔ bounds.Excludes v := by
  refine ⟨by decide +kernel, fun hclaim => ?_⟩
  have hfinite : fromHalf.Finite := ⟨fun min hmin => by cases hmin; decide, fun max hmax => by cases hmax⟩
  have hout : fromHalf.Excludes 0 := .inl ⟨_, rfl, by decide +kernel⟩
  have hzero : boundInteger ⟨0x3FE0000000000000⟩ = 0 := by decide +kernel
  rcases holds_comparisons_iff.1 ((hclaim fromHalf hfinite 0).2 hout) with ⟨min, hmin, hlt⟩ | ⟨max, hmax, -⟩
  · cases hmin
    rw [hzero] at hlt
    exact absurd hlt (by decide)
  · cases hmax

end WireShapes
