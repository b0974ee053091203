import WireShapes.Source.Scan
import WireShapes.Source.Value

/-!
Numbers that are read equal themselves: no text denotes what is not a number.

* `Double.isNaN_ofSigned`, `Double.isNaN_neg`: rounding gives a number, and so does a change of sign
* `sameNumber_of_takeNumber?`: every number that is read was rounded
-/

namespace WireShapes

/-! ### Doubles -/

theorem BinaryFormat.round_le (f : BinaryFormat) (x : Rat) : f.round x ≤ f.infinity := by
  unfold BinaryFormat.round
  split
  · exact Nat.zero_le _
  · exact Nat.min_le_left _ _

namespace Double

theorem isNaN_ofMagnitude (negative : Bool) {m : Nat} (h : m ≤ double.infinity) :
    (ofMagnitude negative m).isNaN = false := by
  have hinfinity : double.infinity = 0x7FF0000000000000 := rfl
  have hmagnitude : (ofMagnitude negative m).magnitude = m := by
    unfold ofMagnitude magnitude
    rw [UInt64.toNat_ofNat']
    split <;> omega
  rw [isNaN, hmagnitude, decide_eq_false_iff_not]
  exact Nat.not_lt.2 h

theorem isNaN_ofSigned (negative : Bool) (x : Rat) : (ofSigned negative x).isNaN = false :=
  isNaN_ofMagnitude negative (double.round_le x)

theorem isNaN_ofRat (x : Rat) : (ofRat x).isNaN = false := by
  unfold ofRat
  split <;> exact isNaN_ofSigned _ _

theorem magnitude_neg (x : Double) : x.neg.magnitude = x.magnitude := by
  have hsign : (0x8000000000000000 : UInt64).toNat = 2 ^ 63 := rfl
  have hpower : (0x8000000000000000 : Nat) = 2 ^ 63 := rfl
  unfold neg magnitude
  rw [UInt64.toNat_xor, hsign, hpower, Nat.xor_mod_two_pow, Nat.mod_self, Nat.xor_zero]

theorem isNaN_neg (x : Double) : x.neg.isNaN = x.isNaN := by rw [isNaN, isNaN, magnitude_neg]

theorem same_self {x : Double} (h : x.isNaN = false) : x.same x = true := by simp [same, h]

end Double

namespace Source

/-! ### Reading -/

theorem isNaN_scaleDown (rounds : Nat) {x : Double} (h : x.isNaN = false) (n : Nat) :
    (scaleDown rounds x n).isNaN = false := by
  induction rounds generalizing x n with
  | zero => exact h
  | succ rounds ih =>
    unfold scaleDown
    split
    · exact Double.isNaN_ofSigned _ _
    · split
      · exact h
      · exact ih (Double.isNaN_ofSigned _ _) _

theorem isNaN_mulDouble {x : Double} (h : x.isNaN = false) (y : Double) : (mulDouble x y).isNaN = false := by
  unfold mulDouble
  split
  · exact Double.isNaN_ofSigned _ _
  · exact h

theorem isNaN_of_assemble? {negative : Bool} {significand : Nat} {e : Int} {x : Double}
    (h : assemble? negative significand e = some x) : x.isNaN = false := by
  have hwhole : (Double.ofInt significand).isNaN = false := Double.isNaN_ofRat _
  have hsigned {y : Double} (hy : y.isNaN = false) : (if negative then y.neg else y).isNaN = false := by
    split
    · rw [Double.isNaN_neg, hy]
    · exact hy
  unfold assemble? at h
  dsimp only at h
  split at h
  · obtain rfl := Option.some.inj h
    exact hsigned (isNaN_scaleDown _ hwhole _)
  · split at h
    · split at h
      · obtain rfl := Option.some.inj h
        exact hsigned hwhole
      · cases h
    · split at h
      · cases h
      · obtain rfl := Option.some.inj h
        exact hsigned (isNaN_mulDouble hwhole _)

theorem isNaN_of_realOf? {n : NumberText} {x : Double} (h : realOf? n = some x) : x.isNaN = false := by
  unfold realOf? at h
  dsimp only at h
  split at h
  · exact isNaN_of_assemble? h
  · split at h
    · exact isNaN_of_assemble? h
    · obtain ⟨-, hzero⟩ := Option.ite_none_left_eq_some.1 h
      obtain rfl := Option.some.inj hzero
      exact Double.isNaN_ofMagnitude _ (Nat.zero_le _)

/-- **A number that is read equals itself.** -/
theorem sameNumber_of_takeNumber? {cs rest : List Char} {n : Number} (h : takeNumber? cs = some (n, rest)) :
    sameNumber n n = true := by
  obtain ⟨⟨text, left⟩, -, h⟩ := Option.bind_eq_some_iff.1 h
  obtain ⟨number, hnumber, h⟩ := Option.bind_eq_some_iff.1 h
  obtain rfl : number = n := congrArg Prod.fst (Option.some.inj h)
  unfold numberOf? at hnumber
  dsimp only at hnumber
  split at hnumber
  · split at hnumber
    · obtain rfl := Option.some.inj hnumber
      exact beq_self_eq_true _
    · split at hnumber
      · obtain rfl := Option.some.inj hnumber
        exact beq_self_eq_true _
      · obtain rfl := Option.some.inj hnumber
        refine Double.same_self ?_
        rw [Double.isNaN_neg]
        exact Double.isNaN_ofRat _
  · obtain ⟨x, hx, rfl⟩ := Option.map_eq_some_iff.1 hnumber
    exact Double.same_self (isNaN_of_realOf? hx)

end Source

end WireShapes
