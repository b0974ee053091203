import WireShapes.Code.Default
import WireShapes.Proofs.Constraint.Bounds

/-!
Defaults of integers in generated code.

* `boundInteger_ofInt_eq_iff`: which integers come through a double and its integer part as they are
* `defaultLiteral_integer`: the default of an integer is never refused, and is written from a double
* `Kept`, `default_kept_iff`: so which defaults are written as the number that they are
* `next_changed`: the least natural number that is not
-/

namespace WireShapes

/-- An integer comes through a double and its integer part as it is, if it is one of 64 bits and is not rounded. The
greatest one is rounded up, and then clamped to itself. -/
theorem boundInteger_ofInt_eq_iff {k : Int} (h : k.natAbs < 2 ^ 64) :
    boundInteger (Double.ofInt k) = k ↔ IntWidth.w64.fits k = true ∧ (k = 2 ^ 63 - 1 ∨ Double.Holds k) := by
  obtain ⟨m, hm, hsame⟩ := Double.value?_ofInt h
  have hcut : boundInteger (Double.ofInt k) = max (-2 ^ 63) (min (2 ^ 63 - 1) m) := Double.truncate_of_value hm _ _
  have hbound : IntWidth.w64.bound = 2 ^ 63 := by decide
  rw [hcut, IntWidth.fits_iff, hbound]
  constructor
  · intro heq
    refine ⟨by omega, ?_⟩
    by_cases hmk : m = k
    · exact .inr (hsame.1 hmk)
    · by_cases hlow : k = -2 ^ 63
      · exact .inr ⟨1, 63, by decide, by rw [hlow]; rfl⟩
      · exact .inl (by omega)
  · rintro ⟨hfits, rfl | hholds⟩
    · have hgreatest : (Double.ofInt (2 ^ 63 - 1)).toRat = ((2 ^ 63 : Int) : Rat) := IntWidth.w64.toRat_greatest
      rw [(Double.value?_eq_some_iff.1 hm).2, Int.cast_inj] at hgreatest
      omega
    · rw [hsame.2 hholds]
      omega

namespace Code

/-- The number is an integer of 64 bits that a double holds, or the greatest one. -/
def Kept (n : Number) : Prop :=
  ∃ k : Int, n.value? = some (k : Rat) ∧ IntWidth.w64.fits k = true ∧ (k = 2 ^ 63 - 1 ∨ Double.Holds k)

theorem value?_literal_ofInt_iff {k : Int} (h : k.natAbs < 2 ^ 64) :
    Decimal.value? (boundLiteral (Double.ofInt k) true).toList = some (k : Rat) ↔
      ∃ j : Int, some (k : Rat) = some (j : Rat) ∧ IntWidth.w64.fits j = true ∧ (j = 2 ^ 63 - 1 ∨ Double.Holds j) := by
  simp only [value?_boundLiteral, Option.some.injEq, Int.cast_inj, exists_eq_left', boundInteger_ofInt_eq_iff h]

/-- **The literal of a number denotes it if it is kept.** -/
theorem value?_literal_iff (n : Number) :
    Decimal.value? (boundLiteral n.toDouble true).toList = n.value? ↔ Kept n := by
  cases n with
  | natural j =>
    have hlt := j.toNat_lt
    exact value?_literal_ofInt_iff (k := j.toNat) (by omega)
  | negative j =>
    have hlow := j.le_toInt
    have hhigh := j.toInt_lt
    exact value?_literal_ofInt_iff (k := j.toInt) (by omega)
  | real x =>
    have hbound : IntWidth.w64.bound = 2 ^ 63 := by decide
    have hcut : ∀ k : Int, x.value? = some (k : Rat) → boundInteger x = max (-2 ^ 63) (min (2 ^ 63 - 1) k) :=
      fun k hk => Double.truncate_of_value hk _ _
    rw [Number.toDouble, value?_boundLiteral]
    constructor
    · intro heq
      have hvalue : x.value? = some (boundInteger x : Rat) := heq.symm
      have hrange := hcut _ hvalue
      refine ⟨boundInteger x, hvalue, ?_, .inr (Double.holds_of_value? hvalue)⟩
      rw [IntWidth.fits_iff, hbound]
      omega
    · rintro ⟨k, hvalue, hfits, -⟩
      rw [IntWidth.fits_iff, hbound] at hfits
      have hvalue' : x.value? = some (k : Rat) := hvalue
      have hsame : boundInteger x = k := by
        rw [hcut k hvalue']
        omega
      rw [hsame]
      exact hvalue.symm

variable {s : Scope} {member : Member} {target : Shape} {kind : NumberKind} {w : IntWidth}

/-- **The default of an integer is never refused.** -/
theorem defaultLiteral_integer (hkind : target.kind = .number kind) (hwidth : kind.width? = some w) (n : Number) :
    s.defaultLiteral member target (.number n) =
      .ok (toString (boundInteger n.toDouble) ++ "_" ++ w.typeName) := by
  have hinner : s.newtypeInner target = .ok w.typeName := by
    unfold Scope.newtypeInner Scope.simpleType?
    simp only [Shape.isCollection, hkind]
    cases kind <;> cases hwidth <;> rfl
  have hinteger : kind.isInteger = true := by rw [NumberKind.isInteger, hwidth]; rfl
  unfold Scope.defaultLiteral
  simp only [hkind, hinner, hinteger]
  rfl

/-- Integers of at most 53 binary digits are kept. -/
theorem kept_of_natAbs_le {n : Number} {k : Int} (hn : n.value? = some (k : Rat)) (hk : k.natAbs ≤ 2 ^ 53) :
    Kept n := by
  have hbound : IntWidth.w64.bound = 2 ^ 63 := by decide
  refine ⟨k, hn, ?_, .inr ?_⟩
  · rw [IntWidth.fits_iff, hbound]
    omega
  · rcases Nat.lt_or_eq_of_le hk with hless | heq
    · exact ⟨k.natAbs, 0, hless, by simp⟩
    · exact ⟨1, 53, by decide, by simpa using heq⟩

/-- **The default of an integer is its number if that is kept, and else another one.** It is never refused: what is
written is the integer part of the nearest double, clamped to 64 bits. -/
theorem default_kept_iff (hkind : target.kind = .number kind) (hwidth : kind.width? = some w) (n : Number) :
    s.defaultLiteral member target (.number n) = .ok (toString (boundInteger n.toDouble) ++ "_" ++ w.typeName) ∧
    (Decimal.value? (toString (boundInteger n.toDouble)).toList = n.value? ↔ Kept n) ∧
    ∀ k : Int, n.value? = some (k : Rat) → k.natAbs ≤ 2 ^ 53 → Kept n :=
  ⟨defaultLiteral_integer hkind hwidth n, value?_literal_iff n, fun _ => kept_of_natAbs_le⟩

/-! ### An integer of 64 bits -/

def longShape : Shape := ⟨⟨"smithy.api#Long"⟩, .number .long, {}⟩

def countMember : Member := ⟨"count", ⟨"smithy.api#Long"⟩, {}⟩

def countScope : Scope := ⟨⟨[longShape]⟩, .client, [], []⟩

/-- A power of two is kept. -/
theorem twoPow53_kept : longShape.kind = .number .long ∧ NumberKind.long.width? = some .w64 ∧
    countScope.defaultLiteral countMember longShape (.number (.natural 9007199254740992)) = .ok "9007199254740992_i64" ∧
    Kept (.natural 9007199254740992) := by
  have hkind : longShape.kind = .number .long := rfl
  have hwidth : NumberKind.long.width? = some .w64 := rfl
  obtain ⟨hliteral, -, hkept⟩ :=
    @default_kept_iff countScope countMember longShape _ _ hkind hwidth (.natural 9007199254740992)
  exact ⟨hkind, hwidth, hliteral.trans (congrArg Except.ok (by decide +kernel)), hkept 9007199254740992 rfl (by decide)⟩

/-- **The next integer is changed, and a fraction is dropped.** -/
theorem next_changed :
    countScope.defaultLiteral countMember longShape (.number (.natural 9007199254740993)) = .ok "9007199254740992_i64" ∧
    countScope.defaultLiteral countMember longShape (.number (.real ⟨0x3FF8000000000000⟩)) = .ok "1_i64" ∧
    ¬∀ (s : Scope) (member : Member) (target : Shape) (kind : NumberKind) (w : IntWidth) (n : Number),
      target.kind = .number kind → kind.width? = some w →
        (∃ e, s.defaultLiteral member target (.number n) = .error e) ∨
        ∃ literal, s.defaultLiteral member target (.number n) = .ok (literal ++ "_" ++ w.typeName) ∧
          Decimal.value? literal.toList = n.value? := by
  have hnext : boundInteger (Number.natural 9007199254740993).toDouble = 9007199254740992 := by decide +kernel
  have hliteral := @defaultLiteral_integer countScope countMember longShape .long .w64 rfl rfl
  refine ⟨(hliteral _).trans (congrArg Except.ok (by decide +kernel)),
    (hliteral _).trans (congrArg Except.ok (by decide +kernel)), fun hclaim => ?_⟩
  rcases hclaim countScope countMember longShape .long .w64 (.natural 9007199254740993) rfl rfl with
    ⟨e, he⟩ | ⟨literal, hok, hvalue⟩
  · rw [hliteral] at he
    cases he
  · rw [hliteral, Except.ok.injEq, String.append_left_inj, String.append_left_inj] at hok
    rw [← hok, Decimal.value?_toString, hnext] at hvalue
    exact absurd hvalue (by decide +kernel)

end Code

end WireShapes
