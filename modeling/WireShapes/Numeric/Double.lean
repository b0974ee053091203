/-!
Binary floating point of 64 and 32 bits, given by its bits and computed exactly.

* `Double`: a value of 64 bits; `toRat` is the number that a finite one denotes
* `BinaryFormat.round`: the nearest value of a format, a tie to the even one
* `Double.ofRat`, `Double.toSingleBits`: rounding into the two formats
-/

namespace WireShapes

def twoPow (e : Int) : Rat :=
  if 0 ≤ e then (Nat.pow 2 e.toNat : Nat) else 1 / (Nat.pow 2 (-e).toNat : Nat)

def tenPow (e : Int) : Rat :=
  if 0 ≤ e then (Nat.pow 10 e.toNat : Nat) else 1 / (Nat.pow 10 (-e).toNat : Nat)

/-- The nearest integer, a tie to the even one. -/
def roundEven (x : Rat) : Int :=
  let low := x.floor
  let twice := 2 * (x - low)
  if twice < 1 then low
  else if twice = 1 then (if low % 2 = 0 then low else low + 1)
  else low + 1

/-- The nearest integer, a tie away from zero. -/
def roundAway (x : Rat) : Int :=
  if 0 ≤ x then (x + 1 / 2).floor else -((-x + 1 / 2).floor)

/-- A binary format: digits of the significand, exponent of the last digit of the smallest values,
and the bits of infinity. -/
structure BinaryFormat where
  precision : Nat
  minExponent : Int
  infinity : Nat

/-- The exponent of the last digit of the value of the format that is nearest to `x > 0`. -/
def BinaryFormat.exponentOf (f : BinaryFormat) (x : Rat) : Int :=
  let top : Int := (Nat.log2 x.num.toNat : Int) - Nat.log2 x.den
  let e := if x < twoPow top then top - f.precision else top - f.precision + 1
  max f.minExponent e

/-- The bits, without sign, of the value that is nearest to `x ≥ 0`. -/
def BinaryFormat.round (f : BinaryFormat) (x : Rat) : Nat :=
  if x = 0 then 0
  else
    let e := f.exponentOf x
    let m := (roundEven (x / twoPow e)).toNat
    min f.infinity ((e - f.minExponent).toNat * Nat.pow 2 (f.precision - 1) + m)

/-- Values of 64 bits. -/
def double : BinaryFormat := ⟨53, -1074, 0x7FF0000000000000⟩

/-- Values of 32 bits. -/
def single : BinaryFormat := ⟨24, -149, 0x7F800000⟩

/-- A floating-point value of 64 bits, as its bits. -/
structure Double where
  bits : UInt64
deriving DecidableEq, Repr, Inhabited

namespace Double

def negative (x : Double) : Bool := 0x8000000000000000 ≤ x.bits

/-- The bits without the sign. -/
def magnitude (x : Double) : Nat := x.bits.toNat % 0x8000000000000000

def isNaN (x : Double) : Bool := double.infinity < x.magnitude

def isInfinite (x : Double) : Bool := x.magnitude = double.infinity

def isFinite (x : Double) : Bool := x.magnitude < double.infinity

/-- The stored exponent. -/
def exponentField (x : Double) : Nat := x.magnitude / 0x10000000000000

/-- The integer significand of a finite value. -/
def significand (x : Double) : Nat :=
  let low := x.magnitude % 0x10000000000000
  if x.exponentField = 0 then low else 0x10000000000000 + low

/-- The exponent that goes with the significand. -/
def exponent (x : Double) : Int :=
  if x.exponentField = 0 then -1074 else (x.exponentField : Int) - 1075

/-- The absolute value of the number that a finite value denotes. -/
def absRat (x : Double) : Rat := (x.significand : Nat) * twoPow x.exponent

/-- The number that a finite value denotes. -/
def toRat (x : Double) : Rat := if x.negative then -x.absRat else x.absRat

/-- The value with the given sign and bits. -/
def ofMagnitude (negative : Bool) (m : Nat) : Double :=
  ⟨UInt64.ofNat (if negative then 0x8000000000000000 + m else m)⟩

/-- The value nearest to `x ≥ 0` with a sign of its own, so that a zero may be negative. -/
def ofSigned (negative : Bool) (x : Rat) : Double := ofMagnitude negative (double.round x)

/-- The value nearest to a number, a tie to the even one. -/
def ofRat (x : Rat) : Double :=
  if x < 0 then ofSigned true (-x) else ofSigned false x

def nan : Double := ⟨0x7FF8000000000000⟩

def infinity (negative : Bool) : Double := ofMagnitude negative double.infinity

def ofInt (n : Int) : Double := ofRat n

def neg (x : Double) : Double := ⟨x.bits ^^^ 0x8000000000000000⟩

/-- The value is finite and denotes an integer. -/
def isInteger (x : Double) : Bool := x.isFinite && x.toRat.den == 1

/-- Equality as the format compares: the two zeros are equal and a NaN equals nothing. -/
def same (x y : Double) : Bool :=
  !x.isNaN && !y.isNaN && (x == y || (x.magnitude == 0 && y.magnitude == 0))

/-- The integer part, clamped to the range, and zero for a NaN. -/
def truncate (low high : Int) (x : Double) : Int :=
  if x.isNaN then 0
  else if x.isInfinite then (if x.negative then low else high)
  else
    let n := if x.negative then -x.absRat.floor else x.absRat.floor
    max low (min high n)

/-- The bits of the nearest value of 32 bits; the payload of a NaN is dropped. -/
def toSingleBits (x : Double) : Nat :=
  let sign := if x.negative then 0x80000000 else 0
  if x.isNaN then sign + 0x7FC00000
  else if x.isInfinite then sign + single.infinity
  else sign + single.round x.absRat

/-- The value of 64 bits equal to one of 32 bits. -/
def ofSingleBits (bits : Nat) : Double :=
  let m := bits % 0x80000000
  let negative := 0x80000000 ≤ bits
  if single.infinity < m then nan
  else if m = single.infinity then infinity negative
  else
    let field := m / 0x800000
    let low := m % 0x800000
    let x : Rat :=
      if field = 0 then (low : Nat) * twoPow (-149)
      else (0x800000 + low : Nat) * twoPow ((field : Int) - 150)
    ofSigned negative x

end Double

end WireShapes
