import WireShapes.Numeric.Decimal

/-!
Numbers of a document and the checked conversions into member types.

* `Number`: a natural of 64 bits, a negative of 64 bits, or a double
* `IntWidth.ofNumber`: the integer of a width that a number denotes
* `NarrowError.message`: why there is none
-/

namespace WireShapes

/-- A number in one of three forms. -/
inductive Number
  | natural (n : UInt64)
  | negative (n : Int64)
  | real (x : Double)
deriving DecidableEq, Repr, Inhabited

namespace Number

def toDouble : Number → Double
  | natural n => Double.ofInt n.toNat
  | negative n => Double.ofInt n.toInt
  | real x => x

def text : Number → String
  | natural n => toString n.toNat
  | negative n => toString n.toInt
  | real x => Decimal.plain.write x

/-- The form of an integer: negative ones apart from the others. -/
def ofInt (n : Int) : Number :=
  if n < 0 then negative (Int64.ofInt n) else natural (UInt64.ofNat n.toNat)

end Number

inductive IntWidth
  | w8
  | w16
  | w32
  | w64
deriving DecidableEq, Repr

namespace IntWidth

def bits : IntWidth → Nat
  | w8 => 8
  | w16 => 16
  | w32 => 32
  | w64 => 64

/-- The name of the width in generated code. -/
def typeName (w : IntWidth) : String := s!"i{w.bits}"

/-- One more than the greatest value. -/
def bound (w : IntWidth) : Nat := Nat.pow 2 (w.bits - 1)

def fits (w : IntWidth) (n : Int) : Bool := -(w.bound : Int) ≤ n && n < w.bound

end IntWidth

/-- Why a number is no value of a type. -/
inductive NarrowError
  | outOfRange (value target : String)
  | fractional (value target : String)
deriving DecidableEq, Repr

def NarrowError.message : NarrowError → String
  | outOfRange value target => s!"{value} does not fit in {target}"
  | fractional value target => s!"{value} has a fractional part and cannot be converted to {target}"

/-- The integer of the width that a number denotes. A double is compared with the greatest value
after that is rounded to a double itself, and then clamped. -/
def IntWidth.ofNumber (w : IntWidth) (n : Number) : Except NarrowError Int :=
  let check (k : Int) : Except NarrowError Int :=
    if w.fits k then .ok k else .error (.outOfRange n.text w.typeName)
  match n with
  | .natural k => check k.toNat
  | .negative k => check k.toInt
  | .real x =>
    if !x.isInteger then .error (.fractional n.text w.typeName)
    else
      let low : Int := -(w.bound : Int)
      let high : Int := w.bound - 1
      if x.toRat < low ∨ (Double.ofInt high).toRat < x.toRat then
        .error (.outOfRange n.text w.typeName)
      else .ok (x.truncate low high)

/-- The bits of the 32-bit value that a number denotes; only a finite number can be out of range. -/
def Number.toSingle (n : Number) : Except NarrowError Nat :=
  let x := n.toDouble
  let greatest := (Double.ofSingleBits 0x7F7FFFFF).toRat
  if x.isFinite ∧ (x.toRat < -greatest ∨ greatest < x.toRat) then
    .error (.outOfRange n.text "f32")
  else .ok x.toSingleBits

end WireShapes
