import WireShapes.Numeric.Double

/-!
Decimal texts of floating-point values, written and read.

* `shortest`: the fewest digits that read back, and of those the nearest to the value
* `Tie`: which of two equally near ones
* `Layout`: where positional notation ends, what an integer and an exponent look like;
  `Layout.write`
* `plain`, `compact`: the layouts in use
* `readDouble?`: a decimal text rounded to the nearest value
-/

namespace WireShapes.Decimal

/-- How many decimal digits a number has; zero has one. -/
def digitCount (n : Nat) : Nat := (Nat.toDigits 10 n).length

/-- The exponent of the leading decimal digit of `x > 0`. -/
def leadingExponent (x : Rat) : Int :=
  let e : Int := (digitCount x.num.toNat : Int) - digitCount x.den
  if tenPow e ≤ x then e else e - 1

/-- The numbers that round to a value: from `low` to `high`, the ends included if `closed`. -/
structure Interval where
  low : Rat
  high : Rat
  closed : Bool

def Interval.holds (i : Interval) (x : Rat) : Bool :=
  if i.closed then i.low ≤ x && x ≤ i.high else i.low < x && x < i.high

/-- The numbers that round to a positive finite value. Below a power of two the neighbours stand
closer together. -/
def intervalOf (x : Double) : Interval :=
  let unit := twoPow x.exponent
  let v := x.absRat
  let below := if x.significand = 0x10000000000000 ∧ 1 < x.exponentField then unit / 4 else unit / 2
  ⟨v - below, v + unit / 2, x.significand % 2 = 0⟩

/-- Which of two neighbours on a grid stands for a number halfway between them. -/
inductive Tie
  | even
  | up
deriving DecidableEq, Repr

/-- The choice between `n` and `n + 1`. -/
def Tie.choose : Tie → Nat → Nat
  | even, n => if n % 2 = 0 then n else n + 1
  | up, n => n + 1

/-- The multiple of `10 ^ e` next to `x` that lies in the interval; of two the nearer one, and of two
equally near the one the tie goes to. -/
def onGrid (tie : Tie) (i : Interval) (x : Rat) (e : Int) : Option Nat :=
  let low := (x / tenPow e).floor.toNat
  let below : Rat := (low : Nat) * tenPow e
  let above : Rat := (low + 1 : Nat) * tenPow e
  match i.holds below && low != 0, i.holds above with
  | true, true =>
    if x - below < above - x then some low
    else if above - x < x - below then some (low + 1)
    else some (tie.choose low)
  | true, false => some low
  | false, true => some (low + 1)
  | false, false => none

/-- Tries grids of `count` more digits, the coarsest first. -/
def shortestFrom (tie : Tie) (i : Interval) (x : Rat) (e : Int) : Nat → Nat × Int
  | 0 => ((roundEven (x / tenPow e)).toNat, e)
  | count + 1 =>
    match onGrid tie i x e with
    | some n => (n, e)
    | none => shortestFrom tie i x (e - 1) count

/-- Drops trailing zeros of a digit sequence that stands before the given exponent. -/
def trimZeros : Nat → Nat × Int → Nat × Int
  | 0, d => d
  | fuel + 1, (n, e) => if n ≠ 0 ∧ n % 10 = 0 then trimZeros fuel (n / 10, e + 1) else (n, e)

/-- Digits and exponent of the shortest decimal that reads back as a positive finite value. -/
def shortest (tie : Tie) (x : Double) : Nat × Int :=
  let v := x.absRat
  trimZeros 20 (shortestFrom tie (intervalOf x) v (leadingExponent v) 17)

/-- How a value is written: where ties go, the positions of the point for which notation is
positional, whether an integer keeps a fraction, whether an exponent above zero has a sign, and the
words for what is not a number. -/
structure Layout where
  tie : Tie
  minPoint : Int
  maxPoint : Int
  keepFraction : Bool
  plusExponent : Bool
  nan : String
  infinity : String

/-- Always positional, integers without a fraction. -/
def plain : Layout where
  tie := .up
  minPoint := -400
  maxPoint := 400
  keepFraction := false
  plusExponent := false
  nan := "NaN"
  infinity := "inf"

/-- Positional from `1e-5` to below `1e16`, integers with a fraction, exponents with their sign. -/
def compact : Layout where
  tie := .even
  minPoint := -4
  maxPoint := 16
  keepFraction := true
  plusExponent := true
  nan := "NaN"
  infinity := "inf"

def digits (n : Nat) : List Char := Nat.toDigits 10 n

/-- Positional notation of digits whose decimal point stands after `point` of them. -/
def positional (keepFraction : Bool) (ds : List Char) (point : Int) : List Char :=
  if point ≤ 0 then ['0', '.'] ++ List.replicate (-point).toNat '0' ++ ds
  else if point.toNat < ds.length then ds.take point.toNat ++ ['.'] ++ ds.drop point.toNat
  else
    ds ++ List.replicate (point.toNat - ds.length) '0' ++ (if keepFraction then ['.', '0'] else [])

/-- Notation with an exponent, one digit before the point. -/
def scientific (plusExponent : Bool) (ds : List Char) (point : Int) : List Char :=
  let mantissa :=
    match ds with
    | [] => ['0']
    | [d] => [d]
    | d :: rest => d :: '.' :: rest
  let plus := if plusExponent && 1 ≤ point then ['+'] else []
  mantissa ++ ['e'] ++ plus ++ (toString (point - 1)).toList

def Layout.write (l : Layout) (x : Double) : String :=
  if x.isNaN then l.nan
  else
    let sign := if x.negative then "-" else ""
    if x.isInfinite then sign ++ l.infinity
    else if x.magnitude = 0 then sign ++ (if l.keepFraction then "0.0" else "0")
    else
      let (n, e) := shortest l.tie x
      let ds := digits n
      let point := (ds.length : Int) + e
      let body :=
        if l.minPoint ≤ point ∧ point ≤ l.maxPoint then positional l.keepFraction ds point
        else scientific l.plusExponent ds point
      sign ++ String.ofList body

/-- The value of digits without sign. -/
def digitsValue (ds : List Char) : Nat :=
  ds.foldl (fun n c => n * 10 + (c.toNat - 48)) 0

def isDigit (c : Char) : Bool := 48 ≤ c.toNat && c.toNat ≤ 57

/-- The value nearest to `n · 10 ^ e`; far beyond the range the power is not computed. -/
def scaled (negative : Bool) (n : Nat) (e : Int) : Double :=
  if n = 0 then Double.ofMagnitude negative 0
  else
    let top := (digitCount n : Int) + e
    if 400 < top then Double.infinity negative
    else if top < -400 then Double.ofMagnitude negative 0
    else Double.ofSigned negative ((n : Nat) * tenPow e)

/-- The exponent after its mark: an optional sign and at least one digit. -/
def readExponent? : List Char → Option Int
  | '-' :: ds => if !ds.isEmpty && ds.all isDigit then some (-(digitsValue ds : Int)) else none
  | '+' :: ds => if !ds.isEmpty && ds.all isDigit then some (digitsValue ds) else none
  | ds => if !ds.isEmpty && ds.all isDigit then some (digitsValue ds) else none

/-- A decimal without sign: digits with at most one point among them and an optional exponent. -/
def readUnsigned? (negative : Bool) (cs : List Char) : Option Double :=
  let whole := cs.takeWhile isDigit
  let afterWhole := cs.dropWhile isDigit
  let (fraction, rest) :=
    match afterWhole with
    | '.' :: more => (more.takeWhile isDigit, more.dropWhile isDigit)
    | _ => ([], afterWhole)
  let ds := whole ++ fraction
  if ds.isEmpty then none
  else
    let value (e : Int) := scaled negative (digitsValue ds) (e - fraction.length)
    match rest with
    | [] => some (value 0)
    | c :: exponent =>
      if c = 'e' ∨ c = 'E' then (readExponent? exponent).map value else none

/-- The word for an infinity or a NaN, in letters of either case. -/
def readWord? (negative : Bool) (cs : List Char) : Option Double :=
  let word := String.ofList (cs.map Char.toLower)
  if word = "inf" ∨ word = "infinity" then some (Double.infinity negative)
  else if word = "nan" then some (if negative then Double.nan.neg else Double.nan)
  else none

/-- A decimal with an optional sign, or a word for a value that is not finite. -/
def readDouble? (s : List Char) : Option Double :=
  match s with
  | '-' :: cs => (readUnsigned? true cs).or (readWord? true cs)
  | '+' :: cs => (readUnsigned? false cs).or (readWord? false cs)
  | cs => (readUnsigned? false cs).or (readWord? false cs)

/-- Digits without sign, at least one. -/
def readNat? (cs : List Char) : Option Nat :=
  if !cs.isEmpty && cs.all isDigit then some (digitsValue cs) else none

/-- Digits after an optional sign. -/
def readInt? : List Char → Option Int
  | '-' :: cs => (readNat? cs).map fun n => -(n : Int)
  | '+' :: cs => (readNat? cs).map fun n => (n : Int)
  | cs => (readNat? cs).map fun n => (n : Int)

end WireShapes.Decimal
