import WireShapes.Json.Escape
import WireShapes.Numeric.Number

/-!
Lexical elements of source documents.

* `skipBlanks`, `takeWord?`, `takeString?`, `takeNumber?`
* `ignoreValue?`: passes over a value whose content does not matter
* `assemble?`: the double of a decimal, computed with one rounding of the digits and one for each
  power of ten, so that it may miss the nearest double by a little
-/

namespace WireShapes.Source

def isBlank (c : Char) : Bool := c == ' ' || c == '\n' || c == '\t' || c == '\r'

def skipBlanks (cs : List Char) : List Char := cs.dropWhile isBlank

/-- What follows a word. -/
def takeWord? (word : String) (cs : List Char) : Option (List Char) :=
  if word.toList.isPrefixOf cs then some (cs.drop word.length) else none

/-- The body of a string up to its closing quote, and what follows that. Control characters cannot
stand in it. -/
def takeBody? : List Char → Option (List Char × List Char)
  | [] => none
  | c :: rest =>
    if c = '"' then some ([], rest)
    else if c.toNat < 0x20 then none
    else if c = '\\' then
      match rest with
      | [] => none
      | d :: rest =>
        if d.toNat < 0x20 then none else (takeBody? rest).map fun r => (c :: d :: r.1, r.2)
    else (takeBody? rest).map fun r => (c :: r.1, r.2)

/-- The string whose opening quote has been passed, and what follows it. -/
def takeString? (cs : List Char) : Option (String × List Char) := do
  let (body, rest) ← takeBody? cs
  match Json.unescapeChars body with
  | .ok text => some (String.ofList text, rest)
  | .error _ => none

/-- The escapes of a body have the right form; surrogates need not be paired. -/
def escapesInOrder : List Char → Bool
  | [] => true
  | c :: rest =>
    if c ≠ '\\' then escapesInOrder rest
    else
      match rest with
      | [] => false
      | e :: rest =>
        if e = 'u' then
          match rest with
          | p :: q :: r :: s :: rest => (Json.unit? p q r s).isSome && escapesInOrder rest
          | _ => false
        else (Json.shortEscape? e).isSome && escapesInOrder rest

/-- What follows a string whose content does not matter. -/
def ignoreString? (cs : List Char) : Option (List Char) := do
  let (body, rest) ← takeBody? cs
  if escapesInOrder body then some rest else none

/-! ### Numbers -/

open Decimal (isDigit)

/-- A number as it is written: digits of the integer and of the fraction, and the exponent. -/
structure NumberText where
  negative : Bool
  whole : List Char
  fraction : Option (List Char)
  exponent : Option (Bool × List Char)

/-- A number, and what follows it. The integer has no leading zero, and there are digits after a
point and in an exponent. -/
def takeNumberText? (cs : List Char) : Option (NumberText × List Char) := do
  let (negative, cs) := match cs with
    | '-' :: rest => (true, rest)
    | _ => (false, cs)
  let whole := cs.takeWhile isDigit
  if whole.isEmpty || (whole.head? == some '0' && whole.length != 1) then none
  let cs := cs.dropWhile isDigit
  let (fraction, cs) := match cs with
    | '.' :: rest => (some (rest.takeWhile isDigit), rest.dropWhile isDigit)
    | _ => (none, cs)
  if fraction == some [] then none
  match cs with
  | c :: rest =>
    if c = 'e' ∨ c = 'E' then
      let (up, rest) := match rest with
        | '-' :: rest => (false, rest)
        | '+' :: rest => (true, rest)
        | _ => (true, rest)
      let digits := rest.takeWhile isDigit
      if digits.isEmpty then none
      else some (⟨negative, whole, fraction, some (up, digits)⟩, rest.dropWhile isDigit)
    else some (⟨negative, whole, fraction, none⟩, cs)
  | [] => some (⟨negative, whole, fraction, none⟩, cs)

/-- The greatest natural of 64 bits. -/
def maxNatural : Nat := 0xFFFFFFFFFFFFFFFF

/-- Digits taken into a significand of 64 bits as long as it does not overflow, and those left. -/
def fill (significand : Nat) : List Char → Nat × List Char
  | [] => (significand, [])
  | c :: rest =>
    let next := significand * 10 + (c.toNat - 48)
    if next ≤ maxNatural then fill next rest else (significand, c :: rest)

def mulDouble (x y : Double) : Double :=
  if x.isFinite then Double.ofSigned x.negative (x.absRat * y.absRat) else x

def divDouble (x y : Double) : Double := Double.ofSigned x.negative (x.absRat / y.absRat)

/-- Divides by powers of ten, in steps that a double can hold. -/
def scaleDown : Nat → Double → Nat → Double
  | 0, x, _ => x
  | rounds + 1, x, n =>
    if n ≤ 308 then divDouble x (Decimal.scaled false 1 n)
    else if x.magnitude = 0 then x
    else scaleDown rounds (divDouble x (Decimal.scaled false 1 308)) (n - 308)

/-- The double of a significand and a power of ten; there is none beyond the range. -/
def assemble? (negative : Bool) (significand : Nat) (e : Int) : Option Double :=
  let x := Double.ofInt significand
  let signed (y : Double) : Double := if negative then y.neg else y
  if e < 0 then some (signed (scaleDown 8 x (min 2000 (-e).toNat)))
  else if 308 < e then (if significand = 0 then some (signed x) else none)
  else
    let y := mulDouble x (Decimal.scaled false 1 e)
    if y.isInfinite then none else some (signed y)

/-- The double of a number that is not an integer of 64 bits. -/
def realOf? (n : NumberText) : Option Double :=
  let (significand, beyond) := fill 0 n.whole
  let (significand, e) :=
    if beyond.isEmpty then
      let digits := n.fraction.getD []
      let (s, left) := fill significand digits
      (s, -((digits.length - left.length : Nat) : Int))
    else
      match n.fraction with
      | none => (significand, (beyond.length : Int))
      | some digits =>
        let (s, left) := fill significand digits
        (s, (beyond.length : Int) - ((digits.length - left.length : Nat) : Int))
  match n.exponent with
  | none => assemble? n.negative significand e
  | some (up, digits) =>
    let power := Decimal.digitsValue digits
    if power ≤ 2147483647 then assemble? n.negative significand (if up then e + power else e - power)
    else if up ∧ significand ≠ 0 then none
    else some (Double.ofMagnitude n.negative 0)

/-- The number of a text: integers of 64 bits are exact, and minus zero is a double. -/
def numberOf? (n : NumberText) : Option Number :=
  let value := Decimal.digitsValue n.whole
  if n.fraction.isNone ∧ n.exponent.isNone ∧ value ≤ maxNatural then
    if !n.negative then some (.natural (UInt64.ofNat value))
    else if 0 < value ∧ value ≤ 0x8000000000000000 then some (.negative (Int64.ofInt (-(value : Int))))
    else some (.real (Double.ofInt value).neg)
  else (realOf? n).map .real

def takeNumber? (cs : List Char) : Option (Number × List Char) := do
  let (n, rest) ← takeNumberText? cs
  some (← numberOf? n, rest)

/-! ### Values that do not matter -/

mutual

def ignoreValue? : Nat → List Char → Option (List Char)
  | 0, _ => none
  | rounds + 1, cs =>
    match skipBlanks cs with
    | 'n' :: rest => takeWord? "ull" rest
    | 't' :: rest => takeWord? "rue" rest
    | 'f' :: rest => takeWord? "alse" rest
    | '"' :: rest => ignoreString? rest
    | '[' :: rest =>
      match skipBlanks rest with
      | ']' :: rest => some rest
      | rest => ignoreItems? rounds rest
    | '\x7b' :: rest =>
      match skipBlanks rest with
      | '\x7d' :: rest => some rest
      | rest => ignoreEntries? rounds rest
    | cs => (takeNumberText? cs).map (·.2)

def ignoreItems? : Nat → List Char → Option (List Char)
  | 0, _ => none
  | rounds + 1, cs => do
    let rest ← ignoreValue? rounds cs
    match skipBlanks rest with
    | ']' :: rest => some rest
    | ',' :: rest => ignoreItems? rounds rest
    | _ => none

def ignoreEntries? : Nat → List Char → Option (List Char)
  | 0, _ => none
  | rounds + 1, cs =>
    match skipBlanks cs with
    | '"' :: rest => do
      let rest ← ignoreString? rest
      match skipBlanks rest with
      | ':' :: rest =>
        let rest ← ignoreValue? rounds rest
        match skipBlanks rest with
        | '\x7d' :: rest => some rest
        | ',' :: rest => ignoreEntries? rounds rest
        | _ => none
      | _ => none
    | _ => none

end

end WireShapes.Source
