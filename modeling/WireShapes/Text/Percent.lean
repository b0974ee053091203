import WireShapes.Text.Utf8

/-!
Percent-encoding: a byte that is not an unreserved character is written as a percent sign and two
hexadecimal digits.

* `encode`: letters, digits and `-`, `.`, `_`, `~` stand for themselves
* `decode`: a percent sign that no two hexadecimal digits follow stands for itself
-/

namespace WireShapes.Percent

/-- Bytes of letters, digits, hyphen, full stop, underscore and tilde. -/
def isUnreserved (b : UInt8) : Bool :=
  (0x30 ≤ b && b ≤ 0x39) || (0x41 ≤ b && b ≤ 0x5A) || (0x61 ≤ b && b ≤ 0x7A)
    || b == 0x2D || b == 0x2E || b == 0x5F || b == 0x7E

/-- The capital hexadecimal digit of a number below sixteen. -/
def digitByte (n : UInt8) : UInt8 := if n < 10 then 0x30 + n else 0x37 + n

/-- The value of a hexadecimal digit of either case. -/
def digitValue? (b : UInt8) : Option UInt8 :=
  if 0x30 ≤ b && b ≤ 0x39 then some (b - 0x30)
  else if 0x41 ≤ b && b ≤ 0x46 then some (b - 0x37)
  else if 0x61 ≤ b && b ≤ 0x66 then some (b - 0x57)
  else none

def encodeByte (b : UInt8) : List UInt8 :=
  if isUnreserved b then [b] else [0x25, digitByte (b / 16), digitByte (b % 16)]

def encodeBytes (bytes : List UInt8) : List UInt8 := bytes.flatMap encodeByte

/-- The bytes that a written form stands for. -/
def decodeBytes : List UInt8 → List UInt8
  | [] => []
  | [a] => [a]
  | [a, b] => [a, b]
  | a :: b :: c :: rest =>
    if a = 0x25 then
      match digitValue? b, digitValue? c with
      | some high, some low => (high * 16 + low) :: decodeBytes rest
      | _, _ => a :: decodeBytes (b :: c :: rest)
    else a :: decodeBytes (b :: c :: rest)

/-- The written form of a text. -/
def encode (s : String) : String :=
  String.ofList ((encodeBytes (Utf8.encode s)).map fun b => Char.ofNat b.toNat)

/-- The text that a written form stands for, unless its bytes encode none. -/
def decode (s : String) : Except Utf8.Malformed String :=
  Utf8.decode (decodeBytes (Utf8.encode s))

end WireShapes.Percent
