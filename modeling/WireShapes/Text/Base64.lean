import WireShapes.Text.Utf8

/-!
Base64 with the standard alphabet.

* `encode`: three bytes become four symbols, and `=` fills the last group
* `decode`: reads nothing else, that is, padding is required and unused bits are zero
* `Malformed.message`: the wording of a refusal
-/

namespace WireShapes.Base64

/-- Why a text is not the base64 form of anything; positions and lengths count bytes. -/
inductive Malformed
  | symbol (index : Nat) (byte : UInt8)
  | length (n : Nat)
  | lastSymbol (index : Nat) (byte : UInt8)
  | padding
deriving DecidableEq, Repr

def Malformed.message : Malformed → String
  | .symbol i b => s!"Invalid symbol {b.toNat}, offset {i}."
  | .length n => s!"Invalid input length: {n}"
  | .lastSymbol i b => s!"Invalid last symbol {b.toNat}, offset {i}."
  | .padding => "Invalid padding"

/-- The byte `=`. -/
def pad : UInt8 := 0x3D

/-- The symbol of six bits. -/
def symbol (n : UInt8) : UInt8 :=
  if n < 26 then 0x41 + n
  else if n < 52 then 0x47 + n
  else if n < 62 then n - 4
  else if n = 62 then 0x2B
  else 0x2F

/-- The six bits of a symbol. -/
def value? (b : UInt8) : Option UInt8 :=
  if 0x41 ≤ b && b ≤ 0x5A then some (b - 0x41)
  else if 0x61 ≤ b && b ≤ 0x7A then some (b - 0x47)
  else if 0x30 ≤ b && b ≤ 0x39 then some (b + 4)
  else if b = 0x2B then some 62
  else if b = 0x2F then some 63
  else none

def encodeBytes : List UInt8 → List UInt8
  | [] => []
  | [a] => [symbol (a / 4), symbol (a % 4 * 16), pad, pad]
  | [a, b] => [symbol (a / 4), symbol (a % 4 * 16 + b / 16), symbol (b % 16 * 4), pad]
  | a :: b :: c :: rest =>
    symbol (a / 4) :: symbol (a % 4 * 16 + b / 16) :: symbol (b % 16 * 4 + c / 64)
      :: symbol (c % 64) :: encodeBytes rest

/-- The six bits of the symbol at `index`. -/
def valueAt (index : Nat) (b : UInt8) : Except Malformed UInt8 :=
  match value? b with
  | some v => .ok v
  | none => .error (.symbol index b)

/-- The three bytes of four groups of six bits. -/
def joinFour (p q r s : UInt8) : List UInt8 :=
  [p * 4 + q / 16, q % 16 * 16 + r / 4, r % 4 * 64 + s]

/-- The bytes of a group that two pads fill. -/
def lastOne (index : Nat) (a b : UInt8) : Except Malformed (List UInt8) := do
  let p ← valueAt index a
  let q ← valueAt (index + 1) b
  if q % 16 = 0 then .ok [p * 4 + q / 16] else .error (.lastSymbol (index + 1) b)

/-- The bytes of a group that one pad fills. -/
def lastTwo (index : Nat) (a b c : UInt8) : Except Malformed (List UInt8) := do
  let p ← valueAt index a
  let q ← valueAt (index + 1) b
  let r ← valueAt (index + 2) c
  if r % 4 = 0 then .ok [p * 4 + q / 16, q % 16 * 16 + r / 4]
  else .error (.lastSymbol (index + 2) c)

/-- The bytes of the last group, at most four symbols; a short group lacks its padding, but a wrong
symbol in it is reported first. -/
def decodeLast (index : Nat) : List UInt8 → Except Malformed (List UInt8)
  | [] => .ok []
  | [a] => do
    let _ ← valueAt index a
    .error (.length (index + 1))
  | [a, b] => do
    let _ ← valueAt index a
    let _ ← valueAt (index + 1) b
    .error .padding
  | [a, b, c] => do
    let _ ← valueAt index a
    let _ ← valueAt (index + 1) b
    if c = pad then .error .padding
    let _ ← valueAt (index + 2) c
    .error .padding
  | a :: b :: c :: d :: _ =>
    if c = pad then
      if d = pad then lastOne index a b
      else do
        let _ ← valueAt index a
        let _ ← valueAt (index + 1) b
        .error (.symbol (index + 2) pad)
    else if d = pad then lastTwo index a b c
    else do
      let p ← valueAt index a
      let q ← valueAt (index + 1) b
      let r ← valueAt (index + 2) c
      let s ← valueAt (index + 3) d
      .ok (joinFour p q r s)

/-- The bytes of the groups from `index` on; only the last group may be padded. -/
def decodeGroups (index : Nat) : List UInt8 → Except Malformed (List UInt8)
  | a :: b :: c :: d :: e :: rest => do
    let p ← valueAt index a
    let q ← valueAt (index + 1) b
    let r ← valueAt (index + 2) c
    let s ← valueAt (index + 3) d
    let more ← decodeGroups (index + 4) (e :: rest)
    .ok (joinFour p q r s ++ more)
  | group => decodeLast index group

/-- A single symbol too many that is neither symbol nor pad is reported before all else. -/
def strayLast (bytes : List UInt8) : Except Malformed Unit :=
  match bytes.getLast? with
  | some b =>
    if bytes.length % 4 = 1 && b != pad && (value? b).isNone then
      .error (.symbol (bytes.length - 1) b)
    else .ok ()
  | none => .ok ()

def decodeBytes (bytes : List UInt8) : Except Malformed (List UInt8) := do
  strayLast bytes
  decodeGroups 0 bytes

/-- The base64 form of a sequence of bytes. -/
def encode (bytes : List UInt8) : String :=
  String.ofList ((encodeBytes bytes).map fun b => Char.ofNat b.toNat)

def decode (s : String) : Except Malformed (List UInt8) :=
  decodeBytes (Utf8.encode s)

end WireShapes.Base64
