/-!
UTF-8.

* `encode`: the bytes of a text
* `decode`: the text of a sequence of bytes, or where and why it is none
* `Malformed.message`: the wording of that
-/

namespace WireShapes.Utf8

def encodeChars (cs : List Char) : List UInt8 := cs.flatMap String.utf8EncodeChar

def encode (s : String) : List UInt8 := encodeChars s.toList

/-- Why a sequence of bytes is not the encoding of a text. -/
inductive Malformed
  /-- From `index` on, `length` bytes can start no character. -/
  | invalid (index length : Nat)
  /-- The bytes end inside the character that starts at `index`. -/
  | truncated (index : Nat)
deriving DecidableEq, Repr

def Malformed.message : Malformed → String
  | .invalid i n => s!"invalid utf-8 sequence of {n} bytes from index {i}"
  | .truncated i => s!"incomplete utf-8 byte sequence from index {i}"

def isContinuation (b : UInt8) : Bool := 0x80 ≤ b && b ≤ 0xBF

/-- The second byte fits the first byte of a character of three bytes: no longer form of a smaller
character, and no surrogate. -/
def fitsThree (a b : UInt8) : Bool :=
  isContinuation b && (a != 0xE0 || 0xA0 ≤ b) && (a != 0xED || b ≤ 0x9F)

/-- The second byte fits the first byte of a character of four bytes: no longer form of a smaller
character, and nothing beyond the last code point. -/
def fitsFour (a b : UInt8) : Bool :=
  isContinuation b && (a != 0xF0 || 0x90 ≤ b) && (a != 0xF4 || b ≤ 0x8F)

def char2 (a b : UInt8) : Char :=
  Char.ofNat ((a.toNat - 0xC0) * 64 + (b.toNat - 0x80))

def char3 (a b c : UInt8) : Char :=
  Char.ofNat ((a.toNat - 0xE0) * 4096 + (b.toNat - 0x80) * 64 + (c.toNat - 0x80))

def char4 (a b c d : UInt8) : Char :=
  Char.ofNat ((a.toNat - 0xF0) * 262144 + (b.toNat - 0x80) * 4096 + (c.toNat - 0x80) * 64
    + (d.toNat - 0x80))

/-- Reads characters from the bytes on, the first of which stands at `index`. -/
def decodeFrom (index : Nat) : List UInt8 → Except Malformed (List Char)
  | [] => .ok []
  | a :: rest =>
    if a < 0x80 then
      (decodeFrom (index + 1) rest).map (Char.ofNat a.toNat :: ·)
    else if 0xC2 ≤ a && a ≤ 0xDF then
      match rest with
      | [] => .error (.truncated index)
      | b :: rest =>
        if isContinuation b then (decodeFrom (index + 2) rest).map (char2 a b :: ·)
        else .error (.invalid index 1)
    else if 0xE0 ≤ a && a ≤ 0xEF then
      match rest with
      | [] => .error (.truncated index)
      | [b] => if fitsThree a b then .error (.truncated index) else .error (.invalid index 1)
      | b :: c :: rest =>
        if !fitsThree a b then .error (.invalid index 1)
        else if !isContinuation c then .error (.invalid index 2)
        else (decodeFrom (index + 3) rest).map (char3 a b c :: ·)
    else if 0xF0 ≤ a && a ≤ 0xF4 then
      match rest with
      | [] => .error (.truncated index)
      | [b] => if fitsFour a b then .error (.truncated index) else .error (.invalid index 1)
      | [b, c] =>
        if !fitsFour a b then .error (.invalid index 1)
        else if isContinuation c then .error (.truncated index)
        else .error (.invalid index 2)
      | b :: c :: d :: rest =>
        if !fitsFour a b then .error (.invalid index 1)
        else if !isContinuation c then .error (.invalid index 2)
        else if !isContinuation d then .error (.invalid index 3)
        else (decodeFrom (index + 4) rest).map (char4 a b c d :: ·)
    else .error (.invalid index 1)

def decode (bytes : List UInt8) : Except Malformed String :=
  (decodeFrom 0 bytes).map String.ofList

end WireShapes.Utf8
