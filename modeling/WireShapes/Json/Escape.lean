import WireShapes.Text.Quoted

/-!
The body of a JSON string literal.

* `escape`: quotes, backslashes and control characters are written as escapes
* `unescape`: reads every escape, and joins a pair of surrogates into one character
* `EscapeError.message`: why a body denotes no text
-/

namespace WireShapes.Json

/-- Why the body of a literal denotes no text. -/
inductive EscapeError
  /-- The body ends inside an escape. -/
  | truncated
  | unknown (c : Char)
  /-- Four characters that are not all hexadecimal digits. -/
  | notHex (digits : List Char)
  /-- A surrogate without its partner, and what stands in the place of the partner. -/
  | surrogate (unit : Nat) (follower : Option Nat)
deriving DecidableEq, Repr

/-- An escape of four hexadecimal digits. -/
def unitEscape (unit : Nat) : List Char := '\\' :: 'u' :: Text.hex4 unit

def EscapeError.message : EscapeError → String
  | truncated => "escape sequence runs past the end of the string"
  | unknown c => s!"invalid escape character `{c}`"
  | notHex digits => s!"invalid unicode escape `{String.ofList digits}`"
  | surrogate unit follower =>
    let low := match follower with
      | some f => unitEscape f
      | none => []
    s!"unpaired surrogate in unicode escape `{String.ofList (unitEscape unit ++ low)}`"

/-- How one character is written in a literal. -/
def escapeChar (c : Char) : List Char :=
  if c = '"' then ['\\', '"']
  else if c = '\\' then ['\\', '\\']
  else if c = '\x08' then ['\\', 'b']
  else if c = '\x0c' then ['\\', 'f']
  else if c = '\n' then ['\\', 'n']
  else if c = '\r' then ['\\', 'r']
  else if c = '\t' then ['\\', 't']
  else if c.toNat < 0x20 then unitEscape c.toNat
  else [c]

/-- The body of the literal that denotes the text. -/
def escape (s : String) : String := String.ofList (s.toList.flatMap escapeChar)

def shortEscape? (c : Char) : Option Char :=
  if c = '"' ∨ c = '\\' ∨ c = '/' then some c
  else if c = 'b' then some '\x08'
  else if c = 'f' then some '\x0c'
  else if c = 'n' then some '\n'
  else if c = 'r' then some '\r'
  else if c = 't' then some '\t'
  else none

/-- The value of a hexadecimal digit of either case. -/
def hexValue? (c : Char) : Option Nat :=
  if 48 ≤ c.toNat ∧ c.toNat ≤ 57 then some (c.toNat - 48)
  else if 65 ≤ c.toNat ∧ c.toNat ≤ 70 then some (c.toNat - 55)
  else if 97 ≤ c.toNat ∧ c.toNat ≤ 102 then some (c.toNat - 87)
  else none

/-- The code unit of four hexadecimal digits. -/
def unit? (a b c d : Char) : Option Nat := do
  let p ← hexValue? a
  let q ← hexValue? b
  let r ← hexValue? c
  let s ← hexValue? d
  some (p * 4096 + q * 256 + r * 16 + s)

def isHighSurrogate (u : Nat) : Bool := 0xD800 ≤ u && u < 0xDC00

def isLowSurrogate (u : Nat) : Bool := 0xDC00 ≤ u && u < 0xE000

def joinSurrogates (high low : Nat) : Char :=
  Char.ofNat (0x10000 + (high - 0xD800) * 1024 + (low - 0xDC00))

/-- The characters that the body of a literal denotes. -/
def unescapeChars : List Char → Except EscapeError (List Char)
  | [] => .ok []
  | c :: rest =>
    if c ≠ '\\' then (unescapeChars rest).map (c :: ·)
    else
      match rest with
      | [] => .error .truncated
      | e :: rest =>
        if e ≠ 'u' then
          match shortEscape? e with
          | some s => (unescapeChars rest).map (s :: ·)
          | none => .error (.unknown e)
        else
          match rest with
          | p :: q :: r :: s :: rest =>
            match unit? p q r s with
            | none => .error (.notHex [p, q, r, s])
            | some high =>
              if isLowSurrogate high then .error (.surrogate high none)
              else if !isHighSurrogate high then (unescapeChars rest).map (Char.ofNat high :: ·)
              else
                match rest with
                | '\\' :: 'u' :: p :: q :: r :: s :: rest =>
                  match unit? p q r s with
                  | none => .error (.notHex [p, q, r, s])
                  | some low =>
                    if isLowSurrogate low then
                      (unescapeChars rest).map (joinSurrogates high low :: ·)
                    else .error (.surrogate high (some low))
                | '\\' :: 'u' :: _ => .error .truncated
                | _ => .error (.surrogate high none)
          | _ => .error .truncated

def unescape (s : String) : Except EscapeError String :=
  (unescapeChars s.toList).map String.ofList

end WireShapes.Json
