import WireShapes.Json.Token

/-!
The tokens of a JSON text.

* `tokenize`: the tokens of a sequence of bytes in order, ended by the first failure if there is one;
  values that follow a complete value are read too
* `step`: one token, given what is open around it
* `Frame`: what may follow in the innermost open container
-/

namespace WireShapes.Json

/-- A place in the text: an offset and the bytes from there on. -/
structure Cursor where
  offset : Nat
  rest : List UInt8
deriving DecidableEq, Repr

/-- What may follow in an open container. -/
inductive Frame
  | arrayStart
  | arrayRest
  | objectStart
  | objectRest
  | fieldValue
deriving DecidableEq, Repr

/-- A token, the containers open after it and the place after it. -/
structure Step where
  token : Token
  frames : List Frame
  cursor : Cursor
deriving DecidableEq, Repr

namespace Cursor

/-- The place `n` bytes on. -/
def advance (c : Cursor) (n : Nat) : Cursor := ⟨c.offset + n, c.rest.drop n⟩

/-- The place at the given rest of the bytes. -/
def moveTo (c : Cursor) (rest : List UInt8) : Cursor :=
  ⟨c.offset + (c.rest.length - rest.length), rest⟩

def isBlank (b : UInt8) : Bool := b == 0x20 || b == 0x09 || b == 0x0D || b == 0x0A

/-- The next place that is not blank. -/
def skipBlanks (c : Cursor) : Cursor := c.moveTo (c.rest.dropWhile isBlank)

def fail {α : Type} (c : Cursor) (fault : Fault) : Except ReadError α :=
  .error (.locate c.offset fault)

/-- Something else than wanted stands here, or nothing at all. -/
def unexpected {α : Type} (c : Cursor) (wanted : String) : Except ReadError α :=
  match c.rest with
  | b :: _ => c.fail (.unexpected b wanted)
  | [] => c.fail .ended

end Cursor

def wordBytes (word : String) : List UInt8 := Utf8.encode word

def readWord (c : Cursor) (word : String) : Except ReadError Cursor :=
  if (wordBytes word).isPrefixOf c.rest then .ok (c.advance (wordBytes word).length)
  else c.fail (.literal word)

/-- The length of the body of a string up to its closing quote. A backslash takes the byte after it
along, whether there is one or not. -/
def bodyLength (offset : Nat) : List UInt8 → Except ReadError Nat
  | [] => .error (.locate offset .ended)
  | b :: rest =>
    if b = 0x22 then .ok 0
    else if b = 0x5C then
      match rest with
      | [] => .error (.locate (offset + 2) .ended)
      | _ :: rest => (bodyLength (offset + 2) rest).map (· + 2)
    else if b < 0x20 then .error (.locate offset (.control b))
    else (bodyLength (offset + 1) rest).map (· + 1)

/-- The body of the string whose opening quote stands here, and the place after it. -/
def readString (c : Cursor) : Except ReadError (String × Cursor) := do
  let start := c.advance 1
  let n ← bodyLength start.offset start.rest
  match Utf8.decode (start.rest.take n) with
  | .ok raw => .ok (raw, start.advance (n + 1))
  | .error _ => start.fail .utf8

/-- Bytes that continue a number. -/
def isNumberByte (b : UInt8) : Bool :=
  b == 0x2D || b == 0x2B || b == 0x2E || b == 0x65 || b == 0x45 || (0x30 ≤ b && b ≤ 0x39)

/-- The number of a text: an integer that fits has its exact value, everything else is rounded. -/
def number? (cs : List Char) : Option Number :=
  let real := (Decimal.readDouble? cs).map Number.real
  if cs.any fun c => c == '.' || c == 'e' || c == 'E' then real
  else if cs.head? == some '-' then
    match Decimal.readInt? cs with
    | some n => if IntWidth.w64.fits n then some (.negative (Int64.ofInt n)) else real
    | none => real
  else
    match Decimal.readNat? cs with
    | some n => if n < 0x10000000000000000 then some (.natural (UInt64.ofNat n)) else real
    | none => real

def readNumber (c : Cursor) : Except ReadError (Number × Cursor) :=
  let run := c.rest.takeWhile isNumberByte
  match number? (run.map fun b => Char.ofNat b.toNat) with
  | some n => .ok (n, c.moveTo (c.rest.dropWhile isNumberByte))
  | none => c.fail .number

/-- The token of a value, or of the start of one, inside the given containers. -/
def readValue (frames : List Frame) (c : Cursor) : Except ReadError Step :=
  let c := c.skipBlanks
  match c.rest with
  | [] => c.unexpected "a JSON value"
  | b :: _ =>
    if b = 0x7B then
      if maxDepth ≤ frames.length then c.fail .depth
      else .ok ⟨⟨c.offset, .startObject⟩, .objectStart :: frames, c.advance 1⟩
    else if b = 0x5B then
      if maxDepth ≤ frames.length then c.fail .depth
      else .ok ⟨⟨c.offset, .startArray⟩, .arrayStart :: frames, c.advance 1⟩
    else if b = 0x22 then
      (readString c).map fun r => ⟨⟨c.offset, .string r.1⟩, frames, r.2⟩
    else if b = 0x74 then
      (readWord c "true").map fun next => ⟨⟨c.offset, .bool true⟩, frames, next⟩
    else if b = 0x66 then
      (readWord c "false").map fun next => ⟨⟨c.offset, .bool false⟩, frames, next⟩
    else if b = 0x6E then
      (readWord c "null").map fun next => ⟨⟨c.offset, .null⟩, frames, next⟩
    else if b = 0x2D ∨ (0x30 ≤ b ∧ b ≤ 0x39) then
      (readNumber c).map fun r => ⟨⟨c.offset, .number r.1⟩, frames, r.2⟩
    else c.unexpected "a JSON value"

/-- The token of a key, together with the colon after it. -/
def readKey (outer : List Frame) (c : Cursor) : Except ReadError Step :=
  match c.rest with
  | 0x22 :: _ => do
    let (raw, next) ← readString c
    let next := next.skipBlanks
    match next.rest with
    | 0x3A :: _ => .ok ⟨⟨c.offset, .key raw⟩, .fieldValue :: outer, next.advance 1⟩
    | _ => next.unexpected "`:`"
  | _ => c.unexpected "an object key"

/-- The next token, if the text does not end between two values. -/
def step (frames : List Frame) (c : Cursor) : Option (Except ReadError Step) :=
  let c := c.skipBlanks
  match frames with
  | [] => if c.rest.isEmpty then none else some (readValue [] c)
  | .arrayStart :: outer =>
    some <| match c.rest with
      | 0x5D :: _ => .ok ⟨⟨c.offset, .endArray⟩, outer, c.advance 1⟩
      | _ => readValue (.arrayRest :: outer) c
  | .arrayRest :: outer =>
    some <| match c.rest with
      | 0x5D :: _ => .ok ⟨⟨c.offset, .endArray⟩, outer, c.advance 1⟩
      | 0x2C :: _ => readValue (.arrayRest :: outer) (c.advance 1)
      | _ => c.unexpected "`,` or `]`"
  | .objectStart :: outer =>
    some <| match c.rest with
      | 0x7D :: _ => .ok ⟨⟨c.offset, .endObject⟩, outer, c.advance 1⟩
      | _ => readKey outer c
  | .objectRest :: outer =>
    some <| match c.rest with
      | 0x7D :: _ => .ok ⟨⟨c.offset, .endObject⟩, outer, c.advance 1⟩
      | 0x2C :: _ => readKey outer (c.advance 1).skipBlanks
      | _ => c.unexpected "`,` or `\x7d`"
  | .fieldValue :: outer => some (readValue (.objectRest :: outer) c)

/-- Tokens in order; after a failure there is nothing more. -/
abbrev Tokens := List (Except ReadError Token)

/-- The tokens from a place on. Every token takes at least one byte, so as many rounds as there are
bytes, and one to see the end, are enough. -/
def tokensFrom : Nat → List Frame → Cursor → Tokens
  | 0, _, _ => []
  | rounds + 1, frames, c =>
    match step frames c with
    | none => []
    | some (.error e) => [.error e]
    | some (.ok s) => .ok s.token :: tokensFrom rounds s.frames s.cursor

def tokenize (bytes : List UInt8) : Tokens := tokensFrom (bytes.length + 1) [] ⟨0, bytes⟩

end WireShapes.Json
