import WireShapes.Json.Reader
import WireShapes.Schema.Build

/-!
Drafts from JSON.

* `read`: the draft that the tokens in front stand for; `null` reads as nothing
* `readMembers`: the entries of an object; keys that name no member are passed over
* `readVariant`: the entries of a union, of which one may count
* `decode`: the value that a text stands for, and the tokens after it
* `readBody`: the members in the body of a message

A client finishes every structure and union as it closes, a server leaves the checks for later. A
client drops `null` from lists and takes a union without a known variant; a server refuses both.
-/

namespace WireShapes.Schema

open Json

/-- An integer of 32 bits. -/
def readInteger : Reader (Option Int) := do
  match ← Reader.number with
  | none => return none
  | some x =>
    match IntWidth.w32.ofNumber x with
    | .ok k => return some k
    | .error e => Reader.failContent (.number IntWidth.w32.typeName e)

/-- A container opens, or is absent. -/
def readOpening (start : Lexeme) (what : Wanted) : Reader Bool := do
  let t ← Reader.token
  if t.lexeme = start then return true
  else if t.lexeme = .null then return false
  else Reader.notWanted t what

/-- The member that a key names. -/
def memberOf? {ν : Type} (members : List (Member ν)) (key : String) : Option (Member ν) :=
  members.find? (·.name == key)

variable {ν : Type} (S : Schema ν) (F : Flavour)

/-- The members that are written into documents. -/
def documentMembers (n : ν) : List (Member ν) :=
  (S.members n).filter fun m => decide (m.place ≠ .stream)

/-- A structure or a union that is complete. -/
def finish (n : ν) (d : Draft) : Reader Draft :=
  match F with
  | .client =>
    match S.build F n d with
    | .ok v => return .built v
    | .error e => Reader.failContent (.unbuilt (S.name n) e.message)
  | _ => return d

/-- What an item of a list adds to it. -/
def keepItem (item : Option Draft) (rest : List Draft) : List Draft :=
  match item with
  | some d => d :: rest
  | none => rest

/-- An item that is absent, which only a client takes. -/
def passAbsent (item : Option Draft) : Reader Unit :=
  match item, F with
  | none, .server => Reader.failContent .nullElement
  | none, .internal => Reader.failContent .nullElement
  | _, _ => return ()

def noVariant : Reader Draft :=
  match F with
  | .client => return .built .unknown
  | _ => Reader.failContent .noVariant

mutual

/-- A draft of a shape. -/
def readAt : Nat → ν → Reader (Option Draft)
  | 0, _ => Reader.failWith .ended
  | rounds + 1, n => do
    match S.shape n with
    | .text _ => return (← Reader.string).map .text
    | .enumeration _ => return (← Reader.string).map .text
    | .integer _ => return (← readInteger).map .integer
    | .boolean => return (← Reader.bool).map .boolean
    | .blob => return (← Reader.blob).map .blob
    | .stream => return none
    | .list item =>
      if ← readOpening .startArray .arrayOrNull then
        return some (.list (← readItems rounds item))
      else return none
    | .struct _ =>
      if ← readOpening .startObject .objectOrNull then
        let fields ← readMembers rounds (S.documentMembers n) []
        return some (← S.finish F n (.struct fields))
      else return none
    | .union members =>
      if ← readOpening .startObject .objectOrNull then
        match ← readVariant rounds members none with
        | some (name, d) => return some (← S.finish F n (.variant name d))
        | none => return some (← noVariant F)
      else return none

/-- The items of an open array and its end. -/
def readItems : Nat → ν → Reader (List Draft)
  | 0, _ => Reader.failWith .ended
  | rounds + 1, item => do
    match ← Reader.peek with
    | some .endArray =>
      let _ ← Reader.next
      return []
    | _ =>
      let d ← readAt rounds item
      passAbsent F d
      return keepItem d (← readItems rounds item)

/-- The entries of an open object after the fields in hand, and its end. -/
def readMembers : Nat → List (Member ν) → List (String × Draft) → Reader (List (String × Draft))
  | 0, _, _ => Reader.failWith .ended
  | rounds + 1, members, fields => do
    let t ← Reader.token
    match t.lexeme with
    | .endObject => return fields
    | .key raw =>
      let key ← Reader.unescaped raw
      match memberOf? members key with
      | some m =>
        let d ← readAt rounds m.target
        readMembers rounds members (setField fields key d)
      | none =>
        Reader.skipValue
        readMembers rounds members fields
    | _ => Reader.notWanted t .keyOrEnd

/-- The entries of an open union after the variant in hand, and its end. Entries whose value is
`null` are passed over, whatever their key. -/
def readVariant : Nat → List (Member ν) → Option (String × Draft) → Reader (Option (String × Draft))
  | 0, _, _ => Reader.failWith .ended
  | rounds + 1, members, found => do
    let t ← Reader.token
    match t.lexeme with
    | .endObject => return found
    | .key raw =>
      match ← Reader.peek with
      | some .null =>
        let _ ← Reader.next
        readVariant rounds members found
      | _ =>
        let key ← Reader.unescaped raw
        match memberOf? members key with
        | some m =>
          if found.isSome then Reader.failContent .mixedVariants
          match ← readAt rounds m.target with
          | some d => readVariant rounds members (some (key, d))
          | none => Reader.failContent (.nullVariant key)
        | none =>
          Reader.skipValue
          readVariant rounds members found
    | _ => Reader.notWanted t .keyOrEnd

end

/-- The draft of a shape that the tokens in front stand for. -/
def read (n : ν) : Reader (Option Draft) := do
  S.readAt F (← Reader.rounds) n

/-- Why a text stands for no value. -/
inductive DecodeError
  | unreadable (cause : ReadError)
  | invalid (cause : Violation)
deriving DecidableEq, Repr

/-- The value of a shape at the start of a text, read and checked, and the tokens after it. -/
def decode (n : ν) (text : List UInt8) : Except DecodeError (Option Value × Tokens) :=
  match S.read F n (tokenize text) with
  | (.error e, _) => .error (.unreadable e)
  | (.ok none, rest) => .ok (none, rest)
  | (.ok (some d), rest) =>
    match S.build F n d with
    | .ok v => .ok (some v, rest)
    | .error e => .error (.invalid e)

/-- Nothing is left. -/
def readEnd : Reader Unit := fun tokens =>
  if tokens.isEmpty then (.ok (), tokens) else (.error (.ofContent .trailing), tokens)

/-- The members of an object and the end of the text. -/
def readObject (members : List (Member ν)) (fields : List (String × Draft)) :
    Reader (List (String × Draft)) := do
  Reader.expectObject
  let fields ← S.readMembers F (← Reader.rounds) members fields
  readEnd
  return fields

/-- The bytes of an object without entries. -/
def emptyObject : List UInt8 := Utf8.encode "\x7b\x7d"

/-- The fields after the members in a body are read; an empty body has none. -/
def readBody (members : List (Member ν)) (body : List UInt8) (fields : List (String × Draft)) :
    Except ReadError (List (String × Draft)) :=
  (S.readObject F members fields (tokenize (if body.isEmpty then emptyObject else body))).1

end WireShapes.Schema
