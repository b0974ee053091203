import WireShapes.Json.Document
import WireShapes.Json.Tokenizer

/-!
Readers of values over a row of tokens. A reader takes the tokens it looks at, also when it fails.

* `Reader`, `next`, `peek`: the tokens in hand
* `expectObject`, `expectArray`, `rawString`, `string`, `number`, `bool`, `blob`, `timestamp`: one
  token; `null` reads as nothing
* `document`: a whole value
* `skipValue`, `skipToEnd`: the same tokens, left unread
-/

namespace WireShapes.Json

/-- Reads from the tokens in front. -/
abbrev Reader := ExceptT ReadError (StateM Tokens)

namespace Reader

/-- Takes the next token; there is none at the end. -/
def next : Reader (Option Token) := fun tokens =>
  match tokens with
  | [] => (.ok none, [])
  | .ok t :: rest => (.ok (some t), rest)
  | .error e :: rest => (.error e, rest)

/-- The lexeme of the next token, which stays where it is. -/
def peek : Reader (Option Lexeme) := fun tokens =>
  match tokens with
  | .ok t :: _ => (.ok (some t.lexeme), tokens)
  | _ => (.ok none, tokens)

def failWith {α : Type} (e : ReadError) : Reader α := throw e

def failContent {α : Type} (fault : ContentFault) : Reader α := failWith (.ofContent fault)

/-- Takes the next token, which has to be there. -/
def token : Reader Token := do
  match ← next with
  | some t => return t
  | none => failWith .ended

/-- The token found is not the one wanted. -/
def notWanted {α : Type} (t : Token) (what : Wanted) : Reader α :=
  failWith (.locate t.offset (.content (.wanted what t.lexeme)))

def expectObject : Reader Unit := do
  let t ← token
  match t.lexeme with
  | .startObject => return ()
  | _ => notWanted t .object

def expectArray : Reader Unit := do
  let t ← token
  match t.lexeme with
  | .startArray => return ()
  | _ => notWanted t .array

/-- A string as it is written, and the place of its token. -/
def rawString : Reader (Option (Nat × String)) := do
  let t ← token
  match t.lexeme with
  | .null => return none
  | .string raw => return some (t.offset, raw)
  | _ => notWanted t .string

def unescaped (raw : String) : Reader String :=
  match unescape raw with
  | .ok text => return text
  | .error e => failWith ⟨.escape e, none⟩

def string : Reader (Option String) := do
  match ← rawString with
  | none => return none
  | some (_, raw) => return some (← unescaped raw)

/-- The value of a word for a number that is not finite. -/
def numberWord? (raw : String) : Option Double :=
  if raw = "NaN" then some Double.nan
  else if raw = "Infinity" then some (Double.infinity false)
  else if raw = "-Infinity" then some (Double.infinity true)
  else none

def number : Reader (Option Number) := do
  let t ← token
  match t.lexeme with
  | .null => return none
  | .number n => return some n
  | .string raw =>
    match numberWord? raw with
    | some x => return some (.real x)
    | none => failWith (.locate t.offset (.content (.numberWord raw)))
  | _ => notWanted t .number

def bool : Reader (Option Bool) := do
  let t ← token
  match t.lexeme with
  | .null => return none
  | .bool b => return some b
  | _ => notWanted t .bool

/-- Bytes in base64; the literal is taken as it is written. -/
def blob : Reader (Option (List UInt8)) := do
  match ← rawString with
  | none => return none
  | some (offset, raw) =>
    match Base64.decode raw with
    | .ok bytes => return some bytes
    | .error e => failWith (.locate offset (.content (.blob e)))

/-- A point in time: epoch seconds are numbers, the other formats are strings. -/
def timestamp (format : TimeFormat) : Reader (Option Instant) := do
  match format with
  | .epochSeconds =>
    match ← number with
    | none => return none
    | some n =>
      let x := n.toDouble
      if x.isFinite then return some (Instant.ofDouble x) else failContent .infiniteTimestamp
  | _ =>
    match ← string with
    | none => return none
    | some text =>
      match Instant.read text format with
      | .ok t => return some t
      | .error e => failContent (.timestamp e)

/-! ### Whole values -/

mutual

/-- A value that lies inside `depth` containers. -/
def documentAt : Nat → Nat → Reader Document
  | 0, _ => failWith .ended
  | rounds + 1, depth => do
    if maxDepth ≤ depth then failContent .documentDepth
    let t ← token
    match t.lexeme with
    | .null => return .null
    | .bool b => return .bool b
    | .number n => return .number n
    | .string raw => return .string (← unescaped raw)
    | .startArray => return .array (← documentItems rounds depth)
    | .startObject => return .object (← documentEntries rounds depth [])
    | _ => notWanted t .value

/-- The items of an open array and its end. -/
def documentItems : Nat → Nat → Reader (List Document)
  | 0, _ => failWith .ended
  | rounds + 1, depth => do
    match ← peek with
    | some .endArray =>
      let _ ← next
      return []
    | _ =>
      let item ← documentAt rounds (depth + 1)
      return item :: (← documentItems rounds depth)

/-- The entries of an open object after those in hand, and its end. -/
def documentEntries : Nat → Nat → List (String × Document) → Reader (List (String × Document))
  | 0, _, _ => failWith .ended
  | rounds + 1, depth, entries => do
    let t ← token
    match t.lexeme with
    | .endObject => return entries
    | .key raw =>
      let key ← unescaped raw
      let value ← documentAt rounds (depth + 1)
      documentEntries rounds depth (Entries.insert key value entries)
    | _ => notWanted t .keyOrEnd

end

/-- As many rounds as any reader of nested values can need for the tokens in hand: every second call
takes a token. -/
def rounds : Reader Nat := fun tokens => (.ok (2 * tokens.length + 2), tokens)

/-- A value of no particular shape. -/
def document : Reader Document := do
  documentAt (← rounds) 0

/-- The tokens after the point where as many containers as are open have been closed. -/
def skipTokens : Nat → Tokens → Except ReadError Unit × Tokens
  | 0, tokens => (.ok (), tokens)
  | _ + 1, [] => (.error .ended, [])
  | _ + 1, .error e :: rest => (.error e, rest)
  | n + 1, .ok t :: rest =>
    match t.lexeme with
    | .startArray => skipTokens (n + 2) rest
    | .startObject => skipTokens (n + 2) rest
    | .endArray => skipTokens n rest
    | .endObject => skipTokens n rest
    | _ => skipTokens (n + 1) rest

/-- Takes tokens until as many containers as are open have been closed. -/
def skipOpen (opened : Nat) : Reader Unit := fun tokens => skipTokens opened tokens

/-- Takes exactly the tokens of the next value. -/
def skipValue : Reader Unit := do
  let t ← token
  match t.lexeme with
  | .startArray => skipOpen 1
  | .startObject => skipOpen 1
  | .bool _ => return ()
  | .null => return ()
  | .number _ => return ()
  | .string _ => return ()
  | _ => notWanted t .value

/-- Takes the rest of the container that is open. -/
def skipToEnd : Reader Unit := skipOpen 1

end Reader

end WireShapes.Json
