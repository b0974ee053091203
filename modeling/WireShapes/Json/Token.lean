import WireShapes.Instant.Reading
import WireShapes.Json.Escape
import WireShapes.Numeric.Number
import WireShapes.Text.Base64

/-!
Tokens of a JSON text and what can go wrong with them.

* `Token`: a lexeme and the place where it starts
* `Fault`, `ReadError`: the cause of a failure and, where known, its place
* `ReadError.message`, `ReadError.source?`
-/

namespace WireShapes.Json

/-- What a token says. Keys and strings are kept as written, escapes and all. -/
inductive Lexeme
  | startArray
  | endArray
  | startObject
  | endObject
  | key (raw : String)
  | string (raw : String)
  | number (value : Number)
  | bool (value : Bool)
  | null
deriving DecidableEq, Repr

/-- The name of a kind of token in messages. -/
def Lexeme.describe : Lexeme → String
  | startArray => "start of array"
  | endArray => "end of array"
  | key _ => "object key"
  | startObject => "start of object"
  | endObject => "end of object"
  | bool _ => "boolean"
  | null => "null"
  | number _ => "number"
  | string _ => "string"

/-- A lexeme and the offset of its first byte. -/
structure Token where
  offset : Nat
  lexeme : Lexeme
deriving DecidableEq, Repr

/-- What a reader was looking for. -/
inductive Wanted
  | object
  | array
  | objectOrNull
  | arrayOrNull
  | string
  | number
  | bool
  | value
  | keyOrEnd
deriving DecidableEq, Repr

def Wanted.describe : Wanted → String
  | object => "start of object"
  | array => "start of array"
  | objectOrNull => "start of object or null"
  | arrayOrNull => "start of array or null"
  | string => "string or null"
  | number => "number or null"
  | bool => "boolean or null"
  | value => "a value"
  | keyOrEnd => "object key or end of object"

/-- Deepest nesting of arrays and objects. -/
def maxDepth : Nat := 128

/-- What is wrong with the content of a document whose tokens are in order. -/
inductive ContentFault
  | wanted (what : Wanted) (found : Lexeme)
  /-- A string that is not one of the words for values that are not finite. -/
  | numberWord (raw : String)
  | blob (cause : Base64.Malformed)
  | timestamp (cause : TimeError)
  | infiniteTimestamp
  | documentDepth
  /-- An error body whose object goes on with something else than a key. -/
  | errorBody
  | nullElement
  | mixedVariants
  | nullVariant (name : String)
  | noVariant
  | number (type : String) (cause : NarrowError)
  /-- A structure whose members do not fit together, and why. -/
  | unbuilt (name : String) (cause : String)
  | trailing
deriving DecidableEq, Repr

def ContentFault.message : ContentFault → String
  | wanted what found => s!"expected {what.describe}, found {found.describe}"
  | numberWord raw =>
    s!"only `NaN`, `Infinity` and `-Infinity` may be written as strings, found `{raw}`"
  | blob _ => "invalid base64 blob"
  | timestamp _ => "invalid timestamp"
  | infiniteTimestamp => "epoch-seconds timestamp must be finite"
  | documentDepth => s!"document nesting exceeds {maxDepth} levels"
  | errorBody => "expected object key or end of object"
  | nullElement => "dense list cannot contain null values"
  | mixedVariants => "encountered mixed variants in union"
  | nullVariant name => s!"value for `{name}` cannot be null"
  | noVariant => "union did not contain a valid variant"
  | number type _ => s!"expected {type}"
  | unbuilt name _ => s!"invalid `{name}`"
  | trailing => "found more JSON tokens after completing parsing"

/-- The message of the cause behind a fault, where there is one. -/
def ContentFault.source? : ContentFault → Option String
  | blob cause => some cause.message
  | timestamp cause => some cause.message
  | number _ cause => some cause.message
  | unbuilt _ cause => some cause
  | _ => none

/-- The cause of a failure to read. -/
inductive Fault
  | content (fault : ContentFault)
  | literal (word : String)
  | number
  | utf8
  | escape (cause : EscapeError)
  | control (byte : UInt8)
  | depth
  | ended
  | unexpected (found : UInt8) (wanted : String)
deriving DecidableEq, Repr

/-- Two hexadecimal digits of a byte. -/
def hexByte (b : UInt8) : String :=
  let ds := Text.hex b.toNat
  String.ofList (List.replicate (2 - ds.length) '0' ++ ds)

def Fault.message : Fault → String
  | content fault => fault.message
  | literal word => s!"expected literal `{word}`"
  | number => "invalid number"
  | utf8 => "invalid UTF-8 in string"
  | escape cause => s!"failed to unescape string: {cause.message}"
  | control byte => s!"unexpected control character 0x{hexByte byte} in string"
  | depth => s!"nesting exceeds {maxDepth} levels"
  | ended => "unexpected end of input"
  | unexpected found wanted => s!"unexpected `{Char.ofNat found.toNat}`, expected {wanted}"

/-- A failure to read, and where, if that is known. -/
structure ReadError where
  fault : Fault
  offset : Option Nat
deriving DecidableEq, Repr

namespace ReadError

def locate (offset : Nat) (fault : Fault) : ReadError := ⟨fault, some offset⟩

/-- A fault of the content that has no place of its own. -/
def ofContent (fault : ContentFault) : ReadError := ⟨.content fault, none⟩

def ended : ReadError := ⟨.ended, none⟩

def message (e : ReadError) : String :=
  match e.offset with
  | some n => s!"error parsing JSON at offset {n}: {e.fault.message}"
  | none => s!"error parsing JSON: {e.fault.message}"

/-- The message of the cause behind the failure, where there is one. -/
def source? (e : ReadError) : Option String :=
  match e.fault with
  | .content fault => fault.source?
  | .escape cause => some cause.message
  | _ => none

end ReadError

end WireShapes.Json
