import WireShapes.Http.Rejection
import WireShapes.Text.Chars
import WireShapes.Text.Split

/-!
Header fields of HTTP messages.

* `Headers`: fields in order; `get?`, `getAll` look a name up in either case
* `one`, `many`, `manyDates`: the values of a field as texts
* `splitList`: the elements of a list field; commas inside double quotes do not separate
* `quoteElement`: an element in a form that `splitList` reads back
* `fieldValue`: the bytes of a text that may stand in a field
-/

namespace WireShapes.Http

/-- Header fields in order: names and the bytes of the values. -/
abbrev Headers := List (String × List UInt8)

/-- A field name in the form in which names are compared. -/
def fieldName (name : String) : String := name.map Char.toLower

/-- All values of a field, in order. -/
def getAll (name : String) (headers : Headers) : List (List UInt8) :=
  (headers.filter fun h => fieldName h.1 == fieldName name).map (·.2)

/-- The first value of a field. -/
def get? (name : String) (headers : Headers) : Option (List UInt8) :=
  (getAll name headers).head?

/-- Bytes of a value that can be read as a text: visible ASCII, space and tab. -/
def isTextByte (b : UInt8) : Bool := (0x20 ≤ b && b < 0x7F) || b == 0x09

/-- Bytes that a value may hold. -/
def isFieldByte (b : UInt8) : Bool := (0x20 ≤ b && b != 0x7F) || b == 0x09

def fieldText? (bytes : List UInt8) : Option String :=
  if bytes.all isTextByte then some (String.ofList (bytes.map fun b => Char.ofNat b.toNat)) else none

/-- The bytes of a text that may stand in a field. -/
def fieldValue (name value : String) : Except WriteFault (List UInt8) :=
  let bytes := Utf8.encode value
  if bytes.all isFieldByte then .ok bytes else .error (.headerValue name)

/-- A value as a text, or the rejection of the field. -/
def textOf (name : String) (bytes : List UInt8) : Except Rejection String :=
  match fieldText? bytes with
  | some t => .ok t
  | none => .error (.header name .notText)

/-- The value of a field that may occur once. -/
def one (headers : Headers) (name : String) : Except Rejection (Option String) :=
  match getAll name headers with
  | [] => .ok none
  | [value] => (textOf name value).map some
  | _ => .error (.header name .manyValues)

/-- The body of a quoted element after its opening quote, and what follows the closing one. -/
def quotedBody : List Char → Except ValueFault (List Char × List Char)
  | [] => .error .openQuote
  | c :: rest =>
    if c = '"' then .ok ([], rest)
    else if c = '\\' then
      match rest with
      | [] => .error .openEscape
      | d :: rest => (quotedBody rest).map fun r => (d :: r.1, r.2)
    else (quotedBody rest).map fun r => (c :: r.1, r.2)

/-- What follows the comma after a quoted element. -/
def afterQuoted (cs : List Char) : Except ValueFault (List Char) :=
  match cs.dropWhile Text.isAsciiSpace with
  | [] => .ok []
  | c :: rest => if c = ',' then .ok rest else .error (.afterQuote c)

/-- The elements of a list; every element takes at least one character. -/
def splitFrom : Nat → List Char → Except ValueFault (List String)
  | 0, _ => .ok []
  | rounds + 1, cs =>
    match cs.dropWhile Text.isAsciiSpace with
    | [] => .ok []
    | c :: rest =>
      if c = '"' then do
        let (body, after) ← quotedBody rest
        let after ← afterQuoted after
        let more ← splitFrom rounds after
        .ok (String.ofList body :: more)
      else do
        let element := Text.trimRight Text.isSpace ((c :: rest).takeWhile (· != ','))
        let more ← splitFrom rounds (((c :: rest).dropWhile (· != ',')).drop 1)
        .ok (String.ofList element :: more)

/-- The elements of a list, blanks around them apart. -/
def splitList (value : String) : Except ValueFault (List String) :=
  splitFrom (value.length + 1) value.toList

/-- The elements of every value of a field, in order. -/
def manyOf (name : String) : List (List UInt8) → Except Rejection (List String)
  | [] => .ok []
  | value :: rest => do
    let t ← textOf name value
    match splitList t with
    | .error fault => .error (.header name fault)
    | .ok elements =>
      let more ← manyOf name rest
      .ok (elements ++ more)

def many (headers : Headers) (name : String) : Except Rejection (List String) :=
  manyOf name (getAll name headers)

/-- Elements in pairs, joined by the comma that a date of a header has. -/
def joinDates : List String → List String
  | day :: rest :: more => (day ++ ", " ++ rest) :: joinDates more
  | _ => []

/-- The elements of a list field of dates, each of which has a comma of its own. -/
def manyDates (headers : Headers) (name : String) : Except Rejection (List String) := do
  let parts ← many headers name
  if parts.length % 2 ≠ 0 then .error (.header name .incompleteDate) else .ok (joinDates parts)

/-- The element has to be quoted: it has a comma or a quote, or blanks at an end. -/
def needsQuotes (cs : List Char) : Bool :=
  cs.any (fun c => c == ',' || c == '"')
    || (cs.head?.map Text.isAsciiSpace).getD false
    || (cs.getLast?.map Text.isAsciiSpace).getD false

/-- How a character is written between quotes. -/
def quoteElementChar (c : Char) : List Char :=
  if c = '\\' ∨ c = '"' then ['\\', c] else [c]

def quoteElement (value : String) : String :=
  if needsQuotes value.toList then
    String.ofList ('"' :: value.toList.flatMap quoteElementChar ++ ['"'])
  else value

end WireShapes.Http
