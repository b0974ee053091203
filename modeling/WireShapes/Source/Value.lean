import WireShapes.Json.Writer
import WireShapes.Numeric.Decimal

/-!
Values of source documents: their compact text, when two are equal, and what they are called in
messages.

* `Value`: a document as a model or a settings file holds it
* `Value.compact`: its text without blanks
* `Value.same`: equality up to the order of keys
* `Value.describe`: what it is, for messages
-/

namespace WireShapes.Source

open Json (Document)

/-- A value of a source document. -/
abbrev Value := Document

/-- The text of a number; a double keeps its fraction. -/
def numberText : Number → String
  | .real x => Decimal.compact.write x
  | n => n.text

mutual

/-- The text of a value without blanks. -/
def Value.compact : Value → String
  | .object entries => "\x7b" ++ ",".intercalate (compactEntries entries) ++ "\x7d"
  | .array items => "[" ++ ",".intercalate (compactItems items) ++ "]"
  | .number n => numberText n
  | .string s => Json.quoted s
  | .bool b => if b then "true" else "false"
  | .null => "null"

def compactItems : List Value → List String
  | [] => []
  | item :: rest => Value.compact item :: compactItems rest

def compactEntries : List (String × Value) → List String
  | [] => []
  | (key, value) :: rest => (Json.quoted key ++ ":" ++ Value.compact value) :: compactEntries rest

end

/-- Numbers are equal in the same form only. -/
def sameNumber : Number → Number → Bool
  | .natural a, .natural b => a == b
  | .negative a, .negative b => a == b
  | .real a, .real b => a.same b
  | _, _ => false

mutual

/-- Equality of values, whatever the order of keys. -/
def Value.same : Value → Value → Bool
  | .object a, .object b => a.length == b.length && sameEntries a b
  | .array a, .array b => sameItems a b
  | .number a, .number b => sameNumber a b
  | .string a, .string b => a == b
  | .bool a, .bool b => a == b
  | .null, .null => true
  | _, _ => false

def sameItems : List Value → List Value → Bool
  | [], [] => true
  | a :: as, b :: bs => Value.same a b && sameItems as bs
  | _, _ => false

/-- Every entry of the first list has an equal one in the second. -/
def sameEntries : List (String × Value) → List (String × Value) → Bool
  | [], _ => true
  | (key, a) :: rest, entries =>
    (match Entries.get? key entries with
      | some b => Value.same a b
      | none => false) && sameEntries rest entries

end

/-- What a value is, for messages. -/
def Value.describe : Value → String
  | .object _ => "map"
  | .array _ => "sequence"
  | .number (.real x) => s!"floating point `{Decimal.compact.write x}`"
  | .number n => s!"integer `{n.text}`"
  | .string s => s!"string {Text.quote s}"
  | .bool b => s!"boolean `{b}`"
  | .null => "null"

end WireShapes.Source
