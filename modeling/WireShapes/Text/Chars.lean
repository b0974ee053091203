import WireShapes.Text.Property.Alphanumeric
import WireShapes.Text.Property.Visible
import WireShapes.Text.Property.Word

/-!
Classes of characters.

* `isAlphanumeric`, `isSpace`
* `isPlain`: a character that a quoted text shows as it is

ASCII is decided first and by arithmetic, everything else by a table.
-/

namespace WireShapes.Text

/-- One of the closed ranges holds the number. -/
def inRanges (ranges : List (Nat × Nat)) (n : Nat) : Bool :=
  ranges.any fun r => r.1 ≤ n && n ≤ r.2

/-- `'0'` to `'9'`. -/
def isAsciiDigit (c : Char) : Bool := 48 ≤ c.toNat && c.toNat ≤ 57

/-- `'A'` to `'Z'`. -/
def isAsciiCapital (c : Char) : Bool := 65 ≤ c.toNat && c.toNat ≤ 90

/-- `'a'` to `'z'`. -/
def isAsciiSmall (c : Char) : Bool := 97 ≤ c.toNat && c.toNat ≤ 122

/-- Tab, line feed, form feed, carriage return and space. -/
def isAsciiSpace (c : Char) : Bool :=
  c == ' ' || c == '\t' || c == '\n' || c == '\x0c' || c == '\r'

/-- Letters and numerals of any script. -/
def isAlphanumeric (c : Char) : Bool :=
  if c.toNat < 128 then isAsciiDigit c || isAsciiCapital c || isAsciiSmall c
  else inRanges alphanumericRanges c.toNat

def isSpace (c : Char) : Bool :=
  inRanges spaceRanges c.toNat

/-- The character has a visible form that does not lean on the one before it. -/
def isPlain (c : Char) : Bool :=
  if c.toNat < 128 then 32 ≤ c.toNat && c.toNat < 127
  else !inRanges invisibleRanges c.toNat && !inRanges extenderRanges c.toNat

end WireShapes.Text
