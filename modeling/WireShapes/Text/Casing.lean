import WireShapes.Text.Chars

/-!
Words of a name and the spellings built from them.

* `words`: a name is cut at every character that is not an ASCII letter or digit, after a small
  letter that a capital follows, and before the last capital of a run that a small letter follows
* `snakeCase`: small words joined by an underscore
* `camelCase`: capitalised words without a separator
-/

namespace WireShapes.Text

/-- The case of the last cased character of the current word. -/
inductive WordMode
  | fresh
  | small
  | capital
deriving DecidableEq, Repr

/-- The mode after a character that does not end the word. -/
def WordMode.next (mode : WordMode) (c : Char) : WordMode :=
  if isAsciiSmall c then .small else if isAsciiCapital c then .capital else mode

/-- Cuts a piece without separators into words; `word` is the word so far. -/
def camelWords (mode : WordMode) (word : List Char) : List Char → List (List Char)
  | [] => []
  | [c] => [word ++ [c]]
  | c :: d :: rest =>
    if mode.next c = .small ∧ isAsciiCapital d then
      (word ++ [c]) :: camelWords .fresh [] (d :: rest)
    else if mode = .capital ∧ isAsciiCapital c ∧ isAsciiSmall d then
      word :: camelWords .fresh [c] (d :: rest)
    else
      camelWords (mode.next c) (word ++ [c]) (d :: rest)

/-- An ASCII letter or digit. -/
def isNameChar (c : Char) : Bool := isAsciiDigit c || isAsciiCapital c || isAsciiSmall c

/-- The maximal runs of letters and digits, empty ones included. -/
def pieces : List Char → List (List Char)
  | [] => [[]]
  | c :: rest =>
    if isNameChar c then
      match pieces rest with
      | [] => [[c]]
      | p :: ps => (c :: p) :: ps
    else [] :: pieces rest

def words (name : List Char) : List (List Char) :=
  (pieces name).flatMap (camelWords .fresh [])

def smallWord (word : List Char) : List Char := word.map Char.toLower

/-- A word with a capital first letter and small letters after it. -/
def capitalWord : List Char → List Char
  | [] => []
  | c :: rest => c.toUpper :: smallWord rest

/-- Small words joined by underscores: `GetRecordInput` becomes `get_record_input`. -/
def snakeCase (name : String) : String :=
  "_".intercalate ((words name.toList).map fun w => String.ofList (smallWord w))

/-- Capitalised words in a row: `get_record` becomes `GetRecord`. -/
def camelCase (name : String) : String :=
  String.ofList ((words name.toList).flatMap capitalWord)

end WireShapes.Text
