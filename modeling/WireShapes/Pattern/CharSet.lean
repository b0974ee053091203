import WireShapes.Text.Chars
import WireShapes.Text.Property.CaseFold

/-!
Sets of characters as closed ranges of code points.

* `CharSet`: ranges in increasing order, with a gap between any two
* `CharSet.mem`: membership
* `CharSet.union`, `inter`, `diff`, `symm`, `compl`: the operations of sets
* `CharSet.anyCase`: the set closed under letter case
-/

namespace WireShapes.Pattern

/-- A set of characters: ranges in increasing order, with a gap between any two. -/
structure CharSet where
  ranges : List (Nat × Nat)
deriving DecidableEq, Repr, Inhabited

def lastPoint : Nat := 0x10FFFF

namespace CharSet

/-- A code point of the set. -/
def holds (s : CharSet) (n : Nat) : Bool := Text.inRanges s.ranges n

def mem (s : CharSet) (c : Char) : Bool := s.holds c.toNat

def none : CharSet := ⟨[]⟩
def range (low high : Nat) : CharSet := ⟨[(low, high)]⟩
def single (c : Char) : CharSet := range c.toNat c.toNat
def all : CharSet := range 0 lastPoint

/-- Joins ranges that overlap or touch; `r` comes before the rest. -/
def joinFrom (r : Nat × Nat) : List (Nat × Nat) → List (Nat × Nat)
  | [] => [r]
  | s :: rest => if s.1 ≤ r.2 + 1 then joinFrom (r.1, max r.2 s.2) rest else r :: joinFrom s rest

/-- Joins ranges, ordered by their lower ends, that overlap or touch. -/
def joinTouching : List (Nat × Nat) → List (Nat × Nat)
  | [] => []
  | r :: rest => joinFrom r rest

/-- The set of ranges in any order. -/
def ofRanges (ranges : List (Nat × Nat)) : CharSet :=
  ⟨joinTouching (ranges.mergeSort fun r s => r.1 ≤ s.1)⟩

def union (a b : CharSet) : CharSet :=
  ⟨joinTouching (a.ranges.merge b.ranges fun r s => r.1 ≤ s.1)⟩

/-- What lies between ordered ranges, from `low` on. -/
def gapsFrom (low : Nat) : List (Nat × Nat) → List (Nat × Nat)
  | [] => if low ≤ lastPoint then [(low, lastPoint)] else []
  | r :: rest => if low < r.1 then (low, r.1 - 1) :: gapsFrom (r.2 + 1) rest else gapsFrom (r.2 + 1) rest

def compl (s : CharSet) : CharSet := ⟨gapsFrom 0 s.ranges⟩
def inter (a b : CharSet) : CharSet := (a.compl.union b.compl).compl
def diff (a b : CharSet) : CharSet := a.inter b.compl
def symm (a b : CharSet) : CharSet := (a.union b).diff (a.inter b)

def unionAll (sets : List CharSet) : CharSet := ofRanges (sets.flatMap ranges)

/-! ### Letter case -/

/-- Every character that another one stands for when letter case is left out, with that one. -/
def foldPairs : List (Nat × Nat) :=
  Text.foldRuns.flatMap fun r =>
    (List.range ((r.last - r.first) / r.step + 1)).map fun i =>
      (r.first + i * r.step, (((r.first + i * r.step : Nat) : Int) + r.shift).toNat)

/-- The characters of the set and all that differ from one of them by letter case alone. -/
def anyCase (s : CharSet) : CharSet :=
  let point (n : Nat) : Nat × Nat := (n, n)
  let kept := s.union (ofRanges ((foldPairs.filter fun p => s.holds p.1).map fun p => point p.2))
  kept.union (ofRanges ((foldPairs.filter fun p => kept.holds p.2).map fun p => point p.1))

/-- As `anyCase`, for the letters of ASCII alone. -/
def anyAsciiCase (s : CharSet) : CharSet :=
  let small := (s.inter (range 97 122)).ranges.map fun r => (r.1 - 32, r.2 - 32)
  let capital := (s.inter (range 65 90)).ranges.map fun r => (r.1 + 32, r.2 + 32)
  unionAll [s, ⟨small⟩, ⟨capital⟩]

/-! ### Named sets -/

def digits : CharSet := ofRanges Text.digitRanges
def spaces : CharSet := ofRanges Text.spaceRanges
def wordChars : CharSet := ofRanges Text.wordRanges
def ascii : CharSet := range 0 127
def asciiDigits : CharSet := range 48 57
def asciiSpaces : CharSet := ⟨[(9, 13), (32, 32)]⟩
def asciiLetters : CharSet := ⟨[(65, 90), (97, 122)]⟩
def asciiAlphanumeric : CharSet := asciiDigits.union asciiLetters
def asciiWordChars : CharSet := asciiAlphanumeric.union (single '_')

/-- The sets that stand in brackets and colons inside a class. -/
def ofPosix? (name : String) : Option CharSet :=
  match name with
  | "alnum" => some asciiAlphanumeric
  | "alpha" => some asciiLetters
  | "ascii" => some ascii
  | "blank" => some ⟨[(9, 9), (32, 32)]⟩
  | "cntrl" => some ⟨[(0, 31), (127, 127)]⟩
  | "digit" => some asciiDigits
  | "graph" => some (range 33 126)
  | "lower" => some (range 97 122)
  | "print" => some (range 32 126)
  | "punct" => some ((range 33 126).diff asciiAlphanumeric)
  | "space" => some asciiSpaces
  | "upper" => some (range 65 90)
  | "word" => some asciiWordChars
  | "xdigit" => some ⟨[(48, 57), (65, 70), (97, 102)]⟩
  | _ => Option.none

end CharSet

end WireShapes.Pattern
