import WireShapes.Pattern.CharSet

/-!
Patterns as they are written, before flags give them a meaning.

* `ClassForm`: a bracketed class or what may stand in one
* `Form`: a pattern
* `Form.depth`: how deep it is nested
-/

namespace WireShapes.Pattern

/-- A character as it is written. Two hexadecimal digits can also mean a byte. -/
structure Glyph where
  char : Char
  asByte : Bool
deriving DecidableEq, Repr

/-- Sets that one letter after a backslash names. -/
inductive Shorthand
  | digit
  | space
  | word
deriving DecidableEq, Repr

/-- How the operands of a class are joined. -/
inductive Joint
  | inter
  | diff
  | symm
deriving DecidableEq, Repr

inductive ClassForm
  | empty
  | char (c : Glyph)
  | range (low high : Glyph)
  | shorthand (negated : Bool) (kind : Shorthand)
  /-- A set named in brackets and colons. -/
  | posix (negated : Bool) (chars : CharSet)
  | property (negated : Bool) (chars : CharSet)
  | also (items : ClassForm) (last : ClassForm)
  | joined (joint : Joint) (left right : ClassForm)
  | bracket (negated : Bool) (body : ClassForm)
deriving Repr

/-- Items with one more behind them. -/
def ClassForm.add (items last : ClassForm) : ClassForm :=
  match items with
  | empty => last
  | _ => also items last

def ClassForm.isRow : ClassForm → Bool
  | also _ _ => true
  | _ => false

/-- How deep a class is nested: brackets, joints and rows of two items or more count. -/
def ClassForm.depth : ClassForm → Nat
  | also items last => max (items.depth + if items.isRow then 0 else 1) (last.depth + 1)
  | joined _ left right => max left.depth right.depth + 1
  | bracket _ body => body.depth + 1
  | _ => 0

/-- Letters of a flag list. -/
inductive Flag
  | anyCase
  | multiLine
  | dotAll
  /-- Exchanges greedy and reluctant repetitions. -/
  | reluctant
  | unicode
  /-- A carriage return ends a line too. -/
  | carriageReturn
  | verbose
deriving DecidableEq, Repr

/-- Flags that a list sets or clears. -/
abbrev FlagChange := List (Flag × Bool)

/-- Conditions on a position, as they are written. -/
inductive Place
  | lineStart
  | lineEnd
  | textStart
  | textEnd
  | wordEdge
  | notWordEdge
  | wordStart
  | wordEnd
  /-- No word goes on from before. -/
  | wordStartHalf
  /-- No word goes on behind. -/
  | wordEndHalf
deriving DecidableEq, Repr

inductive Form
  | empty
  | char (c : Glyph)
  | dot
  | place (p : Place)
  | set (chars : ClassForm)
  /-- A flag list that holds up to the end of the group. -/
  | flags (change : FlagChange)
  | group (captures : Bool) (change : FlagChange) (body : Form)
  /-- At least `least` times, and at most `most` times if that is given. -/
  | times (least : Nat) (most : Option Nat) (body : Form)
  | both (first rest : Form)
  | either (first rest : Form)
deriving Repr

def Form.isRow : Form → Bool
  | both _ _ => true
  | _ => false

def Form.isChoice : Form → Bool
  | either _ _ => true
  | _ => false

/-- How deep a pattern is nested: groups, repetitions, brackets and rows of two or more count. -/
def Form.depth : Form → Nat
  | set chars => chars.depth
  | group _ _ body => body.depth + 1
  | times _ _ body => body.depth + 1
  | both first rest => max (first.depth + 1) (rest.depth + if rest.isRow then 0 else 1)
  | either first rest => max (first.depth + 1) (rest.depth + if rest.isChoice then 0 else 1)
  | _ => 0

end WireShapes.Pattern
