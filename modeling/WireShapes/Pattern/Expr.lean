import WireShapes.Pattern.CharSet

/-!
Expressions, and where they match.

* `Expr`
* `Expr.repeated`: a repetition in its shortest form
* `Expr.ends`: the positions at which a match can end, given those at which it may start
* `Expr.isFoundIn`: the expression matches somewhere in a text
-/

namespace WireShapes.Pattern

/-- Conditions on a position. -/
inductive Anchor
  | textStart
  | textEnd
  | lineStart
  | lineEnd
  /-- As `lineStart`, where a carriage return, a line feed or both in a row end a line. -/
  | returnStart
  /-- As `lineEnd`, where a carriage return, a line feed or both in a row end a line. -/
  | returnEnd
  | wordEdge (word : CharSet)
  | notWordEdge (word : CharSet)
  | wordStart (word : CharSet)
  | wordEnd (word : CharSet)
  | notAfterWord (word : CharSet)
  | notBeforeWord (word : CharSet)
deriving Repr, Inhabited

inductive Expr
  | empty
  | set (chars : CharSet)
  | anchor (condition : Anchor)
  | capture (body : Expr)
  | both (first second : Expr)
  | either (first second : Expr)
  /-- At least `least` times, and at most `most` times if that is given. -/
  | times (least : Nat) (most : Option Nat) (body : Expr)
deriving Repr, Inhabited

/-- The character before a position belongs to the set. -/
def heldBefore (text : Array Char) (word : CharSet) (i : Nat) : Bool :=
  i != 0 && ((text[i - 1]?).map word.mem).getD false

/-- The character after a position belongs to the set. -/
def heldAfter (text : Array Char) (word : CharSet) (i : Nat) : Bool :=
  ((text[i]?).map word.mem).getD false

def Anchor.holds (text : Array Char) (i : Nat) : Anchor → Bool
  | textStart => i == 0
  | textEnd => i == text.size
  | lineStart => i == 0 || text[i - 1]? == some '\n'
  | lineEnd => i == text.size || text[i]? == some '\n'
  | returnStart =>
    i == 0 || text[i - 1]? == some '\n' || (text[i - 1]? == some '\r' && text[i]? != some '\n')
  | returnEnd =>
    i == text.size || text[i]? == some '\r' ||
      (text[i]? == some '\n' && (i == 0 || text[i - 1]? != some '\r'))
  | wordEdge word => heldBefore text word i != heldAfter text word i
  | notWordEdge word => heldBefore text word i == heldAfter text word i
  | wordStart word => !heldBefore text word i && heldAfter text word i
  | wordEnd word => heldBefore text word i && !heldAfter text word i
  | notAfterWord word => !heldBefore text word i
  | notBeforeWord word => !heldAfter text word i

/-- The expression matches nothing but the empty text, whatever the text around it. -/
def Expr.isEmptyOnly : Expr → Bool
  | empty => true
  | set _ => false
  | anchor _ => true
  | capture body => body.isEmptyOnly
  | both first second => first.isEmptyOnly && second.isEmptyOnly
  | either first second => first.isEmptyOnly && second.isEmptyOnly
  | times _ most body => most.isSome && body.isEmptyOnly

/-- The expression repeated. To repeat what is empty more than once adds nothing. -/
def Expr.repeated (least : Nat) (most : Option Nat) (body : Expr) : Expr :=
  let least := if body.isEmptyOnly then min least 1 else least
  let most := if body.isEmptyOnly then some (min (most.getD 1) 1) else most
  if most = some 0 then empty
  else if least = 1 ∧ most = some 1 then body
  else times least most body

def Expr.andThen (first second : Expr) : Expr :=
  match first, second with
  | empty, e => e
  | e, empty => e
  | a, b => both a b

/-- One expression or the other; two sets are one. -/
def Expr.orElse (first second : Expr) : Expr :=
  match first, second with
  | set a, set b => set (a.union b)
  | a, b => either a b

/-- Positions of both lists, each once. -/
def addPositions (seen more : List Nat) : List Nat :=
  more.foldl (fun acc i => if acc.contains i then acc else i :: acc) seen

def iterate (step : List Nat → List Nat) : Nat → List Nat → List Nat
  | 0, starts => starts
  | n + 1, starts => if starts.isEmpty then [] else iterate step n (step starts)

/-- All positions that at most `n` further steps reach; there is an end when nothing new comes. -/
def reach (step : List Nat → List Nat) : Nat → List Nat → List Nat → List Nat
  | 0, seen, _ => seen
  | n + 1, seen, front =>
    let new := (step front).filter fun i => !seen.contains i
    if new.isEmpty then seen else reach step n (addPositions seen new) new

/-- The positions at which a match that starts at one of the given positions can end. -/
def Expr.ends (text : Array Char) : Expr → List Nat → List Nat
  | empty, starts => starts
  | set chars, starts =>
    (starts.filter fun i => ((text[i]?).map chars.mem).getD false).map (· + 1)
  | anchor condition, starts => starts.filter fun i => condition.holds text i
  | capture body, starts => body.ends text starts
  | both first second, starts => second.ends text (first.ends text starts)
  | either first second, starts => addPositions (first.ends text starts) (second.ends text starts)
  | times least most body, starts =>
    let must := iterate (body.ends text) least starts
    match most with
    | none => reach (body.ends text) (text.size + 1) must must
    | some m => reach (body.ends text) (m - least) must must

def Expr.isFoundIn (e : Expr) (text : String) : Bool :=
  let chars := text.toList.toArray
  !(e.ends chars (List.range (chars.size + 1))).isEmpty

end WireShapes.Pattern
