import WireShapes.Pattern.Expr

/-!
How much memory the automaton of an expression takes.

* `CharSet.encodings`: the encoded forms of a set of characters, as rows of byte ranges
* `Expr.memory`: the bytes for the automaton that reads forwards or backwards

The automaton reads encoded text byte by byte. Forwards, a set of characters becomes an acyclic graph
whose nodes are shared where their outgoing arcs agree; backwards, a tree that is shared from the
first byte on. A repetition holds as many copies of its body as it can need.
-/

namespace WireShapes.Pattern

/-! ### Encoded characters -/

/-- A closed range of bytes. -/
abbrev ByteRange := Nat × Nat

/-- Blocks of code points whose encodings have one length; surrogates are left out. -/
def encodedBlocks : List (Nat × Nat) :=
  [(0, 0x7F), (0x80, 0x7FF), (0x800, 0xD7FF), (0xE000, 0xFFFF), (0x10000, lastPoint)]

/-- Cuts a range beyond ASCII at the multiples of `unit` next to its ends, unless it lies between two
of them. -/
def cutAt (unit : Nat) (r : Nat × Nat) : List (Nat × Nat) :=
  let next := (r.1 / unit + 1) * unit
  let last := r.2 / unit * unit
  if r.2 < max next 128 then [r]
  else
    let first := if r.1 % unit = 0 then [] else [(r.1, next - 1)]
    let start := if r.1 % unit = 0 then r.1 else next
    if r.2 < start + unit ∨ r.2 % unit = unit - 1 then first ++ [(start, r.2)]
    else first ++ [(start, last - 1), (last, r.2)]

def encode (n : Nat) : List Nat :=
  if n < 0x80 then [n]
  else if n < 0x800 then [0xC0 + n / 64, 0x80 + n % 64]
  else if n < 0x10000 then [0xE0 + n / 4096, 0x80 + n / 64 % 64, 0x80 + n % 64]
  else [0xF0 + n / 262144, 0x80 + n / 4096 % 64, 0x80 + n / 64 % 64, 0x80 + n % 64]

/-- The encodings of a range of code points, as rows of byte ranges in increasing order. -/
def encodings (r : Nat × Nat) : List (List ByteRange) :=
  let blocks := encodedBlocks.filterMap fun b =>
    if max r.1 b.1 ≤ min r.2 b.2 then some (max r.1 b.1, min r.2 b.2) else none
  let pieces := [64, 4096, 262144].foldl (fun rs unit => rs.flatMap (cutAt unit)) blocks
  pieces.map fun p => (encode p.1).zip (encode p.2)

def CharSet.encodings (s : CharSet) : List (List ByteRange) := s.ranges.flatMap Pattern.encodings

/-! ### Automata of sets -/

def stateSize : Nat := 32

/-- Bytes for an arc of a state that has a table of arcs. -/
def arcSize : Nat := 8

/-- Bytes for an arc that reads nothing. -/
def branchSize : Nat := 4

inductive Direction
  | forwards
  | backwards
deriving DecidableEq, Repr

/-- How far two rows agree. -/
def agreement : List ByteRange → List ByteRange → Nat
  | a :: as, b :: bs => if a = b then agreement as bs + 1 else 0
  | _, _ => 0

/-- The nodes of the tree of ordered rows, the root apart. -/
def treeSize (before : List ByteRange) : List (List ByteRange) → Nat
  | [] => 0
  | row :: rows => row.length - agreement before row + treeSize row rows

/-- Ordered rows by their first byte ranges. -/
def byFirst (rows : List (List ByteRange)) : List (ByteRange × List (List ByteRange)) :=
  rows.foldr (fun row acc =>
    match row, acc with
    | [], acc => acc
    | b :: rest, (c, more) :: acc =>
      if b = c then (c, rest :: more) :: acc else (b, [rest]) :: (c, more) :: acc
    | b :: rest, [] => [(b, [rest])]) []

/-- A node of the graph: its arcs with the numbers of the nodes that they lead to. -/
abbrev Node := List (ByteRange × Nat)

/-- Adds the node that reads the rows to the nodes so far, if no node has its arcs, and gives its
number. The end of the graph has number 0; rows are at most `depth` long. -/
def addNode : Nat → List (List ByteRange) → List Node → Nat × List Node
  | 0, _, nodes => (0, nodes)
  | depth + 1, rows, nodes =>
    match byFirst rows with
    | [] => (0, nodes)
    | groups =>
      let (arcs, nodes) := groups.foldl (fun (arcs, nodes) g =>
        let (target, nodes) := addNode depth g.2 nodes
        ((g.1, target) :: arcs, nodes)) (([] : Node), nodes)
      match nodes.findIdx? (· == arcs) with
      | some i => (nodes.length - i, nodes)
      | none => (nodes.length + 1, arcs :: nodes)

/-- The bytes that the automaton of encoded forms takes. -/
def graphMemory (direction : Direction) (rows : List (List ByteRange)) : Nat :=
  match direction with
  | .forwards =>
    (addNode 4 rows []).2.foldl (fun total node => total + stateSize + node.length * arcSize) stateSize
  | .backwards =>
    2 * stateSize + treeSize [] rows * stateSize + rows.length * branchSize

/-- The bytes that the automaton of a set takes. One character is a row of bytes, and a set of ASCII
is a single table. -/
def CharSet.memory (direction : Direction) (s : CharSet) : Nat :=
  if s.ranges.all fun r => r.2 < 128 then
    match s.ranges with
    | [r] => if r.1 = r.2 then stateSize else 2 * stateSize + arcSize
    | ranges => 2 * stateSize + ranges.length * arcSize
  else
    match s.encodings with
    | [row] =>
      if row.all fun b => b.1 == b.2 then row.length * stateSize else graphMemory direction [row]
    | rows => graphMemory direction rows

/-! ### Automata of expressions -/

def Expr.canBeEmpty : Expr → Bool
  | empty => true
  | set _ => false
  | anchor _ => true
  | capture body => body.canBeEmpty
  | both first second => first.canBeEmpty && second.canBeEmpty
  | either first second => first.canBeEmpty || second.canBeEmpty
  | times least _ body => least == 0 || body.canBeEmpty

def Expr.isChoice : Expr → Bool
  | either _ _ => true
  | _ => false

/-- The bytes that the automaton of an expression takes. -/
def Expr.memory (direction : Direction) : Expr → Nat
  | empty => stateSize
  | set chars => chars.memory direction
  | anchor _ => stateSize
  | capture body =>
    body.memory direction + if direction = .forwards then 2 * stateSize else 0
  | both first second => first.memory direction + second.memory direction
  | either first second =>
    first.memory direction + second.memory direction + branchSize +
      if second.isChoice then 0 else 2 * stateSize + branchSize
  | times least none body =>
    let cost := body.memory direction
    if least = 0 ∧ body.canBeEmpty then cost + 3 * stateSize + 4 * branchSize
    else max 1 least * cost + stateSize + 2 * branchSize
  | times least (some most) body =>
    let cost := body.memory direction
    if least = most then least * cost
    else
      let option := cost + stateSize + 2 * branchSize
      if least = 0 ∧ most = 1 then option + stateSize
      else (if least = 0 then stateSize else least * cost) + stateSize + (most - least) * option

/-- The bytes for what surrounds an expression: the search for a start, the bounds of the match and
its end. -/
def frameSize (direction : Direction) : Nat :=
  4 * stateSize + arcSize + 2 * branchSize + if direction = .forwards then 2 * stateSize else 0

/-- The bytes that an automaton may take. -/
def maxMemory : Nat := 10485760

/-- Neither automaton of the expression is too large. -/
def Expr.fits (e : Expr) : Bool :=
  [Direction.forwards, .backwards].all fun d => e.memory d + frameSize d ≤ maxMemory

end WireShapes.Pattern
