import WireShapes.Pattern.Expr
import WireShapes.Pattern.Form

/-!
What a pattern means under its flags.

* `Flags`
* `ClassForm.set?`: the set of a class
* `Form.expr?`: the expression of a pattern

Letter case is left out of a set before the set is negated or joined with another. Without the
Unicode flag a class is one of bytes: it has a meaning only if it holds ASCII alone, so that it cannot
be negated, and the same goes for the dot.
-/

namespace WireShapes.Pattern

/-- The flags that hold at a place of a pattern. -/
structure Flags where
  anyCase : Bool
  multiLine : Bool
  dotAll : Bool
  unicode : Bool
  carriageReturn : Bool
deriving DecidableEq, Repr

namespace Flags

def initial : Flags := ⟨false, false, false, true, false⟩

/-- The flags after one is set or cleared; two of them concern neither sets nor places. -/
def set (flags : Flags) (flag : Flag) (on : Bool) : Flags :=
  match flag with
  | .anyCase => { flags with anyCase := on }
  | .multiLine => { flags with multiLine := on }
  | .dotAll => { flags with dotAll := on }
  | .unicode => { flags with unicode := on }
  | .carriageReturn => { flags with carriageReturn := on }
  | .reluctant | .verbose => flags

def apply (flags : Flags) (change : FlagChange) : Flags :=
  change.foldl (fun flags c => flags.set c.1 c.2) flags

/-- The set without regard to letter case, if the flags say so. -/
def fold (flags : Flags) (s : CharSet) : CharSet :=
  if !flags.anyCase then s else if flags.unicode then s.anyCase else s.anyAsciiCase

/-- The set without regard to letter case, negated if that is asked for. -/
def foldAndNegate? (flags : Flags) (negated : Bool) (s : CharSet) : Option CharSet :=
  if !negated then some (flags.fold s)
  else if flags.unicode then some (flags.fold s).compl
  else none

def wordChars (flags : Flags) : CharSet :=
  if flags.unicode then CharSet.wordChars else CharSet.asciiWordChars

end Flags

/-- The set that a letter after a backslash names. -/
def Shorthand.chars (flags : Flags) : Shorthand → CharSet
  | digit => if flags.unicode then CharSet.digits else CharSet.asciiDigits
  | space => if flags.unicode then CharSet.spaces else CharSet.asciiSpaces
  | word => flags.wordChars

/-- A character may be listed in a class. -/
def Flags.allows (flags : Flags) (c : Glyph) : Bool := flags.unicode || c.char.toNat < 128

def Joint.apply : Joint → CharSet → CharSet → CharSet
  | inter => CharSet.inter
  | diff => CharSet.diff
  | symm => CharSet.symm

def ClassForm.set? (flags : Flags) : ClassForm → Option CharSet
  | empty => some .none
  | char c => if flags.allows c then some (.single c.char) else none
  | range low high =>
    if flags.allows low && flags.allows high then some (.range low.char.toNat high.char.toNat)
    else none
  | shorthand false kind => some (kind.chars flags)
  | shorthand true kind => if flags.unicode then some (kind.chars flags).compl else none
  | posix negated chars => flags.foldAndNegate? negated chars
  | property negated chars => if flags.unicode then flags.foldAndNegate? negated chars else none
  | also items last => do some ((← items.set? flags).union (← last.set? flags))
  | joined joint left right => do
    some (joint.apply (flags.fold (← left.set? flags)) (flags.fold (← right.set? flags)))
  | bracket negated body => do flags.foldAndNegate? negated (← body.set? flags)

def Place.anchor (flags : Flags) : Place → Anchor
  | lineStart =>
    if !flags.multiLine then .textStart else if flags.carriageReturn then .returnStart else .lineStart
  | lineEnd =>
    if !flags.multiLine then .textEnd else if flags.carriageReturn then .returnEnd else .lineEnd
  | textStart => .textStart
  | textEnd => .textEnd
  | wordEdge => .wordEdge flags.wordChars
  | notWordEdge => .notWordEdge flags.wordChars
  | wordStart => .wordStart flags.wordChars
  | wordEnd => .wordEnd flags.wordChars
  | wordStartHalf => .notAfterWord flags.wordChars
  | wordEndHalf => .notBeforeWord flags.wordChars

/-- The set of a character that stands outside a class. A byte above ASCII is no character. -/
def Glyph.set? (flags : Flags) (c : Glyph) : Option CharSet :=
  if !flags.unicode && c.asByte && c.char.toNat ≥ 128 then none
  else some (flags.fold (.single c.char))

def Flags.dot? (flags : Flags) : Option CharSet :=
  if !flags.unicode then none
  else if flags.dotAll then some .all
  else if flags.carriageReturn then some ((CharSet.single '\n').union (.single '\r')).compl
  else some (CharSet.single '\n').compl

/-- The expression of a pattern under flags, and the flags that hold behind it. A flag list holds up
to the end of its group, through alternatives too. -/
def Form.expr? (flags : Flags) : Form → Option (Expr × Flags)
  | empty => some (.empty, flags)
  | char c => (c.set? flags).map fun s => (.set s, flags)
  | dot => flags.dot?.map fun s => (.set s, flags)
  | place p => some (.anchor (p.anchor flags), flags)
  | set chars => (chars.set? flags).map fun s => (.set s, flags)
  | Form.flags change => some (.empty, flags.apply change)
  | group captures change body => do
    let (e, _) ← body.expr? (flags.apply change)
    some (if captures then .capture e else e, flags)
  | times least most body => do
    let (e, flags) ← body.expr? flags
    some (.repeated least most e, flags)
  | both first rest => do
    let (a, flags) ← first.expr? flags
    let (b, flags) ← rest.expr? flags
    some (a.andThen b, flags)
  | either first rest => do
    let (a, flags) ← first.expr? flags
    let (b, flags) ← rest.expr? flags
    some (a.orElse b, flags)

end WireShapes.Pattern
