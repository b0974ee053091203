import WireShapes.Pattern.Meaning
import WireShapes.Pattern.Memory
import WireShapes.Pattern.Parser

/-!
Searching for a pattern.

* `compile?`: the expression of a pattern that is well formed and not too large
* `isMatch`: an unanchored search; a pattern that does not compile matches nothing
-/

namespace WireShapes.Pattern

def compile? (pattern : String) : Option Expr := do
  let form ← Form.parse? pattern
  let (e, _) ← form.expr? Flags.initial
  if e.fits then some e else none

def isMatch (pattern text : String) : Bool :=
  match compile? pattern with
  | some e => e.isFoundIn text
  | none => false

end WireShapes.Pattern
