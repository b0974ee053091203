import WireShapes.Pattern.Search
import WireShapes.Schema.Violation

/-!
From drafts to values: the checks of a shape.

* `textViolation?`, `integerViolation?`: the first rule that a simple value breaks
* `assemble`: the members of a structure in the order of their declaration; the first failure counts
* `build`: the value of a draft
* `argument`: what a setter of the public interface takes
-/

namespace WireShapes.Schema

def TextRule.lengthViolation? (rule : TextRule) (shape s : String) : Option Violation :=
  rule.length.bind fun bounds =>
    if bounds.contains s.length then none else some (.length shape s.length bounds)

def TextRule.patternViolation? (rule : TextRule) (shape s : String) : Option Violation :=
  rule.pattern.bind fun pattern =>
    if Pattern.isMatch pattern s then none else some (.pattern shape s pattern)

/-- The first rule that a text breaks: the length comes before the pattern. -/
def textViolation? (rule : TextRule) (shape s : String) : Option Violation :=
  (rule.lengthViolation? shape s).or (rule.patternViolation? shape s)

def integerViolation? (range : Option (Interval Int)) (shape : String) (n : Int) : Option Violation :=
  range.bind fun bounds => if bounds.contains n then none else some (.range shape n bounds)

/-- A value in the form in which a side holds what a rule is about. -/
def hold (F : Flavour) (restricted : Bool) (v : Value) : Value :=
  match F with
  | .server => if restricted then .constrained v else v
  | _ => v

/-- The value, unless the side checks rules and one is broken. -/
def checked (F : Flavour) (violation : Option Violation) (v : Value) : Except Violation Value :=
  match F.checks, violation with
  | true, some e => .error e
  | _, _ => .ok v

variable {ν : Type} (S : Schema ν) (F : Flavour)

/-- A text as a value of a shape; a constant that is not listed passes where no rule is checked. -/
def checkText (n : ν) (s : String) : Except Violation Value :=
  match S.shape n with
  | .text rule =>
    checked F (textViolation? rule (S.shapeId n) s) (hold F (decide (rule ≠ .free)) (.text s))
  | .enumeration constants =>
    let listed := constants.map (·.2)
    checked F (if listed.contains s then none else some (.constant (S.shapeId n) s listed)) (.symbol s)
  | _ => .ok (.text s)

def checkInteger (n : ν) (k : Int) : Except Violation Value :=
  match S.shape n with
  | .integer range =>
    checked F (integerViolation? range (S.shapeId n) k) (hold F range.isSome (.integer k))
  | _ => .ok (.integer k)

/-- The fields of a structure from what has become of the members that were given. A member that was
not given takes its default. -/
def assemble (structureName : String) (results : List (String × Except Violation Value)) :
    List (Member ν) → Except Violation (List (String × Value))
  | [] => .ok []
  | m :: rest =>
    match Entries.get? m.name results, m.default with
    | some (.error e), _ => .error (.member m.name e)
    | some (.ok v), _ => (assemble structureName results rest).map ((m.name, v) :: ·)
    | none, some v => (assemble structureName results rest).map ((m.name, v) :: ·)
    | none, none =>
      if m.required then .error (.missing structureName m.name)
      else assemble structureName results rest

mutual

/-- The value of a draft, or the first violation. -/
def build (n : ν) : Draft → Except Violation Value
  | .built v => .ok v
  | .text s => S.checkText F n s
  | .integer k => S.checkInteger F n k
  | .boolean b => .ok (.boolean b)
  | .blob bytes => .ok (.blob bytes)
  | .list items => (buildItems n 0 items).map .list
  | .struct fields => (assemble (S.name n) (buildFields n fields) (S.members n)).map .struct
  | .variant name d =>
    match build (S.target n name) d with
    | .ok v => .ok (.variant name v)
    | .error e => .error (.variant (S.shapeId n) name e)

/-- The items of a list, the first of which has the index given. -/
def buildItems (n : ν) (index : Nat) : List Draft → Except Violation (List Value)
  | [] => .ok []
  | d :: rest =>
    match build (S.item n) d with
    | .error e => .error (.item (S.shapeId n) index e)
    | .ok v => (buildItems n (index + 1) rest).map (v :: ·)

/-- What becomes of each field of a structure. -/
def buildFields (n : ν) : List (String × Draft) → List (String × Except Violation Value)
  | [] => []
  | (name, d) :: rest => (name, build (S.target n name) d) :: buildFields n rest

end

/-! ### Setters -/

/-- What a setter of the public interface makes of its argument: where checked values have a type of
their own, the argument has to be one of them. -/
def argument (n : ν) (d : Draft) : Except Violation Draft :=
  match F with
  | .server => (S.build F n d).map .built
  | _ => .ok d

def arguments (n : ν) : List (String × Draft) → Except Violation (List (String × Option Draft))
  | [] => .ok []
  | (name, d) :: rest => do
    let d ← S.argument F (S.target n name) d
    let more ← arguments n rest
    .ok ((name, some d) :: more)

end WireShapes.Schema
