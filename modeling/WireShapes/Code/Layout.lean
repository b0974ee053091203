import WireShapes.Text.Chars
import WireShapes.Text.Split

/-!
Layout of generated code.

* `Step`: what is written, as data; blocks and fragments hold steps of their own
* `layout`: the lines of steps at a level of indentation
* `Fragment`: a named piece of code and what it depends on
* `Writer`: a text that grows, the level it stands at, and what it depends on
* `Act`: what is done with a writer, as data; the body of a block can return an error
* `Act.run`, `runBody`, `Writer.run`: doing it; `Step.act`: the steps among the acts

An `indent` lasts until a `dedent` of the same body, or until the body ends. What it holds is a guard, which
is dropped however the body ends.
-/

namespace WireShapes.Code

/-- What generated code depends on. -/
inductive Dependency
  | support
  | http
deriving DecidableEq, Repr

def Dependency.package : Dependency → String
  | support => "shapegen-runtime"
  | http => "http"

/-- A piece of writing. -/
inductive Step
  /-- Lines, each indented unless it is blank. -/
  | line (text : String)
  | blank
  /-- Documentation, if there is any. -/
  | docs (text : Option String)
  /-- Code that is laid out already. -/
  | code (text : String)
  | needs (dependency : Dependency)
  | indent
  | dedent
  | block (header close : String) (body : List Step)
  /-- A fragment of its own, written here. -/
  | absorb (body : List Step)
deriving Repr, Inhabited

/-! ### Lines -/

def isBlank (text : String) : Bool := text.toList.all Text.isSpace

/-- A line without the carriage return at its end. -/
def dropReturn (line : List Char) : List Char :=
  if line.getLast? = some '\r' then line.dropLast else line

/-- The lines among the parts between line feeds: a carriage return before a line feed belongs to the
line end, and nothing after the last line feed is no line. -/
def linesOfParts : List (List Char) → List (List Char)
  | [] => []
  | [last] => if last.isEmpty then [] else [last]
  | part :: parts => dropReturn part :: linesOfParts parts

def textLines (text : String) : List String :=
  (linesOfParts (Text.splitOn '\n' text.toList)).map String.ofList

/-- Lines as a text, each ended by a line feed. -/
def joinLines (lines : List String) : String := String.join (lines.map fun line => line ++ "\n")

/-- A line at a level; a blank line is left empty. -/
def indentLine (level : Nat) (line : String) : String :=
  if isBlank line then "" else String.ofList (List.replicate (4 * level) ' ') ++ line

/-- The lines of a text at a level; the empty text is one empty line. -/
def indentText (level : Nat) (text : String) : List String :=
  if text.isEmpty then [""] else (textLines text).map (indentLine level)

def docLine (line : String) : String :=
  if isBlank line then "///" else "/// " ++ String.ofList (Text.trimRight Text.isSpace line.toList)

/-- The lines of a documentation at a level. -/
def docLines (level : Nat) : Option String → List String
  | none => []
  | some text => (textLines text).map fun line => indentLine level (docLine line)

/-- Code laid out already, at a level; line feeds at its end are dropped. -/
def indentCode (level : Nat) (code : String) : List String :=
  indentText level (String.ofList (Text.trimRight (· == '\n') code.toList))

/-- A fragment at a level; nothing if it is blank. -/
def indentFragment (level : Nat) (lines : List String) : List String :=
  if lines.all isBlank then [] else indentCode level (joinLines lines)

/-! ### Steps -/

/-- How many levels the body has opened itself after a step. -/
def Step.levels (opened : Nat) : Step → Nat
  | .indent => opened + 1
  | .dedent => opened - 1
  | _ => opened

mutual

/-- The lines of a step at a level. -/
def Step.lines (level : Nat) : Step → List String
  | .line text => indentText level text
  | .blank => [""]
  | .docs text => docLines level text
  | .code text => indentCode level text
  | .needs _ => []
  | .indent => []
  | .dedent => []
  | .block header close body =>
    indentText level (header ++ " \x7b") ++ layout (level + 1) 0 body ++ indentText level close
  | .absorb body => indentFragment level (layout 0 0 body)

/-- The lines of a body at a level, of which it has opened some more itself. -/
def layout (level opened : Nat) : List Step → List String
  | [] => []
  | step :: rest => step.lines (level + opened) ++ layout level (step.levels opened) rest

end

mutual

/-- What every step wrote, those of a body before the step that holds it. -/
def Step.trace (level : Nat) : Step → List String
  | .block header close body =>
    traces (level + 1) 0 body ++ [joinLines (Step.lines level (.block header close body))]
  | .absorb body => traces 0 0 body ++ [joinLines (Step.lines level (.absorb body))]
  | step => [joinLines (step.lines level)]

def traces (level opened : Nat) : List Step → List String
  | [] => []
  | step :: rest => step.trace (level + opened) ++ traces level (step.levels opened) rest

end

mutual

/-- The step, or one inside it, needs the dependency. -/
def Step.dependsOn (d : Dependency) : Step → Bool
  | .needs e => e == d
  | .block _ _ body => dependsOnAny d body
  | .absorb body => dependsOnAny d body
  | _ => false

def dependsOnAny (d : Dependency) : List Step → Bool
  | [] => false
  | step :: rest => step.dependsOn d || dependsOnAny d rest

end

def textOf (steps : List Step) : String := joinLines (layout 0 0 steps)

/-- What steps depend on, the support library first. -/
def dependenciesOf (steps : List Step) : List Dependency :=
  [Dependency.support, .http].filter fun d => dependsOnAny d steps

/-- A named piece of code and what it depends on. -/
structure Fragment where
  name : String
  code : String
  dependencies : List Dependency
deriving DecidableEq, Repr

def Fragment.ofSteps (name : String) (steps : List Step) : Fragment :=
  ⟨name, textOf steps, dependenciesOf steps⟩

def Fragment.isEmpty (f : Fragment) : Bool := isBlank f.code

/-- A block that a brace closes. -/
def block (header : String) (body : List Step) : Step := .block header "\x7d" body

/-! ### Writers -/

/-- Code that is being written. -/
structure Writer where
  out : String
  level : Nat
  dependencies : List Dependency
deriving DecidableEq, Repr

namespace Writer

def new : Writer := ⟨"", 0, []⟩

/-- Lines at the end of the text. -/
def append (w : Writer) (lines : List String) : Writer := { w with out := w.out ++ joinLines lines }

def writeLine (w : Writer) (text : String) : Writer := w.append (indentText w.level text)

def blankLine (w : Writer) : Writer := w.append [""]

def docs (w : Writer) (text : Option String) : Writer := w.append (docLines w.level text)

def writeCode (w : Writer) (code : String) : Writer := w.append (indentCode w.level code)

def dependsOn (w : Writer) (dependencies : List Dependency) : Writer :=
  { w with dependencies := w.dependencies ++ dependencies }

/-- A fragment at the level of the writer; nothing of a blank one but its dependencies. -/
def absorb (w : Writer) (f : Fragment) : Writer :=
  let w := w.dependsOn f.dependencies
  if f.isEmpty then w else w.writeCode f.code

/-- One more guard. -/
def indent (w : Writer) : Writer := { w with level := w.level + 1 }

/-- So many guards less. -/
def drop (w : Writer) (guards : Nat) : Writer := { w with level := w.level - guards }

def fragment (w : Writer) (name : String) : Fragment :=
  ⟨name, w.out, [Dependency.support, .http].filter fun d => w.dependencies.contains d⟩

end Writer

/-- What is done with a writer. -/
inductive Act
  | line (text : String)
  | blank
  | docs (text : Option String)
  | code (text : String)
  | needs (dependency : Dependency)
  | indent
  | dedent
  /-- What the body gets to, and whether it returns an error then. -/
  | block (header close : String) (body : List Act) (fails : Bool)
  /-- A fragment that a writer of its own has written. -/
  | absorb (name : String) (body : List Act)
deriving Repr, Inhabited

/-- How many guards the body holds after an act. -/
def Act.guards (held : Nat) : Act → Nat
  | .indent => held + 1
  | .dedent => held - 1
  | _ => held

mutual

/-- An act of a body that holds some guards. -/
def Act.run (w : Writer) (held : Nat) : Act → Writer
  | .line text => w.writeLine text
  | .blank => w.blankLine
  | .docs text => w.docs text
  | .code text => w.writeCode text
  | .needs dependency => w.dependsOn [dependency]
  | .indent => w.indent
  | .dedent => if held = 0 then w else w.drop 1
  | .block header close body fails =>
    -- The level goes back before the error is passed on, and then nothing closes the block.
    let w := (runBody (w.writeLine (header ++ " \x7b")).indent 0 body).drop 1
    if fails then w else w.writeLine close
  | .absorb name body => w.absorb ((runBody .new 0 body).fragment name)

/-- The acts of a body that holds some guards, which it drops in the end. -/
def runBody (w : Writer) (held : Nat) : List Act → Writer
  | [] => w.drop held
  | act :: rest => runBody (act.run w held) (act.guards held) rest

end

/-- All of the acts, with their guards dropped. -/
def Writer.run (w : Writer) (acts : List Act) : Writer := runBody w 0 acts

mutual

/-- A step of a layout, as an act. -/
def Step.act : Step → Act
  | .line text => .line text
  | .blank => .blank
  | .docs text => .docs text
  | .code text => .code text
  | .needs dependency => .needs dependency
  | .indent => .indent
  | .dedent => .dedent
  | .block header close body => .block header close (actsOf body) false
  | .absorb body => .absorb "" (actsOf body)

def actsOf : List Step → List Act
  | [] => []
  | step :: rest => step.act :: actsOf rest

end

end WireShapes.Code
