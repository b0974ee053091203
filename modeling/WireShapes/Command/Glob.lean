import WireShapes.Text.Split

/-!
Patterns of file names.

* `GlobToken`, `NamePattern`: a pattern for one name; two stars stand for any number of directories
* `parseTokens?`: the tokens of a pattern, if it is well-formed
* `NamePattern.matches`
* `globParts?`: the patterns of the parts of a path
-/

namespace WireShapes.Command

structure CharRange where
  low : Char
  high : Char
deriving DecidableEq, Repr

def CharRange.has (r : CharRange) (c : Char) : Bool := r.low.toNat ≤ c.toNat && c.toNat ≤ r.high.toNat

inductive GlobToken
  | char (c : Char)
  | any
  | anySequence
  | anyDirectories
  | within (ranges : List CharRange)
  | except (ranges : List CharRange)
deriving DecidableEq, Repr

/-- The character that a token stands for by itself. -/
def GlobToken.char? : GlobToken → Option Char
  | char c => some c
  | _ => none

/-- The ranges between brackets. -/
def charRanges : List Char → List CharRange
  | low :: '-' :: high :: rest => ⟨low, high⟩ :: charRanges rest
  | c :: rest => ⟨c, c⟩ :: charRanges rest
  | [] => []

/-- What stands up to a closing bracket that is not the first character, and what follows it. -/
def takeBracket? : List Char → Option (List Char × List Char)
  | [] => none
  | first :: rest =>
    (Text.splitOnce ']' rest).map fun (inside, after) => (first :: inside, after)

/-- The tokens of a pattern, each of which takes a character at least; `start` says that nothing or a
slash stands before. Two stars are a whole part of the path, and more are none. -/
def tokensFrom? : Nat → Bool → List Char → Option (List GlobToken)
  | _, _, [] => some []
  | 0, _, _ :: _ => none
  | n + 1, start, cs =>
    match cs with
    | [] => some []
    | '?' :: rest => (tokensFrom? n false rest).map (.any :: ·)
    | '*' :: '*' :: rest =>
      if !start then none
      else match rest with
        | [] => some [.anyDirectories]
        | '/' :: more => (tokensFrom? n true more).map (.anyDirectories :: ·)
        | _ => none
    | '*' :: rest => (tokensFrom? n false rest).map (.anySequence :: ·)
    | '[' :: '!' :: rest =>
      match takeBracket? rest with
      | some (inside, after) => (tokensFrom? n false after).map (.except (charRanges inside) :: ·)
      | none => none
    | '[' :: rest =>
      match takeBracket? rest with
      | some (inside, after) => (tokensFrom? n false after).map (.within (charRanges inside) :: ·)
      | none => none
    | c :: rest => (tokensFrom? n (c == '/') rest).map (.char c :: ·)

/-- The tokens of a pattern, if it is well-formed. -/
def parseTokens? (pattern : String) : Option (List GlobToken) :=
  tokensFrom? pattern.length true pattern.toList

/-- A pattern for one name. -/
structure NamePattern where
  tokens : List GlobToken
deriving DecidableEq, Repr

namespace NamePattern

/-- The name that a pattern without special characters stands for. -/
def literal? (p : NamePattern) : Option String :=
  (p.tokens.mapM GlobToken.char?).map String.ofList

/-- The pattern stands for any number of directories. -/
def isRecursive (p : NamePattern) : Bool := p.tokens.contains .anyDirectories

/-- The pattern matches names that start with a dot as it is written. -/
def startsWithDot (p : NamePattern) : Bool := p.tokens.head? == some (.char '.')

end NamePattern

/-- One of the ends of a list satisfies a predicate, the whole list included. -/
def anyTail (p : List Char → Bool) : List Char → Bool
  | [] => p []
  | c :: rest => p (c :: rest) || anyTail p rest

def tokensMatch : List GlobToken → List Char → Bool
  | [], cs => cs.isEmpty
  | .anySequence :: rest, cs => anyTail (tokensMatch rest) cs
  | .anyDirectories :: rest, cs => tokensMatch rest cs
  | .char d :: rest, cs =>
    match cs with
    | c :: more => c == d && tokensMatch rest more
    | [] => false
  | .any :: rest, cs =>
    match cs with
    | _ :: more => tokensMatch rest more
    | [] => false
  | .within ranges :: rest, cs =>
    match cs with
    | c :: more => ranges.any (·.has c) && tokensMatch rest more
    | [] => false
  | .except ranges :: rest, cs =>
    match cs with
    | c :: more => !ranges.any (·.has c) && tokensMatch rest more
    | [] => false

def NamePattern.matches (p : NamePattern) (name : String) : Bool := tokensMatch p.tokens name.toList

/-- The text has characters that make it a pattern. -/
def isGlob (text : String) : Bool :=
  text.toList.any fun c => c == '*' || c == '?' || c == '[' || c == '\x7b'

/-- The patterns of the parts of a path, if the whole and all parts are well-formed. A slash at the end
adds no part. -/
def globParts? (pattern : String) : Option (List NamePattern) := do
  let _ ← parseTokens? pattern
  let segments := Text.splitOn '/' pattern.toList
  let segments := if segments.getLast? = some [] then segments.dropLast else segments
  segments.mapM fun segment => (parseTokens? (String.ofList segment)).map NamePattern.mk

end WireShapes.Command
