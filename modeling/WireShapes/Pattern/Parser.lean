import WireShapes.Pattern.Form
import WireShapes.Pattern.Property

/-!
Reading patterns.

* `Form.parse?`: the form of a pattern, if it follows the grammar and is not nested too deep

The grammar has alternatives, repetitions, groups with names and flags, bracketed classes with set
operations, and escapes. There are no references to groups and no look-around. A verbose pattern may
have blanks and comments between its parts, and also inside counts, classes and escapes with braces.
-/

namespace WireShapes.Pattern

/-! ### Blanks and comments -/

/-- The characters that satisfy the test, up to the first that does not, and the rest; what a verbose
pattern skips is left out. -/
def readWhile (verbose : Bool) (test : Char → Bool) (inComment : Bool) :
    List Char → List Char × List Char
  | [] => ([], [])
  | c :: rest =>
    if inComment then readWhile verbose test (c != '\n') rest
    else if verbose && c == '#' then readWhile verbose test true rest
    else if verbose && Text.isSpace c then readWhile verbose test false rest
    else if test c then
      let (read, rest) := readWhile verbose test false rest
      (c :: read, rest)
    else ([], c :: rest)

/-- Leaves out the blanks and comments of a verbose pattern. -/
def skip (verbose : Bool) (cs : List Char) : List Char :=
  (readWhile verbose (fun _ => false) false cs).2

/-- What stands up to a closing brace, and the rest behind it. -/
def takeBraced? (verbose : Bool) (cs : List Char) : Option (List Char × List Char) :=
  match readWhile verbose (· != '\x7d') false cs with
  | (body, _ :: rest) => some (body, rest)
  | (_, []) => none

/-! ### Escapes -/

/-- What an escape or a single character stands for. -/
inductive Piece
  | char (c : Glyph)
  | set (s : ClassForm)
  | place (p : Place)

def hexDigit? (c : Char) : Option Nat :=
  if 48 ≤ c.toNat ∧ c.toNat ≤ 57 then some (c.toNat - 48)
  else if 65 ≤ c.toNat ∧ c.toNat ≤ 70 then some (c.toNat - 55)
  else if 97 ≤ c.toNat ∧ c.toNat ≤ 102 then some (c.toNat - 87)
  else none

/-- The number of a non-empty row of hexadecimal digits. -/
def hexNumber? (ds : List Char) : Option Nat :=
  if ds.isEmpty then none
  else ds.foldlM (fun n c => (hexDigit? c).map (n * 16 + ·)) 0

/-- The character of a code point that is no surrogate. -/
def scalar? (n : Nat) : Option Char :=
  if n < 0xD800 ∨ (0xDFFF < n ∧ n ≤ lastPoint) then some (Char.ofNat n) else none

/-- A number of characters, blanks of a verbose pattern left out. -/
def takeMany? (verbose : Bool) : Nat → List Char → Option (List Char × List Char)
  | 0, cs => some ([], cs)
  | n + 1, cs =>
    match skip verbose cs with
    | [] => none
    | c :: rest => (takeMany? verbose n rest).map fun r => (c :: r.1, r.2)

/-- A code point in hexadecimal: in braces, or of a fixed number of digits. -/
def takeHex? (verbose : Bool) (width : Nat) (cs : List Char) : Option (Glyph × List Char) :=
  match skip verbose cs with
  | '\x7b' :: body => do
    let (digits, rest) ← takeBraced? verbose body
    some (⟨← scalar? (← hexNumber? digits), false⟩, rest)
  | cs => do
    let (digits, rest) ← takeMany? verbose width cs
    some (⟨← scalar? (← hexNumber? digits), width == 2⟩, rest)

/-- What stands before and behind the first occurrence of a mark. -/
def splitAround? (mark : List Char) : List Char → Option (List Char × List Char)
  | [] => none
  | c :: rest =>
    if mark.isPrefixOf (c :: rest) then some ([], (c :: rest).drop mark.length)
    else (splitAround? mark rest).map fun r => (c :: r.1, r.2)

/-- The set of a property in braces. A value may follow any of three marks, which mean the same. -/
def namedSet? (name : List Char) : Option CharSet :=
  match splitAround? ['!', '='] name <|> splitAround? [':'] name <|> splitAround? ['='] name with
  | some (property, value) => CharSet.ofPropertyValue? property value
  | none => CharSet.ofProperty? name

/-- A property: one letter, or a name in braces. -/
def takeProperty? (verbose : Bool) (cs : List Char) : Option (CharSet × List Char) :=
  match skip verbose cs with
  | [] => none
  | '\x7b' :: body => do
    let (name, rest) ← takeBraced? verbose body
    some (← namedSet? name, rest)
  | '\\' :: _ => none
  | c :: rest => do some (← CharSet.ofProperty? [c], rest)

/-- Characters with a meaning of their own. -/
def isMeta (c : Char) : Bool :=
  ['\\', '.', '+', '*', '?', '(', ')', '|', '[', ']', '\x7b', '\x7d', '^', '$', '#', '&', '-',
    '~'].contains c

/-- Characters that may stand behind a backslash for themselves. -/
def isEscapable (c : Char) : Bool :=
  isMeta c || (c.toNat < 128 && !(Text.isAlphanumeric c) && c != '<' && c != '>')

/-- The condition that a name in braces gives to a word edge. -/
def edgeNamed? (name : List Char) : Option Place :=
  match String.ofList name with
  | "start" => some .wordStart
  | "end" => some .wordEnd
  | "start-half" => some .wordStartHalf
  | "end-half" => some .wordEndHalf
  | _ => none

/-- A word edge: plain, or with a name in braces. Braces that hold no name are a repetition. -/
def takeEdge? (verbose : Bool) (cs : List Char) : Option (Place × List Char) :=
  match cs with
  | '\x7b' :: body =>
    match skip verbose body with
    | [] => none
    | c :: _ =>
      if Text.isAsciiCapital c || Text.isAsciiSmall c || c == '-' then do
        let (name, rest) ← takeBraced? verbose body
        some (← edgeNamed? name, rest)
      else some (.wordEdge, cs)
  | _ => some (.wordEdge, cs)

/-- What stands behind a backslash. -/
def takeEscape? (verbose : Bool) (cs : List Char) : Option (Piece × List Char) :=
  let plain := fun (c : Char) (rest : List Char) => some (Piece.char ⟨c, false⟩, rest)
  let shorthand := fun (negated : Bool) (kind : Shorthand) (rest : List Char) =>
    some (Piece.set (.shorthand negated kind), rest)
  let place := fun (p : Place) (rest : List Char) => some (Piece.place p, rest)
  match cs with
  | [] => none
  | 'd' :: rest => shorthand false .digit rest
  | 'D' :: rest => shorthand true .digit rest
  | 's' :: rest => shorthand false .space rest
  | 'S' :: rest => shorthand true .space rest
  | 'w' :: rest => shorthand false .word rest
  | 'W' :: rest => shorthand true .word rest
  | 'p' :: rest => (takeProperty? verbose rest).map fun r => (.set (.property false r.1), r.2)
  | 'P' :: rest => (takeProperty? verbose rest).map fun r => (.set (.property true r.1), r.2)
  | 'x' :: rest => (takeHex? verbose 2 rest).map fun r => (.char r.1, r.2)
  | 'u' :: rest => (takeHex? verbose 4 rest).map fun r => (.char r.1, r.2)
  | 'U' :: rest => (takeHex? verbose 8 rest).map fun r => (.char r.1, r.2)
  | 'a' :: rest => plain '\x07' rest
  | 'f' :: rest => plain '\x0c' rest
  | 't' :: rest => plain '\t' rest
  | 'n' :: rest => plain '\n' rest
  | 'r' :: rest => plain '\r' rest
  | 'v' :: rest => plain '\x0b' rest
  | 'A' :: rest => place .textStart rest
  | 'z' :: rest => place .textEnd rest
  | 'b' :: rest => (takeEdge? verbose rest).map fun r => (.place r.1, r.2)
  | 'B' :: rest => place .notWordEdge rest
  | '<' :: rest => place .wordStart rest
  | '>' :: rest => place .wordEnd rest
  | c :: rest => if isEscapable c then plain c rest else none

/-! ### Bracketed classes -/

/-- The operands so far, joined from the left. -/
def joinOperand (left : Option (ClassForm × Joint)) (right : ClassForm) : ClassForm :=
  match left with
  | none => right
  | some (l, joint) => .joined joint l right

/-- A named set in brackets and colons, after its opening bracket. -/
def takePosix? (cs : List Char) : Option (ClassForm × List Char) :=
  match cs with
  | ':' :: body =>
    let inner := body.takeWhile (· != ':')
    match body.dropWhile (· != ':') with
    | ':' :: ']' :: rest =>
      match inner with
      | '^' :: name => (CharSet.ofPosix? (String.ofList name)).map fun s => (.posix true s, rest)
      | name => (CharSet.ofPosix? (String.ofList name)).map fun s => (.posix false s, rest)
    | _ => none
  | _ => none

/-- One character of a class, or a set. -/
def takePiece? (verbose : Bool) (cs : List Char) : Option (Piece × List Char) :=
  match cs with
  | [] => none
  | '\\' :: rest => takeEscape? verbose rest
  | c :: rest => some (.char ⟨c, false⟩, rest)

/-- A piece as an item of a class; a condition on a position is none. -/
def Piece.toClass? : Piece → Option ClassForm
  | char c => some (.char c)
  | set s => some s
  | place _ => none

/-- The character that decides whether a hyphen makes a range. In a verbose pattern, blanks and the
mark of one comment are passed over, but not the comment. -/
def afterHyphen (verbose : Bool) (cs : List Char) : Option Char :=
  if verbose then
    match cs.dropWhile Text.isSpace with
    | '#' :: rest => (rest.dropWhile Text.isSpace).head?
    | rest => rest.head?
  else cs.head?

/-- An item of a class: a range if a hyphen follows that is not the last character and not the first
of two. -/
def takeClassItem? (verbose : Bool) (cs : List Char) : Option (ClassForm × List Char) := do
  let (first, rest) ← takePiece? verbose cs
  match skip verbose rest with
  | [] => none
  | '-' :: after =>
    if afterHyphen verbose after = some ']' ∨ afterHyphen verbose after = some '-' then
      some (← first.toClass?, '-' :: after)
    else
      match first, ← takePiece? verbose (skip verbose after) with
      | .char low, (.char high, rest) =>
        if low.char.toNat ≤ high.char.toNat then some (.range low high, rest) else none
      | _, _ => none
  | rest => some (← first.toClass?, rest)

/-- How a class opens after its bracket: a caret negates it, hyphens stand for themselves, and so does
a closing bracket that comes first. -/
def openClass (verbose : Bool) (cs : List Char) : Bool × ClassForm × List Char :=
  let (negated, cs) := match skip verbose cs with
    | '^' :: rest => (true, skip verbose rest)
    | rest => (false, rest)
  match readWhile verbose (· == '-') false cs with
  | ([], ']' :: rest) => (negated, .char ⟨']', false⟩, rest)
  | (hyphens, rest) => (negated, hyphens.foldl (fun f c => f.add (.char ⟨c, false⟩)) .empty, rest)

/-- The items of a class up to its closing bracket; `items` are those of the current operand. Every
round reads a character. -/
def takeItems? (verbose : Bool) : Nat → Option (ClassForm × Joint) → ClassForm → List Char →
    Option (ClassForm × List Char)
  | 0, _, _, _ => none
  | rounds + 1, left, items, cs =>
    let join := fun (joint : Joint) (rest : List Char) =>
      takeItems? verbose rounds (some (joinOperand left items, joint)) .empty rest
    match skip verbose cs with
    | [] => none
    | ']' :: rest => some (joinOperand left items, rest)
    | '&' :: '&' :: rest => join .inter rest
    | '-' :: '-' :: rest => join .diff rest
    | '~' :: '~' :: rest => join .symm rest
    | '[' :: rest =>
      match takePosix? rest with
      | some (s, rest) => takeItems? verbose rounds left (items.add s) rest
      | none =>
        let (negated, first, rest) := openClass verbose rest
        match takeItems? verbose rounds none first rest with
        | some (body, rest) =>
          takeItems? verbose rounds left (items.add (.bracket negated body)) rest
        | none => none
    | cs =>
      match takeClassItem? verbose cs with
      | some (item, rest) => takeItems? verbose rounds left (items.add item) rest
      | none => none

/-- A class after its opening bracket. -/
def takeClass? (verbose : Bool) (cs : List Char) : Option (ClassForm × List Char) :=
  let (negated, first, rest) := openClass verbose cs
  (takeItems? verbose (rest.length + 1) none first rest).map fun r => (.bracket negated r.1, r.2)

/-! ### Groups -/

def Flag.ofChar? : Char → Option Flag
  | 'i' => some .anyCase
  | 'm' => some .multiLine
  | 's' => some .dotAll
  | 'U' => some .reluctant
  | 'u' => some .unicode
  | 'R' => some .carriageReturn
  | 'x' => some .verbose
  | _ => none

/-- A flag list up to its end mark: every letter once, at most one minus sign, and a letter behind
it. The flag in the answer says whether a group body follows. -/
def takeFlags? (on : Bool) (afterMinus : Bool) (change : FlagChange) : List Char →
    Option (FlagChange × Bool × List Char)
  | [] => none
  | c :: rest =>
    if c = ':' ∨ c = ')' then
      if afterMinus then none else some (change, c == ':', rest)
    else if c = '-' then
      if on then takeFlags? false true change rest else none
    else
      match Flag.ofChar? c with
      | some flag =>
        if change.any (·.1 == flag) then none else takeFlags? on false (change ++ [(flag, on)]) rest
      | none => none

/-- Letters and numerals that may start the name of a group. -/
def startsName (c : Char) : Bool :=
  c == '_' || CharSet.alphabetic.mem c

/-- The name of a group up to its closing angle bracket. -/
def takeName? (cs : List Char) : Option (List Char × List Char) :=
  match cs.takeWhile (· != '>'), cs.dropWhile (· != '>') with
  | c :: more, _ :: rest =>
    let goesOn := more.all fun d =>
      d == '_' || d == '.' || d == '[' || d == ']' || Text.isAlphanumeric d
    if startsName c && goesOn then some (c :: more, rest) else none
  | _, _ => none

/-- What an opening parenthesis begins. -/
inductive Opening
  | flags (change : FlagChange)
  | group (captures : Bool) (name : Option (List Char)) (change : FlagChange)

/-- What stands between an opening parenthesis and the body of the group. -/
def takeOpening? (verbose : Bool) (cs : List Char) : Option (Opening × List Char) :=
  let named := fun (cs : List Char) =>
    (takeName? cs).map fun r => (Opening.group true (some r.1) [], r.2)
  match skip verbose cs with
  | '?' :: 'P' :: '<' :: rest => named rest
  | '?' :: '<' :: rest => named rest
  | '?' :: rest =>
    match takeFlags? true false [] rest with
    | some (change, true, rest) => some (.group false none change, rest)
    | some ([], false, _) => none
    | some (change, false, rest) => some (.flags change, rest)
    | none => none
  | rest => some (.group true none [], rest)

/-- Whether blanks are skipped after a change of flags. -/
def verboseAfter (verbose : Bool) (change : FlagChange) : Bool :=
  ((change.find? (·.1 == .verbose)).map (·.2)).getD verbose

/-! ### Repetitions -/

/-- A number below 2³², with blanks around it. -/
def takeNumber? (verbose : Bool) (cs : List Char) : Option Nat × List Char :=
  let (digits, rest) := readWhile verbose Text.isAsciiDigit false (cs.dropWhile Text.isSpace)
  let n := digits.foldl (fun n c => n * 10 + (c.toNat - 48)) 0
  (if digits.isEmpty || n ≥ 4294967296 then none else some n, rest.dropWhile Text.isSpace)

/-- The bounds of a counted repetition after its opening brace. -/
def takeBounds? (verbose : Bool) (cs : List Char) : Option ((Nat × Option Nat) × List Char) :=
  match takeNumber? verbose (skip verbose cs) with
  | (some least, '\x7d' :: rest) => some ((least, some least), rest)
  | (some least, ',' :: more) =>
    match skip verbose more with
    | '\x7d' :: rest => some ((least, none), rest)
    | more =>
      match takeNumber? verbose more with
      | (some most, '\x7d' :: rest) =>
        if least ≤ most then some ((least, some most), rest) else none
      | _ => none
  | _ => none

/-- Repeats the item read last; a flag list cannot be repeated. -/
def repeatLast? (least : Nat) (most : Option Nat) : List Form → Option (List Form)
  | .flags _ :: _ => none
  | e :: items => some (.times least most e :: items)
  | [] => none

/-- Leaves out the mark of a reluctant repetition. -/
def skipReluctant (cs : List Char) : List Char :=
  match cs with
  | '?' :: rest => rest
  | _ => cs

/-! ### Patterns -/

/-- Items in reverse order put in a row. -/
def inRow : List Form → Form
  | [] => .empty
  | last :: items => items.foldl (fun acc item => .both item acc) last

/-- Alternatives in reverse order, and the last. -/
def anyOf (alternatives : List Form) (last : Form) : Form :=
  alternatives.foldl (fun acc e => .either e acc) last

/-- A piece as a part of a pattern. -/
def Piece.toForm : Piece → Form
  | char c => .char c
  | set s => .set s
  | place p => .place p

/-- Reads up to the end or to a closing parenthesis. `names` are those of the groups so far;
`alternatives` and `items` hold in reverse order what stands before. Every round reads a character. -/
def takeBody? : Nat → Bool → List (List Char) → List Form → List Form → List Char →
    Option (Form × List (List Char) × List Char)
  | 0, _, _, _, _, _ => none
  | rounds + 1, verbose, names, alternatives, items, cs =>
    let go := fun (e : Form) (rest : List Char) =>
      takeBody? rounds verbose names alternatives (e :: items) rest
    let again := fun (least : Nat) (most : Option Nat) (rest : List Char) =>
      match repeatLast? least most items with
      | some items => takeBody? rounds verbose names alternatives items (skipReluctant rest)
      | none => none
    match skip verbose cs with
    | [] => some (anyOf alternatives (inRow items), names, [])
    | ')' :: rest => some (anyOf alternatives (inRow items), names, ')' :: rest)
    | '|' :: rest => takeBody? rounds verbose names (inRow items :: alternatives) [] rest
    | '*' :: rest => again 0 none rest
    | '+' :: rest => again 1 none rest
    | '?' :: rest => again 0 (some 1) rest
    | '\x7b' :: rest =>
      match takeBounds? verbose rest with
      | some ((least, most), rest) => again least most (skip verbose rest)
      | none => none
    | '.' :: rest => go .dot rest
    | '^' :: rest => go (.place .lineStart) rest
    | '$' :: rest => go (.place .lineEnd) rest
    | '[' :: rest =>
      match takeClass? verbose rest with
      | some (s, rest) => go (.set s) rest
      | none => none
    | '\\' :: rest =>
      match takeEscape? verbose rest with
      | some (e, rest) => go e.toForm rest
      | none => none
    | '(' :: rest =>
      match takeOpening? verbose rest with
      | some (.flags change, rest) =>
        takeBody? rounds (verboseAfter verbose change) names alternatives (.flags change :: items)
          rest
      | some (.group captures name change, rest) =>
        if (name.map names.contains).getD false then none
        else
          match takeBody? rounds (verboseAfter verbose change) (name.toList ++ names) [] [] rest with
          | some (body, names, ')' :: rest) =>
            takeBody? rounds verbose names alternatives (.group captures change body :: items) rest
          | _ => none
      | none => none
    | c :: rest => go (.char ⟨c, false⟩) rest

def maxDepth : Nat := 250

def Form.parse? (pattern : String) : Option Form :=
  match takeBody? (pattern.length + 1) false [] [] [] pattern.toList with
  | some (form, _, []) => if form.depth ≤ maxDepth then some form else none
  | _ => none

end WireShapes.Pattern
