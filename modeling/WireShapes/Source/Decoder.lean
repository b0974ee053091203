import WireShapes.Source.Scan
import WireShapes.Source.Value

/-!
Decoders of source documents. A decoder reads a value from the text and knows where it stands, so
that a failure can name its place: the path of the innermost value that was being read.

* `Path`: keys and indices from the inside out; `Path.text`: its written form, a full stop for the document
  itself
* `Decoder`, `Place`
* `text`, `value`, `optional`, `items`, `table`: decoders of texts, any values, values that may be
  null, rows and maps
* `record`: fields by name, or by position in a row
-/

namespace WireShapes.Source

/-! ### Paths -/

/-- A step into a document. -/
inductive PathPart
  | key (name : String)
  | index (i : Nat)
  /-- A key that could not be read. -/
  | unknown
deriving DecidableEq, Repr

/-- Steps into a document, the innermost first. -/
abbrev Path := List PathPart

/-- A step as it is written after others, or as the first. -/
def PathPart.text (first : Bool) : PathPart → String
  | key name => if first then name else "." ++ name
  | index i => s!"[{i}]"
  | unknown => if first then "?" else ".?"

def Path.text (path : Path) : String :=
  match path.reverse with
  | [] => "."
  | part :: parts => part.text true ++ String.join (parts.map (PathPart.text false))

/-! ### Decoders -/

/-- Where a decoder stands: the path, and how many containers may still be opened. -/
structure Place where
  path : Path
  room : Nat

/-- The place of the document itself. -/
def Place.root : Place := ⟨[], 128⟩

/-- A step into the container at a place. -/
def Place.down (p : Place) (part : PathPart) : Place := ⟨part :: p.path, p.room - 1⟩

/-- Reads a value and gives what follows it, or fails at a path. -/
abbrev Decoder (α : Type) := Place → List Char → Except Path (α × List Char)

/-- What follows the opening of a container, if there is room for one more. -/
def enter {α : Type} (here : Place) (k : Except Path α) : Except Path α :=
  if here.room ≤ 1 then .error here.path else k

/-- An optional result, or a failure at the place. -/
def orFail {α : Type} (path : Path) : Option α → Except Path α
  | some v => .ok v
  | none => .error path

/-- What follows the colon after a key. -/
def takeColon (path : Path) (cs : List Char) : Except Path (List Char) :=
  match skipBlanks cs with
  | ':' :: rest => .ok rest
  | _ => .error path

/-- The next key of the object at a place: none at its end. -/
def nextKey (here : Place) (first : Bool) (cs : List Char) : Except Path (Option String × List Char) :=
  let broken : Except Path (Option String × List Char) := .error (.unknown :: here.path)
  let key (cs : List Char) : Except Path (Option String × List Char) :=
    match skipBlanks cs with
    | '"' :: rest =>
      match takeString? rest with
      | some (name, rest) => .ok (some name, rest)
      | none => broken
    | _ => broken
  match skipBlanks cs with
  | '\x7d' :: rest => .ok (none, '\x7d' :: rest)
  | ',' :: rest => if first then broken else key rest
  | rest => if first then key rest else broken

/-- Whether the array at a place has an element of the given index; a comma before it is passed. -/
def nextItem (here : Place) (i : Nat) (cs : List Char) : Except Path (Bool × List Char) :=
  let broken : Except Path (Bool × List Char) := .error (.index i :: here.path)
  match skipBlanks cs with
  | [] => broken
  | ']' :: rest => .ok (false, ']' :: rest)
  | ',' :: rest =>
    if i = 0 then .ok (true, ',' :: rest)
    else
      match skipBlanks rest with
      | [] => broken
      | ']' :: _ => broken
      | rest => .ok (true, rest)
  | rest => if i = 0 then .ok (true, rest) else broken

/-- What follows the end of the array at a place. -/
def endItems (here : Place) (cs : List Char) : Except Path (List Char) :=
  match skipBlanks cs with
  | ']' :: rest => .ok rest
  | _ => .error here.path

/-- Reads the elements of an open array. -/
def itemsFrom {α : Type} (decode : Decoder α) (here : Place) : Nat → Nat → Decoder (List α)
  | 0, _ => fun _ _ => .error here.path
  | rounds + 1, i => fun _ cs => do
    let (more, cs) ← nextItem here i cs
    if more then
      let (item, cs) ← decode (here.down (.index i)) cs
      let (rest, cs) ← itemsFrom decode here rounds (i + 1) here cs
      .ok (item :: rest, cs)
    else .ok ([], cs)

def items {α : Type} (decode : Decoder α) : Decoder (List α) := fun here cs =>
  match skipBlanks cs with
  | '[' :: rest => enter here do
    let (list, cs) ← itemsFrom decode here (rest.length + 1) 0 here rest
    let cs ← endItems here cs
    .ok (list, cs)
  | _ => .error here.path

/-- Reads the entries of an open object after those in hand. -/
def tableFrom {α : Type} (decode : Decoder α) (here : Place) :
    Nat → Bool → List (String × α) → List Char → Except Path (List (String × α) × List Char)
  | 0, _, _, _ => .error here.path
  | rounds + 1, first, entries, cs => do
    match ← nextKey here first cs with
    | (none, cs) => .ok (entries, cs.drop 1)
    | (some key, cs) =>
      let inside := here.down (.key key)
      let cs ← takeColon inside.path cs
      let (value, cs) ← decode inside cs
      tableFrom decode here rounds false (Entries.insert key value entries) cs

/-- A map from keys to values, in order of insertion. -/
def table {α : Type} (decode : Decoder α) : Decoder (List (String × α)) := fun here cs =>
  match skipBlanks cs with
  | '\x7b' :: rest => enter here (tableFrom decode here (rest.length + 1) true [] rest)
  | _ => .error here.path

def text : Decoder String := fun here cs =>
  match skipBlanks cs with
  | '"' :: rest => orFail here.path (takeString? rest)
  | _ => .error here.path

def truth : Decoder Bool := fun here cs =>
  match skipBlanks cs with
  | 't' :: rest => orFail here.path ((takeWord? "rue" rest).map fun r => (true, r))
  | 'f' :: rest => orFail here.path ((takeWord? "alse" rest).map fun r => (false, r))
  | _ => .error here.path

def optional {α : Type} (decode : Decoder α) : Decoder (Option α) := fun here cs =>
  match skipBlanks cs with
  | 'n' :: rest => orFail here.path ((takeWord? "ull" rest).map fun r => (none, r))
  | cs => (decode here cs).map fun r => (some r.1, r.2)

/-- A value that is passed over. -/
def ignored : Decoder Unit := fun here cs =>
  orFail here.path ((ignoreValue? (2 * cs.length + 2) cs).map fun rest => ((), rest))

/-- Any value, nested to a bounded depth. -/
def valueIn : Nat → Decoder Value
  | 0 => fun here _ => .error here.path
  | depth + 1 => fun here cs =>
    match skipBlanks cs with
    | 'n' :: rest => orFail here.path ((takeWord? "ull" rest).map fun r => (.null, r))
    | 't' :: rest => orFail here.path ((takeWord? "rue" rest).map fun r => (.bool true, r))
    | 'f' :: rest => orFail here.path ((takeWord? "alse" rest).map fun r => (.bool false, r))
    | '"' :: rest => orFail here.path ((takeString? rest).map fun r => (.string r.1, r.2))
    | '[' :: rest => (items (valueIn depth) here ('[' :: rest)).map fun r => (.array r.1, r.2)
    | '\x7b' :: rest => (table (valueIn depth) here ('\x7b' :: rest)).map fun r => (.object r.1, r.2)
    | cs => orFail here.path ((takeNumber? cs).map fun r => (.number r.1, r.2))

def value : Decoder Value := fun here cs => valueIn (here.room + 1) here cs

/-! ### Records -/

/-- A field of a record that is being put together. -/
structure Field (σ : Type) where
  name : String
  /-- The record has the field already. -/
  isSet : σ → Bool
  /-- Reads the field into the record. -/
  read : σ → Decoder σ
  /-- A row may end before the field. -/
  trailing : Bool

/-- Reads the entries of an open object into a record. A field that comes twice fails at the record,
one that is unknown is passed over or, in a strict record, fails at its key. -/
def fieldsFrom {σ : Type} (fields : List (Field σ)) (strict : Bool) (here : Place) :
    Nat → Bool → σ → List Char → Except Path (σ × List Char)
  | 0, _, _, _ => .error here.path
  | rounds + 1, first, acc, cs => do
    match ← nextKey here first cs with
    | (none, cs) => .ok (acc, cs.drop 1)
    | (some key, cs) =>
      let inside := here.down (.key key)
      match fields.find? (·.name == key) with
      | some field =>
        if field.isSet acc then .error here.path
        let cs ← takeColon inside.path cs
        let (acc, cs) ← field.read acc inside cs
        fieldsFrom fields strict here rounds false acc cs
      | none =>
        if strict then .error inside.path
        let cs ← takeColon inside.path cs
        let (_, cs) ← ignored inside cs
        fieldsFrom fields strict here rounds false acc cs

/-- Reads the elements of an open array into the fields of a record in their order. -/
def positionsFrom {σ : Type} (here : Place) : List (Field σ) → Nat → σ → List Char →
    Except Path (σ × List Char)
  | [], _, acc, cs => .ok (acc, cs)
  | field :: fields, i, acc, cs => do
    let (more, cs) ← nextItem here i cs
    if more then
      let (acc, cs) ← field.read acc (here.down (.index i)) cs
      positionsFrom here fields (i + 1) acc cs
    else if field.trailing then positionsFrom here fields i acc cs
    else .error here.path

/-- A record: an object with its fields, or an array of them in order. `finish` gives the record if
nothing is missing. -/
def record {σ α : Type} (fields : List (Field σ)) (strict : Bool) (start : σ) (finish : σ → Option α) :
    Decoder α := fun here cs =>
  match skipBlanks cs with
  | '\x7b' :: rest => enter here do
    let (acc, cs) ← fieldsFrom fields strict here (rest.length + 1) true start rest
    let made ← orFail here.path (finish acc)
    .ok (made, cs)
  | '[' :: rest => enter here do
    let (acc, cs) ← positionsFrom here fields 0 start rest
    let cs ← endItems here cs
    let made ← orFail here.path (finish acc)
    .ok (made, cs)
  | _ => .error here.path

/-- Decodes the first value of a document; what follows it does not matter. -/
def decode {α : Type} (decoder : Decoder α) (source : String) : Except Path α :=
  (decoder .root source.toList).map (·.1)

end WireShapes.Source
