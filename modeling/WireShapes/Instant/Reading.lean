import WireShapes.Instant.Basic
import WireShapes.Text.Chars

/-!
Reading points in time.

* `Instant.read`: the instant of a text in a format
* `readDateTime?`: date and time with an offset; a leap second runs into the next minute
* `readHttpDate?`: the weekday has to be that of the date, and a leap second counts as the second
  before it
* `TimeError.message`
-/

namespace WireShapes

/-- A text that is no time in the format. -/
structure TimeError where
  format : TimeFormat
  value : String
deriving DecidableEq, Repr

def TimeError.message (e : TimeError) : String :=
  s!"invalid {e.format.name} timestamp `{e.value}`"

namespace Instant

open Decimal (digitsValue isDigit)

/-- A number of at least one and at most `most` digits, and what follows it. -/
def takeNumber? (most : Nat) (cs : List Char) : Option (Nat × List Char) :=
  let ds := (cs.take most).takeWhile isDigit
  if ds.isEmpty then none else some (digitsValue ds, cs.drop ds.length)

/-- A number of exactly `width` digits, and what follows it. -/
def takeFixed? (width : Nat) (cs : List Char) : Option (Nat × List Char) :=
  let ds := (cs.take width).takeWhile isDigit
  if ds.length = width then some (digitsValue ds, cs.drop width) else none

/-- One of the given characters, and what follows it. -/
def takeChar? (p : Char → Bool) : List Char → Option (List Char)
  | c :: rest => if p c then some rest else none
  | [] => none

/-- Nanoseconds of a fraction; digits beyond the ninth are dropped. -/
def takeFraction? : List Char → Option (Nat × List Char)
  | '.' :: rest =>
    let ds := rest.takeWhile isDigit
    if ds.isEmpty then none
    else
      let kept := ds.take 9
      some (digitsValue kept * Nat.pow 10 (9 - kept.length), rest.dropWhile isDigit)
  | cs => some (0, cs)

/-- Seconds east of the zero meridian: a zulu letter, or hours and minutes after a sign. -/
def readOffset? : List Char → Option Int
  | [] => none
  | sign :: rest =>
    if sign = 'Z' ∨ sign = 'z' then (if rest.isEmpty then some 0 else none)
    else do
      let negative ← if sign = '+' then some false
        else if sign = '-' ∨ sign = '−' then some true else none
      let (hours, rest) ← takeFixed? 2 rest
      let rest ← takeChar? (· == ':') rest
      let (minutes, rest) ← takeFixed? 2 rest
      if rest.isEmpty ∧ minutes < 60 ∧ hours < 24 then
        let seconds : Int := hours * 3600 + minutes * 60
        some (if negative then -seconds else seconds)
      else none

def secondsOf (date : Date) (hour minute second : Nat) : Int :=
  date.toDays * 86400 + hour * 3600 + minute * 60 + second

def readDateTime? (cs : List Char) : Option Instant := do
  let (year, cs) ← takeFixed? 4 cs
  let cs ← takeChar? (· == '-') cs
  let (month, cs) ← takeFixed? 2 cs
  let cs ← takeChar? (· == '-') cs
  let (day, cs) ← takeFixed? 2 cs
  let cs ← takeChar? (fun c => c == 'T' || c == 't' || c == ' ') cs
  let (hour, cs) ← takeFixed? 2 cs
  let cs ← takeChar? (· == ':') cs
  let (minute, cs) ← takeFixed? 2 cs
  let cs ← takeChar? (· == ':') cs
  let (second, cs) ← takeFixed? 2 cs
  let (nanos, cs) ← takeFraction? cs
  let offset ← readOffset? cs
  let date : Date := ⟨year, month, day⟩
  if date.isValid ∧ hour < 24 ∧ minute < 60 ∧ second ≤ 60 then
    some (ofSeconds (secondsOf date hour minute second - offset) nanos)
  else none

/-- The place of a three-letter name in a list, letters of either case, and what follows it. -/
def takeName? (names : List String) (cs : List Char) : Option (Nat × List Char) :=
  let word := (cs.take 3).map Char.toLower
  match names.findIdx? fun n => n.toList.map Char.toLower = word with
  | some i => some (i, cs.drop 3)
  | none => none

def skipSpace (cs : List Char) : List Char := cs.dropWhile Text.isSpace

/-- A year of at most four digits, or of any number of digits after a sign. -/
def takeYear? (cs : List Char) : Option (Int × List Char) :=
  match cs with
  | '-' :: rest => (takeNumber? rest.length rest).map fun r => (-(r.1 : Int), r.2)
  | '+' :: rest => (takeNumber? rest.length rest).map fun r => ((r.1 : Int), r.2)
  | _ => (takeNumber? 4 cs).map fun r => ((r.1 : Int), r.2)

/-- The seconds of a date and time without fraction and zone. -/
def readHttpSeconds? (cs : List Char) : Option Int := do
  let (dayOfWeek, cs) ← takeName? weekdayNames cs
  let cs ← takeChar? (· == ',') cs
  let (day, cs) ← takeNumber? 2 (skipSpace cs)
  let (month0, cs) ← takeName? monthNames (skipSpace cs)
  let (year, cs) ← takeYear? (skipSpace cs)
  let (hour, cs) ← takeNumber? 2 (skipSpace cs)
  let cs ← takeChar? (· == ':') cs
  let (minute, cs) ← takeNumber? 2 (skipSpace cs)
  let cs ← takeChar? (· == ':') cs
  let (second, cs) ← takeNumber? 2 (skipSpace cs)
  let date : Date := ⟨year, month0 + 1, day⟩
  if cs.isEmpty ∧ date.isValid ∧ -262143 ≤ year ∧ year ≤ 262142 ∧ hour < 24 ∧ minute < 60
      ∧ second ≤ 60 ∧ weekday date.toDays = dayOfWeek then
    some (secondsOf date hour minute (min second 59))
  else none

/-- The parts around the last full stop. -/
def splitLastPoint (cs : List Char) : List Char × Option (List Char) :=
  if cs.contains '.' then
    let fraction := (cs.reverse.takeWhile (· != '.')).reverse
    (cs.take (cs.length - fraction.length - 1), some fraction)
  else (cs, none)

/-- The text without the given ending. -/
def dropEnding? (ending cs : List Char) : Option (List Char) :=
  if ending.isSuffixOf cs then some (cs.take (cs.length - ending.length)) else none

def readHttpDate? (cs : List Char) : Option Instant := do
  let body ← dropEnding? [' ', 'G', 'M', 'T'] cs
  let (whole, fraction) := splitLastPoint body
  let nanos ← match fraction with
    | none => some 0
    | some ds =>
      if ds.isEmpty ∨ 9 < ds.length ∨ !ds.all isDigit then none
      else some (digitsValue ds * Nat.pow 10 (9 - ds.length))
  let seconds ← readHttpSeconds? whole
  some (ofSeconds seconds nanos)

def readEpochSeconds? (cs : List Char) : Option Instant :=
  match Decimal.readDouble? cs with
  | some x => if x.isFinite then some (ofDouble x) else none
  | none => none

def read (value : String) (format : TimeFormat) : Except TimeError Instant :=
  let found := match format with
    | .dateTime => readDateTime? value.toList
    | .httpDate => readHttpDate? value.toList
    | .epochSeconds => readEpochSeconds? value.toList
  match found with
  | some t => .ok t
  | none => .error ⟨format, value⟩

end Instant

end WireShapes
