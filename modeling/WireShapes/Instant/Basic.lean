import WireShapes.Numeric.Decimal
import WireShapes.Instant.Calendar

/-!
Points in time with nanoseconds, and the three forms in which they travel.

* `Instant`: whole seconds from the epoch and nanoseconds below one second
* `Instant.ofSeconds`, `ofMillis`, `ofDouble`: the ways to make one
* `TimeFormat`, `Instant.write`: the text in a format; outside the calendar it is epoch seconds
-/

namespace WireShapes

structure Instant where
  seconds : Int
  nanos : Nat
  nanos_lt : nanos < 1000000000
deriving DecidableEq, Repr

/-- How a point in time is written. -/
inductive TimeFormat
  /-- Date and time with an offset, as in `1985-04-12T23:20:50.52Z`. -/
  | dateTime
  /-- As in `Tue, 29 Apr 2014 18:30:38 GMT`. -/
  | httpDate
  /-- Seconds from the epoch with an optional fraction. -/
  | epochSeconds
deriving DecidableEq, Repr

/-- The name of a format in models and messages. -/
def TimeFormat.name : TimeFormat → String
  | dateTime => "date-time"
  | httpDate => "http-date"
  | epochSeconds => "epoch-seconds"

def TimeFormat.ofName? : String → Option TimeFormat
  | "date-time" => some dateTime
  | "http-date" => some httpDate
  | "epoch-seconds" => some epochSeconds
  | _ => none

namespace Instant

/-- Seconds and nanoseconds; nanoseconds beyond a second carry over. -/
def ofSeconds (seconds : Int) (nanos : Nat) : Instant :=
  ⟨seconds + nanos / 1000000000, nanos % 1000000000, Nat.mod_lt _ (by decide)⟩

def ofMillis (millis : Int) : Instant :=
  ⟨millis / 1000, (millis % 1000).toNat * 1000000, by omega⟩

/-- The range of the second count. -/
def minSeconds : Int := -9223372036854775808
def maxSeconds : Int := 9223372036854775807

/-- The instant of a finite number of epoch seconds. The fraction is computed in doubles: its
distance from the floor, then nanoseconds, each rounded. -/
def ofDouble (x : Double) : Instant :=
  let floor := x.toRat.floor
  let fraction := Double.ofRat (x.toRat - floor)
  let nanos := roundAway (Double.ofRat (fraction.toRat * 1000000000)).toRat
  ofSeconds (max minSeconds (min maxSeconds floor)) nanos.toNat

/-- Epoch seconds as a double: the rounded seconds plus the rounded fraction, rounded. -/
def toDouble (t : Instant) : Double :=
  let whole := Double.ofInt t.seconds
  let fraction := Double.ofRat ((t.nanos : Nat) / 1000000000)
  Double.ofRat (whole.toRat + fraction.toRat)

/-- A number with leading zeros up to a width. -/
def padded (width n : Nat) : List Char :=
  let ds := Nat.toDigits 10 n
  List.replicate (width - ds.length) '0' ++ ds

/-- Digits without trailing zeros. -/
def trimTrailingZeros (ds : List Char) : List Char :=
  (ds.reverse.dropWhile (· == '0')).reverse

/-- Epoch seconds with a fraction of at most nine digits. -/
def writeEpoch (t : Instant) : List Char :=
  if t.nanos = 0 then (toString t.seconds).toList
  else (toString t.seconds).toList ++ ['.'] ++ trimTrailingZeros (padded 9 t.nanos)

/-- A year in four digits; outside of those it has a sign and at least four digits. -/
def writeYear (year : Int) : List Char :=
  if 0 ≤ year ∧ year ≤ 9999 then padded 4 year.toNat
  else (if year < 0 then '-' else '+') :: padded 4 year.natAbs

def days (t : Instant) : Int := t.seconds / 86400

def secondOfDay (t : Instant) : Nat := (t.seconds % 86400).toNat

/-- Years that the calendar formats can write. -/
def inCalendar (t : Instant) : Bool :=
  let year := (Date.ofDays t.days).year
  decide (-262143 ≤ year) && decide (year ≤ 262142)

/-- Hours, minutes and seconds. -/
def writeClock (second : Nat) : List Char :=
  padded 2 (second / 3600) ++ [':'] ++ padded 2 (second / 60 % 60) ++ [':'] ++ padded 2 (second % 60)

/-- The fraction of a date-time: none, three digits or nine. -/
def writeFraction (nanos : Nat) : List Char :=
  if nanos = 0 then []
  else if nanos % 1000000 = 0 then '.' :: padded 3 (nanos / 1000000)
  else '.' :: padded 9 nanos

def writeDateTime (t : Instant) : List Char :=
  let date := Date.ofDays t.days
  writeYear date.year ++ ['-'] ++ padded 2 date.month ++ ['-'] ++ padded 2 date.day ++ ['T']
    ++ writeClock t.secondOfDay ++ writeFraction t.nanos ++ ['Z']

def writeHttpDate (t : Instant) : List Char :=
  let date := Date.ofDays t.days
  (weekdayNames.getD (weekday t.days) "").toList ++ [',', ' '] ++ padded 2 date.day ++ [' ']
    ++ (monthNames.getD (date.month - 1) "").toList ++ [' '] ++ writeYear date.year ++ [' ']
    ++ writeClock t.secondOfDay
    ++ (if t.nanos = 0 then [] else '.' :: padded 3 (t.nanos / 1000000))
    ++ [' ', 'G', 'M', 'T']

def write (t : Instant) (format : TimeFormat) : String :=
  String.ofList <|
    if !t.inCalendar then t.writeEpoch
    else
      match format with
      | .dateTime => t.writeDateTime
      | .httpDate => t.writeHttpDate
      | .epochSeconds => t.writeEpoch

/-- Earlier is less. -/
def compare (s t : Instant) : Ordering :=
  (Ord.compare s.seconds t.seconds).then (Ord.compare s.nanos t.nanos)

end Instant

end WireShapes
