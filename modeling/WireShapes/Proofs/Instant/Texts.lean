import Mathlib.Data.List.TakeWhile
import WireShapes.Instant.Reading
import WireShapes.Proofs.Instant.Days
import WireShapes.Proofs.Numeric.Integers

/-!
Calendar texts of points in time, written and read.

* `takeFixed?_padded`, `takeNumber?_padded`: a padded number is read back
* `readDateTime?_write`, `readHttpDate?_write`: so is a date with its time of day
* `read_write`: a point in time of the years from 0 to 9999 comes back from its texts
-/

namespace WireShapes.Instant

open Decimal (digitsValue isDigit)

theorem bind_of_eq_some {α β : Type} {x : Option α} {a : α} (h : x = some a) (f : α → Option β) :
    (x >>= f) = f a := by
  rw [h]
  rfl

/-! ### Padded numbers -/

theorem digitsValue_replicate_append (k : Nat) (ds : List Char) :
    digitsValue (List.replicate k '0' ++ ds) = digitsValue ds := by
  induction k with
  | zero => rfl
  | succ k ih => rw [List.replicate_succ, List.cons_append, ← ih]; rfl

theorem digitsValue_padded (width n : Nat) : digitsValue (padded width n) = n := by
  rw [padded, digitsValue_replicate_append, Decimal.digitsValue_toDigits]

theorem isDigit_of_mem_padded {width n : Nat} {c : Char} (h : c ∈ padded width n) : isDigit c = true := by
  rcases List.mem_append.1 h with h | h
  · rw [(List.mem_replicate.1 h).2]
    decide
  · exact Decimal.isDigit_of_mem_toDigits h

theorem length_padded {width n : Nat} (hwidth : 0 < width) (h : n < 10 ^ width) : (padded width n).length = width := by
  have hle := (Nat.length_toDigits_le_iff (by decide) hwidth).2 h
  rw [padded, List.length_append, List.length_replicate]
  omega

theorem exists_padded_cons {width n : Nat} (hwidth : 0 < width) (h : n < 10 ^ width) :
    ∃ c more, padded width n = c :: more ∧ isDigit c = true := by
  have hlength := length_padded hwidth h
  obtain ⟨c, more, hcons⟩ := List.exists_cons_of_length_pos (l := padded width n) (by omega)
  exact ⟨c, more, hcons, isDigit_of_mem_padded (hcons ▸ List.mem_cons_self)⟩

theorem isEmpty_padded {width n : Nat} (hwidth : 0 < width) (h : n < 10 ^ width) : (padded width n).isEmpty = false := by
  obtain ⟨c, more, hcons, -⟩ := exists_padded_cons hwidth h
  rw [hcons, List.isEmpty_cons]

section Padded

variable {width n : Nat} (hwidth : 0 < width) (h : n < 10 ^ width) (rest : List Char)

include hwidth h

theorem take_padded : ((padded width n ++ rest).take width).takeWhile isDigit = padded width n := by
  have hlength := length_padded hwidth h
  rw [List.take_append_of_le_length (Nat.le_of_eq hlength.symm), List.take_of_length_le (Nat.le_of_eq hlength),
    List.takeWhile_eq_self_iff.2 fun c hc => isDigit_of_mem_padded hc]

theorem drop_padded : (padded width n ++ rest).drop width = rest := by
  rw [List.drop_append_of_le_length (Nat.le_of_eq (length_padded hwidth h).symm),
    List.drop_of_length_le (Nat.le_of_eq (length_padded hwidth h)), List.nil_append]

theorem takeFixed?_padded : takeFixed? width (padded width n ++ rest) = some (n, rest) := by
  rw [takeFixed?, take_padded hwidth h, drop_padded hwidth h, digitsValue_padded]
  simp [length_padded hwidth h]

theorem takeNumber?_padded : takeNumber? width (padded width n ++ rest) = some (n, rest) := by
  have hlength := length_padded hwidth h
  have hne := isEmpty_padded hwidth h
  rw [takeNumber?, take_padded hwidth h, digitsValue_padded]
  simp [hne, hlength, drop_padded hwidth h]

end Padded

/-! ### Parts of an instant -/

variable {t : Instant}

theorem secondOfDay_lt (t : Instant) : t.secondOfDay < 86400 := by
  unfold secondOfDay
  omega

theorem ofSeconds_secondsOf (t : Instant) {nanos : Nat} (h : nanos < 1000000000) :
    ofSeconds (secondsOf (Date.ofDays t.days) (t.secondOfDay / 3600) (t.secondOfDay / 60 % 60) (t.secondOfDay % 60)) nanos =
      ⟨t.seconds, nanos, h⟩ := by
  have hseconds : secondsOf (Date.ofDays t.days) (t.secondOfDay / 3600) (t.secondOfDay / 60 % 60) (t.secondOfDay % 60) =
      t.seconds := by
    rw [secondsOf, Date.toDays_ofDays]
    unfold days secondOfDay
    omega
  have hcarry : (nanos : Int) / 1000000000 = 0 := by omega
  simp only [ofSeconds, hseconds, hcarry, Nat.mod_eq_of_lt h, Int.add_zero]

structure FourDigits (t : Instant) : Prop where
  least : -62167219200 ≤ t.seconds
  greatest : t.seconds ≤ 253402300799

namespace FourDigits

theorem year (h : t.FourDigits) : 0 ≤ (Date.ofDays t.days).year ∧ (Date.ofDays t.days).year ≤ 9999 := by
  obtain ⟨hleast, hgreatest⟩ := h
  refine Date.year_ofDays.2 ?_
  unfold days
  omega

theorem inCalendar (h : t.FourDigits) : t.inCalendar = true := by
  have := h.year
  simp only [Instant.inCalendar, Bool.and_eq_true, decide_eq_true_eq]
  omega

theorem writeYear (h : t.FourDigits) :
    writeYear (Date.ofDays t.days).year = padded 4 (Date.ofDays t.days).year.toNat := if_pos h.year

end FourDigits

/-- Months and days of dates have two digits. -/
theorem date_bounds (days : Int) :
    (1 ≤ (Date.ofDays days).month ∧ (Date.ofDays days).month ≤ 12) ∧ 1 ≤ (Date.ofDays days).day ∧
      (Date.ofDays days).day ≤ 31 := by
  have hvalid := Date.isValid_ofDays days
  have hdays : Date.daysInMonth (Date.ofDays days).year (Date.ofDays days).month ≤ 31 := by
    unfold Date.daysInMonth
    split
    · split <;> omega
    · split <;> omega
  simp only [Date.isValid, Bool.and_eq_true, decide_eq_true_eq] at hvalid
  omega

theorem month_lt (days : Int) : (Date.ofDays days).month - 1 < 12 := by
  have := (date_bounds days).1
  omega

theorem weekday_lt (days : Int) : weekday days < 7 := by
  unfold weekday
  omega

/-! ### Date and time with an offset -/

theorem takeFraction?_padded {width n : Nat} (hwidth : 0 < width) (hnine : width ≤ 9) (h : n < 10 ^ width) :
    takeFraction? ('.' :: (padded width n ++ ['Z'])) = some (n * 10 ^ (9 - width), ['Z']) := by
  have hlength := length_padded hwidth h
  have hdigits : ∀ c ∈ padded width n, isDigit c = true := fun c hc => isDigit_of_mem_padded hc
  have htake : (padded width n ++ ['Z']).takeWhile isDigit = padded width n := by
    rw [List.takeWhile_append_of_pos hdigits]
    simp [isDigit]
  have hdrop : (padded width n ++ ['Z']).dropWhile isDigit = ['Z'] := by
    rw [List.dropWhile_append_of_pos hdigits]
    simp [isDigit]
  have hne := isEmpty_padded hwidth h
  have hkept : (padded width n).take 9 = padded width n := List.take_of_length_le (by omega)
  rw [takeFraction?]
  simp only [htake, hdrop, hne, hkept, digitsValue_padded, hlength]
  rfl

theorem takeFraction?_write {nanos : Nat} (h : nanos < 1000000000) :
    takeFraction? (writeFraction nanos ++ ['Z']) = some (nanos, ['Z']) := by
  unfold writeFraction
  split
  · next hzero =>
    rw [hzero]
    rfl
  · split
    · next hmillis =>
      rw [List.cons_append, takeFraction?_padded (by decide) (by decide) (by omega)]
      congr 2
      omega
    · rw [List.cons_append, takeFraction?_padded (by decide) (by decide) (by omega), Nat.sub_self, Nat.pow_zero, Nat.mul_one]

theorem takeChar?_dash (rest : List Char) : takeChar? (· == '-') ('-' :: rest) = some rest := rfl

theorem takeChar?_colon (rest : List Char) : takeChar? (· == ':') (':' :: rest) = some rest := rfl

theorem takeChar?_comma (rest : List Char) : takeChar? (· == ',') (',' :: rest) = some rest := rfl

theorem takeChar?_time (rest : List Char) :
    takeChar? (fun c => c == 'T' || c == 't' || c == ' ') ('T' :: rest) = some rest := rfl

/-- The numbers of a date and a time of day are read one after the other. -/
theorem readDateTime?_numbers {year month day hour minute second nanos : Nat} {fraction : List Char}
    (hyear : year < 10 ^ 4) (hmonth : month < 10 ^ 2) (hday : day < 10 ^ 2) (hhour : hour < 10 ^ 2)
    (hminute : minute < 10 ^ 2) (hsecond : second < 10 ^ 2)
    (hfraction : takeFraction? fraction = some (nanos, ['Z'])) :
    readDateTime? (padded 4 year ++ '-' :: (padded 2 month ++ '-' :: (padded 2 day ++ 'T' ::
        (padded 2 hour ++ ':' :: (padded 2 minute ++ ':' :: (padded 2 second ++ fraction)))))) =
      if Date.isValid ⟨year, month, day⟩ ∧ hour < 24 ∧ minute < 60 ∧ second ≤ 60 then
        some (ofSeconds (secondsOf ⟨year, month, day⟩ hour minute second) nanos)
      else none := by
  have hoffset : readOffset? ['Z'] = some 0 := rfl
  have htwo : 0 < 2 := by decide
  unfold readDateTime?
  simp only [↓bind_of_eq_some (takeFixed?_padded (by decide) hyear _), ↓bind_of_eq_some (takeFixed?_padded htwo hmonth _),
    ↓bind_of_eq_some (takeFixed?_padded htwo hday _), ↓bind_of_eq_some (takeFixed?_padded htwo hhour _),
    ↓bind_of_eq_some (takeFixed?_padded htwo hminute _), ↓bind_of_eq_some (takeFixed?_padded htwo hsecond _),
    ↓bind_of_eq_some (takeChar?_dash _), ↓bind_of_eq_some (takeChar?_time _), ↓bind_of_eq_some (takeChar?_colon _),
    ↓bind_of_eq_some hfraction, ↓bind_of_eq_some hoffset, Int.sub_zero]

/-- **A date with its time of day is read back.** -/
theorem readDateTime?_write (h : t.FourDigits) : readDateTime? t.writeDateTime = some t := by
  have hclock := t.secondOfDay_lt
  obtain ⟨hmonth, hday⟩ := date_bounds t.days
  have hyear := h.year
  have hnat : (((Date.ofDays t.days).year.toNat : Nat) : Int) = (Date.ofDays t.days).year := Int.toNat_of_nonneg hyear.1
  rw [writeDateTime, h.writeYear, writeClock]
  simp only [List.append_assoc, List.cons_append, List.nil_append]
  rw [readDateTime?_numbers (by omega) (by omega) (by omega) (by omega) (by omega) (by omega)
    (takeFraction?_write t.nanos_lt), hnat]
  have hvalid := Date.isValid_ofDays t.days
  rw [if_pos ⟨hvalid, by omega, by omega, by omega⟩, ofSeconds_secondsOf t t.nanos_lt]

/-! ### The date of a header -/

theorem takeName?_weekday {w : Nat} (h : w < 7) (rest : List Char) :
    takeName? weekdayNames ((weekdayNames.getD w "").toList ++ rest) = some (w, rest) := by
  interval_cases w <;> rfl

theorem takeName?_month {m : Nat} (h : m < 12) (rest : List Char) :
    takeName? monthNames ((monthNames.getD m "").toList ++ rest) = some (m, rest) := by
  interval_cases m <;> rfl

theorem isSpace_of_isDigit {c : Char} (h : isDigit c = true) : Text.isSpace c = false := by
  simp only [isDigit, Bool.and_eq_true, decide_eq_true_eq] at h
  simp only [Text.isSpace, Text.inRanges, Text.spaceRanges, List.any_cons, List.any_nil, Bool.or_eq_false_iff,
    Bool.and_eq_false_iff, decide_eq_false_iff_not, Bool.or_false]
  omega

theorem skipSpace_padded {width n : Nat} (hwidth : 0 < width) (h : n < 10 ^ width) (rest : List Char) :
    skipSpace (padded width n ++ rest) = padded width n ++ rest := by
  obtain ⟨c, more, hcons, hdigit⟩ := exists_padded_cons hwidth h
  rw [hcons, skipSpace, List.cons_append, List.dropWhile_cons_of_neg (by simp [isSpace_of_isDigit hdigit])]

theorem skipSpace_space (cs : List Char) : skipSpace (' ' :: cs) = skipSpace cs := rfl

theorem skipSpace_month {m : Nat} (h : m < 12) (rest : List Char) :
    skipSpace ((monthNames.getD m "").toList ++ rest) = (monthNames.getD m "").toList ++ rest := by
  interval_cases m <;> rfl

theorem takeYear?_padded {year : Nat} (h : year < 10 ^ 4) (rest : List Char) :
    takeYear? (padded 4 year ++ rest) = some ((year : Int), rest) := by
  have hread := takeNumber?_padded (by decide) h rest
  obtain ⟨c, more, hcons, hdigit⟩ := exists_padded_cons (by decide) h
  rw [hcons, List.cons_append] at hread ⊢
  -- a digit is no sign
  rw [takeYear?.eq_def]
  split
  · next heq =>
    cases heq
    cases hdigit
  · next heq =>
    cases heq
    cases hdigit
  · rw [hread]
    rfl

/-- The text of a date with its time of day, in front of fraction and zone. -/
def httpChars (weekday day month year hour minute second : Nat) : List Char :=
  (weekdayNames.getD weekday "").toList ++ ',' :: ' ' :: (padded 2 day ++ ' ' ::
    ((monthNames.getD month "").toList ++ ' ' :: (padded 4 year ++ ' ' ::
      (padded 2 hour ++ ':' :: (padded 2 minute ++ ':' :: padded 2 second)))))

theorem readHttpSeconds?_numbers {w day m year hour minute second : Nat} (hw : w < 7) (hday : day < 10 ^ 2)
    (hm : m < 12) (hyear : year < 10 ^ 4) (hhour : hour < 10 ^ 2) (hminute : minute < 10 ^ 2)
    (hsecond : second < 10 ^ 2) :
    readHttpSeconds? (httpChars w day m year hour minute second) =
      if Date.isValid ⟨year, m + 1, day⟩ ∧ hour < 24 ∧ minute < 60 ∧ second ≤ 60 ∧
          weekday (Date.toDays ⟨year, m + 1, day⟩) = w then
        some (secondsOf ⟨year, m + 1, day⟩ hour minute (min second 59))
      else none := by
  have htwo : 0 < 2 := by decide
  have hspaced {n : Nat} (h : n < 10 ^ 2) (rest : List Char) :
      takeNumber? 2 (skipSpace (' ' :: (padded 2 n ++ rest))) = some (n, rest) := by
    rw [skipSpace_space, skipSpace_padded htwo h, takeNumber?_padded htwo h]
  have hplain {n : Nat} (h : n < 10 ^ 2) (rest : List Char) :
      takeNumber? 2 (skipSpace (padded 2 n ++ rest)) = some (n, rest) := by
    rw [skipSpace_padded htwo h, takeNumber?_padded htwo h]
  have hmonth (rest : List Char) :
      takeName? monthNames (skipSpace (' ' :: ((monthNames.getD m "").toList ++ rest))) = some (m, rest) := by
    rw [skipSpace_space, skipSpace_month hm, takeName?_month hm]
  have hfour (rest : List Char) :
      takeYear? (skipSpace (' ' :: (padded 4 year ++ rest))) = some ((year : Int), rest) := by
    rw [skipSpace_space, skipSpace_padded (by decide) hyear, takeYear?_padded hyear]
  have hend : takeNumber? 2 (skipSpace (padded 2 second)) = some (second, []) := by
    simpa using hplain hsecond []
  have hcalendar : -262143 ≤ (year : Int) ∧ (year : Int) ≤ 262142 := by omega
  unfold readHttpSeconds? httpChars
  simp only [↓bind_of_eq_some (takeName?_weekday hw _), ↓bind_of_eq_some (takeChar?_comma _), ↓bind_of_eq_some (takeChar?_colon _),
    ↓bind_of_eq_some (hspaced hday _), ↓bind_of_eq_some (hmonth _), ↓bind_of_eq_some (hfour _),
    ↓bind_of_eq_some (hspaced hhour _), ↓bind_of_eq_some (hplain hminute _), ↓bind_of_eq_some hend,
    List.isEmpty_nil, hcalendar, true_and]

theorem point_not_mem_padded (width n : Nat) : '.' ∉ padded width n := fun h =>
  absurd (isDigit_of_mem_padded h) (by decide)

theorem point_not_mem_weekday {w : Nat} (h : w < 7) : '.' ∉ (weekdayNames.getD w "").toList := by
  interval_cases w <;> decide

theorem point_not_mem_month {m : Nat} (h : m < 12) : '.' ∉ (monthNames.getD m "").toList := by
  interval_cases m <;> decide

theorem point_not_mem_httpChars {w m : Nat} (hw : w < 7) (hm : m < 12) (day year hour minute second : Nat) :
    '.' ∉ httpChars w day m year hour minute second := by
  have hweekday := point_not_mem_weekday hw
  have hmonth := point_not_mem_month hm
  simp only [httpChars, List.mem_append, List.mem_cons, not_or]
  simp only [hweekday, hmonth, point_not_mem_padded, not_false_eq_true, and_true, true_and]
  decide

theorem splitLastPoint_of_not_mem {cs : List Char} (h : '.' ∉ cs) : splitLastPoint cs = (cs, none) :=
  if_neg (by simpa using h)

/-- The last full stop is the only one of a text with a fraction. -/
theorem splitLastPoint_append {fraction : List Char} (h : '.' ∉ fraction) (cs : List Char) :
    splitLastPoint (cs ++ '.' :: fraction) = (cs, some fraction) := by
  have hkept : ((cs ++ '.' :: fraction).reverse.takeWhile (· != '.')).reverse = fraction := by
    rw [List.reverse_append, List.reverse_cons, List.append_assoc,
      List.takeWhile_append_of_pos fun c hc => by simpa using fun heq : c = '.' => h (heq ▸ List.mem_reverse.1 hc)]
    simp
  have hlength : (cs ++ '.' :: fraction).length - fraction.length - 1 = cs.length := by
    rw [List.length_append, List.length_cons]
    omega
  have hpoint : (cs ++ '.' :: fraction).contains '.' = true := by simp
  simp only [splitLastPoint, hkept, hlength, hpoint, if_true, List.take_left]

theorem dropEnding?_append (cs ending : List Char) : dropEnding? ending (cs ++ ending) = some cs := by
  have hends : ending.isSuffixOf (cs ++ ending) = true := by simp
  have hlength : (cs ++ ending).length - ending.length = cs.length := by simp
  rw [dropEnding?, if_pos hends, hlength, List.take_left]

/-- The seconds of a date are read back, with the day of the week that belongs to the date. -/
theorem readHttpSeconds?_write (h : t.FourDigits) :
    readHttpSeconds? (httpChars (weekday t.days) (Date.ofDays t.days).day ((Date.ofDays t.days).month - 1)
        (Date.ofDays t.days).year.toNat (t.secondOfDay / 3600) (t.secondOfDay / 60 % 60) (t.secondOfDay % 60)) =
      some (secondsOf (Date.ofDays t.days) (t.secondOfDay / 3600) (t.secondOfDay / 60 % 60) (t.secondOfDay % 60)) := by
  have hclock := t.secondOfDay_lt
  obtain ⟨hmonth, hday⟩ := date_bounds t.days
  have hyear := h.year
  have hnat : (((Date.ofDays t.days).year.toNat : Nat) : Int) = (Date.ofDays t.days).year := Int.toNat_of_nonneg hyear.1
  have hnext : (Date.ofDays t.days).month - 1 + 1 = (Date.ofDays t.days).month := by omega
  have hsecond : min (t.secondOfDay % 60) 59 = t.secondOfDay % 60 := by omega
  have hvalid := Date.isValid_ofDays t.days
  rw [readHttpSeconds?_numbers (weekday_lt t.days) (by omega) (month_lt t.days) (by omega) (by omega) (by omega) (by omega), hnat, hnext,
    hsecond, Date.toDays_ofDays, if_pos ⟨hvalid, by omega, by omega, by omega, rfl⟩]

theorem writeHttpDate_eq (h : t.FourDigits) :
    t.writeHttpDate = httpChars (weekday t.days) (Date.ofDays t.days).day ((Date.ofDays t.days).month - 1)
        (Date.ofDays t.days).year.toNat (t.secondOfDay / 3600) (t.secondOfDay / 60 % 60) (t.secondOfDay % 60)
      ++ (if t.nanos = 0 then [] else '.' :: padded 3 (t.nanos / 1000000)) ++ [' ', 'G', 'M', 'T'] := by
  rw [writeHttpDate, h.writeYear, writeClock, httpChars]
  simp only [List.append_assoc, List.cons_append, List.nil_append]

/-- An instant without what is finer than a millisecond. -/
def wholeMillis (t : Instant) : Instant :=
  ⟨t.seconds, t.nanos / 1000000 * 1000000, by have := t.nanos_lt; omega⟩

section HeaderDate

variable {body : List Char} {seconds : Int} (hseconds : readHttpSeconds? body = some seconds)

include hseconds

theorem readHttpDate?_whole (hpoint : '.' ∉ body) : readHttpDate? (body ++ [' ', 'G', 'M', 'T']) = some (ofSeconds seconds 0) := by
  rw [readHttpDate?, bind_of_eq_some (dropEnding?_append _ _), splitLastPoint_of_not_mem hpoint]
  simp only [↓bind_of_eq_some hseconds, ↓bind_of_eq_some rfl]

theorem readHttpDate?_millis {millis : Nat} (h : millis < 10 ^ 3) :
    readHttpDate? (body ++ '.' :: padded 3 millis ++ [' ', 'G', 'M', 'T']) =
      some (ofSeconds seconds (millis * 1000000)) := by
  have hlength := length_padded (by decide) h
  have hdigits : (padded 3 millis).all isDigit = true := List.all_eq_true.2 fun c hc => isDigit_of_mem_padded hc
  have hne := isEmpty_padded (by decide) h
  rw [readHttpDate?, bind_of_eq_some (dropEnding?_append _ _), splitLastPoint_append (point_not_mem_padded 3 millis)]
  simp [hlength, hdigits, hne, hseconds, digitsValue_padded]

end HeaderDate

/-- **The date of a header is read back**, to the millisecond. -/
theorem readHttpDate?_write (h : t.FourDigits) : readHttpDate? t.writeHttpDate = some t.wholeMillis := by
  have hseconds := readHttpSeconds?_write h
  have hnanos := t.nanos_lt
  have hpoint := point_not_mem_httpChars (weekday_lt t.days) (month_lt t.days) (Date.ofDays t.days).day
    (Date.ofDays t.days).year.toNat (t.secondOfDay / 3600) (t.secondOfDay / 60 % 60) (t.secondOfDay % 60)
  rw [writeHttpDate_eq h]
  split
  · next hzero =>
    have hmillis : t.nanos / 1000000 * 1000000 = 0 := by rw [hzero]
    rw [List.append_nil, readHttpDate?_whole hseconds hpoint, ofSeconds_secondsOf t (by decide)]
    simp only [wholeMillis, hmillis]
  · have hmillis : t.nanos / 1000000 * 1000000 < 1000000000 := t.wholeMillis.nanos_lt
    rw [readHttpDate?_millis hseconds (by omega), ofSeconds_secondsOf t hmillis]
    rfl

/-- **A point in time of the years from 0 to 9999 is read back from its texts**: from a date with its time of
day as it was, and from the date of a header to the millisecond. -/
theorem read_write (t : Instant) (hleast : -62167219200 ≤ t.seconds) (hgreatest : t.seconds ≤ 253402300799) :
    read (t.write .dateTime) .dateTime = .ok t ∧
      read (t.write .httpDate) .httpDate = .ok t.wholeMillis := by
  have h : t.FourDigits := ⟨hleast, hgreatest⟩
  constructor
  · simp only [read, write, h.inCalendar, Bool.not_true, Bool.false_eq_true, if_false, String.toList_ofList,
      readDateTime?_write h]
  · simp only [read, write, h.inCalendar, Bool.not_true, Bool.false_eq_true, if_false, String.toList_ofList,
      readHttpDate?_write h]

/-- The last second of the leap day of the year 0. -/
def oldLeapDay : Instant := ⟨-62162035201, 123456789, by decide⟩

theorem oldLeapDay_read_write :
    -62167219200 ≤ oldLeapDay.seconds ∧ oldLeapDay.seconds ≤ 253402300799 ∧
      oldLeapDay.write .dateTime = "0000-02-29T23:59:59.123456789Z" ∧
      oldLeapDay.write .httpDate = "Tue, 29 Feb 0000 23:59:59.123 GMT" ∧
      read (oldLeapDay.write .dateTime) .dateTime = .ok oldLeapDay ∧
      read (oldLeapDay.write .httpDate) .httpDate = .ok ⟨-62162035201, 123000000, by decide⟩ := by
  have h := read_write oldLeapDay (by decide) (by decide)
  exact ⟨by decide, by decide, by decide, by decide, h.1, h.2⟩

end WireShapes.Instant
