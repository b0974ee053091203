import WireShapes.Proofs.Http.ListFields
import WireShapes.Proofs.Instant.Texts

/-!
Lists of dates in a field. A date has a comma of its own, so the list is split into halves of dates.

* `Bare`: a text that is an element as it is, without quotes; `bare_weekday`, `bare_dateOfDay`: both halves of a date are
* `dateField_eq`: the dates of a list, in halves
* `joinDates_halves`: the halves, in pairs again
* `dateField_read_write`: a list of dates comes back from its value, to the millisecond
-/

namespace WireShapes.Http

open Decimal (isDigit)
open Instant (padded)

/-- The dates of a list in one value, with commas between them. -/
def dateField (dates : List Instant) : String := ", ".intercalate (dates.map fun t => t.write .httpDate)

/-! ### Halves of dates -/

/-- Two halves with the comma between them. -/
def joined (halves : String × String) : String := halves.1 ++ ", " ++ halves.2

/-- **The halves of a list, in pairs again.** -/
theorem joinDates_halves (pairs : List (String × String)) :
    joinDates (pairs.flatMap fun halves => [halves.1, halves.2]) = pairs.map joined := by
  induction pairs with
  | nil => rfl
  | cons halves pairs ih =>
    rw [List.flatMap_cons, List.cons_append, List.singleton_append, joinDates, ih, List.map_cons, joined]

theorem length_halves (pairs : List (String × String)) :
    (pairs.flatMap fun halves => [halves.1, halves.2]).length = 2 * pairs.length := by
  induction pairs with
  | nil => rfl
  | cons halves pairs ih =>
    rw [List.flatMap_cons, List.length_append, ih, List.length_cons]
    simp only [List.length_cons, List.length_nil]
    omega

/-- Between two dates stands what stands between two halves of one. -/
theorem intercalate_halves (pairs : List (String × String)) :
    ", ".intercalate (pairs.map joined) = ", ".intercalate (pairs.flatMap fun halves => [halves.1, halves.2]) := by
  refine String.toList_inj.1 ?_
  rw [String.toList_intercalate, String.toList_intercalate]
  induction pairs with
  | nil => rfl
  | cons halves pairs ih =>
    cases pairs with
    | nil => simp [joined, List.intercalate_cons_cons]
    | cons next pairs =>
      simp only [List.map_cons, List.flatMap_cons, List.cons_append, List.nil_append, List.intercalate_cons_cons] at ih ⊢
      rw [ih]
      simp [joined]

/-- A text that may stand in a list field without quotes, and that is not empty. -/
structure Bare (s : String) : Prop where
  ne_empty : s ≠ ""
  fieldText : FieldText s
  needsQuotes : needsQuotes s.toList = false

theorem listField_of_bare {elements : List String} (h : ∀ e ∈ elements, Bare e) :
    listField elements = ", ".intercalate elements := by
  have hsame : elements.map quoteElement = elements := by
    conv_rhs => rw [← List.map_id elements]
    refine List.map_congr_left fun e he => ?_
    rw [quoteElement, if_neg (by simp [(h e he).needsQuotes]), id]
  rw [listField, hsame]

section Halves

variable {pairs : List (String × String)} (h : ∀ halves ∈ pairs, Bare halves.1 ∧ Bare halves.2)

include h

theorem bare_of_mem_halves : ∀ e ∈ pairs.flatMap fun halves => [halves.1, halves.2], Bare e := by
  intro e he
  obtain ⟨halves, hmem, he⟩ := List.mem_flatMap.1 he
  rcases List.mem_cons.1 he with rfl | he
  · exact (h halves hmem).1
  · exact List.mem_singleton.1 he ▸ (h halves hmem).2

theorem intercalate_joined : ", ".intercalate (pairs.map joined) = listField (pairs.flatMap fun halves => [halves.1, halves.2]) := by
  rw [intercalate_halves, listField_of_bare (bare_of_mem_halves h)]

/-- **Texts with one comma each come back from a list of dates.** -/
theorem manyDates_joined {headers : Headers} {name : String}
    (hvalue : getAll name headers = [Utf8.encode (", ".intercalate (pairs.map joined))]) :
    manyDates headers name = .ok (pairs.map joined) := by
  have hbare := bare_of_mem_halves h
  have hlast : (pairs.flatMap fun halves => [halves.1, halves.2]).getLast? ≠ some "" := fun hlast =>
    (hbare "" (List.mem_of_getLast? hlast)).ne_empty rfl
  have heven : ¬2 * pairs.length % 2 ≠ 0 := by omega
  rw [intercalate_joined h] at hvalue
  have hread := many_of_getAll (fun e he => (hbare e he).fieldText) hvalue
  rw [if_neg hlast] at hread
  rw [manyDates, hread, Results.ok_bind, length_halves, if_neg heven, joinDates_halves]

end Halves

/-! ### Dates -/

/-- A character that needs no quotes where it stands inside an element. -/
def ElementChar (c : Char) : Prop := FieldChar c ∧ c ≠ ',' ∧ c ≠ '"'

instance : DecidablePred ElementChar := fun c => inferInstanceAs (Decidable (FieldChar c ∧ c ≠ ',' ∧ c ≠ '"'))

/-- A text of such characters. -/
def ElementChars (cs : List Char) : Prop := ∀ c ∈ cs, ElementChar c

instance : DecidablePred ElementChars := fun cs => List.decidableBAll ElementChar cs

theorem elementChars_append {cs ds : List Char} : ElementChars (cs ++ ds) ↔ ElementChars cs ∧ ElementChars ds :=
  List.forall_mem_append

theorem bare_ofList {cs : List Char} {first last : Char} (hfirst : cs.head? = some first)
    (hlast : cs.getLast? = some last) (hblank : Text.isAsciiSpace first = false ∧ Text.isAsciiSpace last = false)
    (h : ElementChars cs) : Bare (String.ofList cs) where
  ne_empty hempty := by
    have hnil : cs = [] := by rw [← String.toList_ofList (l := cs), hempty, String.toList_empty]
    rw [hnil] at hfirst
    cases hfirst
  fieldText c hc := by
    rw [String.toList_ofList] at hc
    exact (h c hc).1
  needsQuotes := by
    have hmarks : cs.any (fun c => c == ',' || c == '"') = false := by
      simpa using fun c hc => (h c hc).2
    rw [String.toList_ofList, Http.needsQuotes, hmarks, hfirst, hlast]
    simp [hblank.1, hblank.2]

theorem elementChar_of_isDigit {c : Char} (h : isDigit c = true) : ElementChar c ∧ Text.isAsciiSpace c = false := by
  rw [isDigit, Bool.and_eq_true, decide_eq_true_eq, decide_eq_true_eq] at h
  simp only [ElementChar, FieldChar, Text.isAsciiSpace, Bool.or_eq_false_iff, beq_eq_false_iff_ne, ne_eq, ← Char.toNat_inj]
  have hcodes : ','.toNat = 44 ∧ '"'.toNat = 34 ∧ ' '.toNat = 32 ∧ '\t'.toNat = 9 ∧ '\n'.toNat = 10 ∧
    '\x0c'.toNat = 12 ∧ '\r'.toNat = 13 := by decide
  omega

theorem elementChars_padded (width n : Nat) : ElementChars (padded width n) := fun _ hc =>
  (elementChar_of_isDigit (Instant.isDigit_of_mem_padded hc)).1

theorem elementChars_month {m : Nat} (h : m < 12) : ElementChars (monthNames.getD m "").toList := by
  interval_cases m <;> decide

/-- What stands in a date behind its comma. -/
def dateOfDay (t : Instant) : List Char :=
  padded 2 (Date.ofDays t.days).day ++ [' '] ++ (monthNames.getD ((Date.ofDays t.days).month - 1) "").toList ++ [' ']
    ++ padded 4 (Date.ofDays t.days).year.toNat ++ [' '] ++ Instant.writeClock t.secondOfDay
    ++ (if t.nanos = 0 then [] else '.' :: padded 3 (t.nanos / 1000000)) ++ [' ', 'G', 'M', 'T']

theorem elementChars_dateOfDay (t : Instant) : ElementChars (dateOfDay t) := by
  have hspace : ElementChars [' '] := by decide
  have hcolon : ElementChars [':'] := by decide
  have hzone : ElementChars [' ', 'G', 'M', 'T'] := by decide
  have hnumber := elementChars_padded
  have hmonth := elementChars_month (Instant.month_lt t.days)
  have hfraction : ElementChars (if t.nanos = 0 then [] else '.' :: padded 3 (t.nanos / 1000000)) := by
    split
    · exact fun c hc => (nomatch hc)
    · exact List.forall_mem_cons.2 ⟨by decide, hnumber _ _⟩
  unfold dateOfDay Instant.writeClock
  simp only [elementChars_append, and_assoc]
  exact ⟨hnumber _ _, hspace, hmonth, hspace, hnumber _ _, hspace, hnumber _ _, hcolon, hnumber _ _, hcolon, hnumber _ _,
    hfraction, hzone⟩

/-- The halves of a date: the day of the week, and the date with its time of day. -/
def dateHalves (t : Instant) : String × String :=
  (weekdayNames.getD (weekday t.days) "", String.ofList (dateOfDay t))

/-- A date is its halves with the comma between them. -/
theorem write_eq_joined {t : Instant} (h : t.FourDigits) : t.write .httpDate = joined (dateHalves t) := by
  refine String.toList_inj.1 ?_
  simp only [Instant.write, h.inCalendar, Bool.not_true, Bool.false_eq_true, if_false, String.toList_ofList,
    Instant.writeHttpDate, h.writeYear, joined, dateHalves, dateOfDay, String.toList_append, List.append_assoc,
    List.cons_append, List.nil_append]
  rfl

theorem bare_weekday {w : Nat} (h : w < 7) : Bare (weekdayNames.getD w "") := by
  interval_cases w <;> exact ⟨by decide, by decide, by decide⟩

/-- A date begins with a digit and ends with a letter, and between them is no comma and no quote. -/
theorem bare_dateOfDay (t : Instant) : Bare (String.ofList (dateOfDay t)) := by
  have hday : (Date.ofDays t.days).day < 10 ^ 2 := by
    have := (Instant.date_bounds t.days).2
    omega
  obtain ⟨first, more, hcons, hdigit⟩ := Instant.exists_padded_cons (by decide) hday
  have hfirst : (dateOfDay t).head? = some first := by
    simp only [dateOfDay, hcons, List.append_assoc, List.cons_append, List.head?_cons]
  have hlast : (dateOfDay t).getLast? = some 'T' := by
    rw [dateOfDay, List.getLast?_append]
    rfl
  exact bare_ofList hfirst hlast ⟨(elementChar_of_isDigit hdigit).2, rfl⟩ (elementChars_dateOfDay t)

/-- **A list of dates of the years from 0 to 9999 comes back from its value**: the value may stand in a field, and
if it is the only value of the field, it is split into the texts of the dates, each of which is read to the
millisecond. -/
theorem dateField_read_write (dates : List Instant)
    (h : ∀ t ∈ dates, -62167219200 ≤ t.seconds ∧ t.seconds ≤ 253402300799) (name : String) :
    fieldValue name (dateField dates) = .ok (Utf8.encode (dateField dates)) ∧
    ∀ headers : Headers, getAll name headers = [Utf8.encode (dateField dates)] →
      manyDates headers name = .ok (dates.map fun t => t.write .httpDate) ∧
      (dates.map fun t => t.write .httpDate).mapM (fun text => Instant.read text .httpDate) =
        .ok (dates.map Instant.wholeMillis) := by
  have hdigits : ∀ t ∈ dates, t.FourDigits := fun t ht => ⟨(h t ht).1, (h t ht).2⟩
  have hhalves : ∀ halves ∈ dates.map dateHalves, Bare halves.1 ∧ Bare halves.2 := by
    intro halves hmem
    obtain ⟨t, -, rfl⟩ := List.mem_map.1 hmem
    exact ⟨bare_weekday (Instant.weekday_lt t.days), bare_dateOfDay t⟩
  have htexts : (dates.map fun t => t.write .httpDate) = (dates.map dateHalves).map joined := by
    rw [List.map_map]
    exact List.map_congr_left fun t ht => write_eq_joined (hdigits t ht)
  refine ⟨?_, fun headers hvalue => ⟨?_, ?_⟩⟩
  · rw [dateField, htexts, intercalate_joined hhalves]
    exact (fieldText_listField fun e he => (bare_of_mem_halves hhalves e he).fieldText).fieldValue name
  · rw [dateField, htexts] at hvalue
    rw [manyDates_joined hhalves hvalue, htexts]
  · refine Results.mapM_map_ok fun t ht => ?_
    simp only [Instant.read, Instant.write, (hdigits t ht).inCalendar, Bool.not_true, Bool.false_eq_true, if_false,
      String.toList_ofList, Instant.readHttpDate?_write (hdigits t ht)]

/-- A date with a fraction and one without. -/
def mixedDates : List Instant := [Instant.ofSeconds (-62162035201) 123456789, Instant.ofSeconds 1576540098 0]

theorem mixedDates_come_back :
    (∀ t ∈ mixedDates, -62167219200 ≤ t.seconds ∧ t.seconds ≤ 253402300799) ∧
    dateField mixedDates = "Tue, 29 Feb 0000 23:59:59.123 GMT, Mon, 16 Dec 2019 23:48:18 GMT" ∧
    manyDates [("x-dates", Utf8.encode (dateField mixedDates))] "x-dates" =
      .ok ["Tue, 29 Feb 0000 23:59:59.123 GMT", "Mon, 16 Dec 2019 23:48:18 GMT"] ∧
    ["Tue, 29 Feb 0000 23:59:59.123 GMT", "Mon, 16 Dec 2019 23:48:18 GMT"].mapM
        (fun text => Instant.read text .httpDate) =
      .ok [Instant.ofSeconds (-62162035201) 123000000, Instant.ofSeconds 1576540098 0] := by
  have hyears : ∀ t ∈ mixedDates, -62167219200 ≤ t.seconds ∧ t.seconds ≤ 253402300799 := by decide
  have htexts : (mixedDates.map fun t => t.write .httpDate) =
      ["Tue, 29 Feb 0000 23:59:59.123 GMT", "Mon, 16 Dec 2019 23:48:18 GMT"] := by decide
  have hmillis : mixedDates.map Instant.wholeMillis =
      [Instant.ofSeconds (-62162035201) 123000000, Instant.ofSeconds 1576540098 0] := by decide
  have hback := (dateField_read_write mixedDates hyears "x-dates").2
    [("x-dates", Utf8.encode (dateField mixedDates))] (by simp [getAll])
  rw [htexts, hmillis] at hback
  refine ⟨hyears, ?_, hback.1, hback.2⟩
  rw [dateField, htexts]
  decide

end WireShapes.Http
