import WireShapes.Proofs.Http.Headers
import WireShapes.Proofs.Results
import WireShapes.Proofs.Text.Split

/-!
List fields, written and read.

* `listField`: the elements of a list in one value
* `quotedBody_escaped`: between quotes an element is read as it is
* `splitFrom_element`: so is any element that a comma or the end of the value follows
* `many_listField`: a list comes back from its value, but for an empty element at its end
* `lastEmpty_lost`: which does not come back
-/

namespace WireShapes.Http

/-- The elements of a list in one value, with commas between them. -/
def listField (elements : List String) : String := ", ".intercalate (elements.map quoteElement)

theorem toList_listField_cons_cons (e next : String) (rest : List String) :
    (listField (e :: next :: rest)).toList =
      (quoteElement e).toList ++ ',' :: ' ' :: (listField (next :: rest)).toList := by
  simp only [listField, String.toList_intercalate, List.map_cons, List.intercalate_cons_cons, List.append_assoc]
  rfl

/-! ### Blanks -/

/-- Of the characters of a field, only space and tab are blanks of any kind. -/
theorem isAsciiSpace_of_isSpace {c : Char} (hc : FieldChar c)
    (h : Text.isSpace c = true) : Text.isAsciiSpace c = true := by
  rcases hc with rfl | hvisible
  · rfl
  · have hn : c.toNat = 32 := by
      simp only [Text.isSpace, Text.inRanges, Text.spaceRanges, List.any_cons, List.any_nil, Bool.or_eq_true,
        Bool.and_eq_true, decide_eq_true_eq, Bool.or_false] at h
      omega
    have hspace : c = ' ' := Char.toNat_inj.1 hn
    rw [hspace]
    rfl

theorem splitFrom_blank {c : Char} (h : Text.isAsciiSpace c = true) (rounds : Nat) (cs : List Char) :
    splitFrom rounds (c :: cs) = splitFrom rounds cs := by
  cases rounds with
  | zero => rfl
  | succ rounds => rw [splitFrom, splitFrom, List.dropWhile_cons_of_pos h]

theorem splitFrom_nil (rounds : Nat) : splitFrom rounds [] = .ok [] := by
  cases rounds with
  | zero => rfl
  | succ rounds => rfl

theorem trimRight_of_getLast? {p : Char → Bool} {cs : List Char} (h : ∀ c, cs.getLast? = some c → p c = false) :
    Text.trimRight p cs = cs := by
  rw [Text.trimRight]
  cases hreverse : cs.reverse with
  | nil => rw [List.dropWhile_nil, ← hreverse, List.reverse_reverse]
  | cons c rest =>
    have hlast : cs.getLast? = some c := by rw [List.getLast?_eq_head?_reverse, hreverse, List.head?_cons]
    rw [List.dropWhile_cons_of_neg (by simp [h c hlast]), ← hreverse, List.reverse_reverse]

/-! ### Quoted elements -/

/-- **Between quotes an element is read as it is**, quotes and backslashes in it included. -/
theorem quotedBody_escaped (cs rest : List Char) :
    quotedBody (cs.flatMap quoteElementChar ++ '"' :: rest) = .ok (cs, rest) := by
  induction cs with
  | nil => simp [quotedBody.eq_def]
  | cons c cs ih =>
    rw [List.flatMap_cons, quoteElementChar, List.append_assoc]
    split
    · -- behind a backslash any character stands for itself
      rw [List.cons_append, List.singleton_append, quotedBody.eq_def]
      simp only [if_neg (show ('\\' : Char) ≠ '"' by decide), if_true, ih, Except.map]
    · next hplain =>
      rw [not_or] at hplain
      rw [List.singleton_append, quotedBody.eq_def]
      simp only [if_neg hplain.1, if_neg hplain.2, ih, Except.map]

/-- What may stand behind an element. -/
def Ends (rest : List Char) : Prop := rest = [] ∨ ∃ more, rest = ',' :: more

theorem afterQuoted_of_ends {rest : List Char} (h : Ends rest) : afterQuoted rest = .ok (rest.drop 1) := by
  rcases h with rfl | ⟨more, rfl⟩
  · rfl
  · rfl

theorem splitFrom_quoted (rounds : Nat) (cs : List Char) {rest : List Char} (h : Ends rest) :
    splitFrom (rounds + 1) ('"' :: (cs.flatMap quoteElementChar ++ '"' :: rest)) =
      (splitFrom rounds (rest.drop 1)).map (String.ofList cs :: ·) := by
  rw [splitFrom, List.dropWhile_cons_of_neg (by decide)]
  simp only [if_true, quotedBody_escaped, Results.ok_bind, afterQuoted_of_ends h]
  cases splitFrom rounds (rest.drop 1) <;> rfl

/-! ### Bare elements -/

/-- An element that needs no quotes has neither a comma nor a quote, and no blank at either end. -/
theorem needsQuotes_eq_false {cs : List Char} (h : needsQuotes cs = false) :
    ',' ∉ cs ∧ '"' ∉ cs ∧ (∀ c, cs.head? = some c → Text.isAsciiSpace c = false) ∧
      ∀ c, cs.getLast? = some c → Text.isAsciiSpace c = false := by
  simp only [needsQuotes, Bool.or_eq_false_iff, List.any_eq_false, Bool.or_eq_true, beq_iff_eq, not_or] at h
  obtain ⟨⟨hmarks, hhead⟩, hlast⟩ := h
  refine ⟨fun hc => (hmarks _ hc).1 rfl, fun hc => (hmarks _ hc).2 rfl, fun c hc => ?_, fun c hc => ?_⟩
  · simpa [hc] using hhead
  · simpa [hc] using hlast

/-- Up to the comma or the end of the value, a bare element is read as it is. -/
theorem splitFrom_bare (rounds : Nat) {cs rest : List Char} (hcs : needsQuotes cs = false)
    (htext : ∀ c ∈ cs, FieldChar c) (hrest : Ends rest) (hne : cs ++ rest ≠ []) :
    splitFrom (rounds + 1) (cs ++ rest) = (splitFrom rounds (rest.drop 1)).map (String.ofList cs :: ·) := by
  obtain ⟨hcomma, hquote, hhead, hlast⟩ := needsQuotes_eq_false hcs
  have htake : (cs ++ rest).takeWhile (· != ',') = cs := by
    rcases hrest with rfl | ⟨more, rfl⟩
    · rw [List.append_nil, Text.takeWhile_of_not_mem hcomma]
    · exact Text.takeWhile_append hcomma
  have hdrop : (cs ++ rest).dropWhile (· != ',') = rest := by
    rcases hrest with rfl | ⟨more, rfl⟩
    · rw [List.append_nil, Text.dropWhile_of_not_mem hcomma]
    · exact Text.dropWhile_append hcomma
  have htrim : Text.trimRight Text.isSpace cs = cs := trimRight_of_getLast? fun c hc => by
    have hascii := hlast c hc
    have hmem : c ∈ cs := List.mem_of_getLast? hc
    cases hspace : Text.isSpace c with
    | false => rfl
    | true => rw [isAsciiSpace_of_isSpace (htext c hmem) hspace] at hascii; cases hascii
  -- what comes first is a character of the element, or the comma behind an empty one
  obtain ⟨first, more, hfirst, hblank, hnot⟩ : ∃ first more, cs ++ rest = first :: more ∧
      Text.isAsciiSpace first = false ∧ first ≠ '"' := by
    cases cs with
    | nil =>
      rcases hrest with rfl | ⟨more, rfl⟩
      · exact absurd rfl hne
      · exact ⟨',', more, rfl, rfl, by decide⟩
    | cons c cs =>
      exact ⟨c, cs ++ rest, rfl, hhead c rfl, fun hc => hquote (hc ▸ List.mem_cons_self)⟩
  rw [hfirst] at htake hdrop ⊢
  rw [splitFrom, List.dropWhile_cons_of_neg (by simp [hblank])]
  simp only [if_neg hnot, htake, hdrop, htrim]
  cases splitFrom rounds (rest.drop 1) <;> rfl

/-! ### Lists -/

/-- **An element is read back**, whether it was quoted or not, if a comma or the end of the value follows. At the end of the
value there has to be something of it. -/
theorem splitFrom_element (rounds : Nat) {e : String} (he : FieldText e) {rest : List Char} (hrest : Ends rest)
    (hsome : e ≠ "" ∨ rest ≠ []) :
    splitFrom (rounds + 1) ((quoteElement e).toList ++ rest) = (splitFrom rounds (rest.drop 1)).map (e :: ·) := by
  rw [quoteElement]
  split
  · rw [String.toList_ofList, List.append_assoc, List.singleton_append, List.cons_append,
      splitFrom_quoted rounds e.toList hrest, String.ofList_toList]
  · next hneeds =>
    have hne : e.toList ++ rest ≠ [] := by
      rw [Ne, List.append_eq_nil_iff, String.toList_eq_nil_iff]
      rintro ⟨he, hr⟩
      exact hsome.elim (fun h => h he) fun h => h hr
    rw [splitFrom_bare rounds (by simpa using hneeds) he hrest hne, String.ofList_toList]

theorem splitFrom_listField {elements : List String} (h : ∀ e ∈ elements, FieldText e) {rounds : Nat}
    (hrounds : (listField elements).toList.length < rounds) :
    splitFrom rounds (listField elements).toList =
      .ok (if elements.getLast? = some "" then elements.dropLast else elements) := by
  induction elements generalizing rounds with
  | nil => exact splitFrom_nil rounds
  | cons e rest ih =>
    obtain ⟨rounds, rfl⟩ : ∃ k, rounds = k + 1 := ⟨rounds - 1, by omega⟩
    have he : FieldText e := h e List.mem_cons_self
    cases rest with
    | nil =>
      have hfield : (listField [e]).toList = (quoteElement e).toList ++ [] := by
        simp [listField]
      by_cases hempty : e = ""
      · subst hempty
        rfl
      · have hlast : [e].getLast? ≠ some "" := by simpa using hempty
        rw [hfield, splitFrom_element rounds he (.inl rfl) (.inl hempty), if_neg hlast, List.drop_nil, splitFrom_nil]
        rfl
    | cons next rest =>
      rw [toList_listField_cons_cons] at hrounds ⊢
      have hshort : (listField (next :: rest)).toList.length < rounds := by
        simp only [List.length_append, List.length_cons] at hrounds
        omega
      rw [splitFrom_element rounds he (.inr ⟨_, rfl⟩) (.inr (List.cons_ne_nil _ _)), List.drop_one, List.tail_cons,
        splitFrom_blank (by decide), ih (fun x hx => h x (List.mem_cons_of_mem _ hx)) hshort,
        List.getLast?_cons_cons, List.dropLast_cons_cons]
      split <;> rfl

/-- The characters of an element that may stand in a field may do so when it is quoted. -/
theorem FieldText.quoteElement {e : String} (h : FieldText e) : FieldText (quoteElement e) := by
  rw [Http.quoteElement]
  split
  · intro c hc
    rw [String.toList_ofList] at hc
    simp only [List.mem_cons, List.mem_append, List.mem_flatMap, List.not_mem_nil, or_false] at hc
    rcases hc with (rfl | ⟨d, hd, hc⟩) | rfl
    · exact .inr (by decide)
    · rw [quoteElementChar] at hc
      split at hc
      · rcases List.mem_cons.1 hc with rfl | hc
        · exact .inr (by decide)
        · exact List.mem_singleton.1 hc ▸ h d hd
      · exact List.mem_singleton.1 hc ▸ h d hd
    · exact .inr (by decide)
  · exact h

theorem fieldText_listField {elements : List String} (h : ∀ e ∈ elements, FieldText e) :
    FieldText (listField elements) := by
  induction elements with
  | nil => exact fun c hc => (nomatch hc)
  | cons e rest ih =>
    have he := (h e List.mem_cons_self).quoteElement
    have hrest := ih fun x hx => h x (List.mem_cons_of_mem _ hx)
    cases rest with
    | nil =>
      have hfield : listField [e] = Http.quoteElement e := rfl
      exact hfield ▸ he
    | cons next rest =>
      intro c hc
      rw [toList_listField_cons_cons] at hc
      simp only [List.mem_append, List.mem_cons] at hc
      rcases hc with hc | rfl | rfl | hc
      · exact he c hc
      · exact .inr (by decide)
      · exact .inr (by decide)
      · exact hrest c hc

theorem splitList_listField {elements : List String} (h : ∀ e ∈ elements, FieldText e) :
    splitList (listField elements) =
      .ok (if elements.getLast? = some "" then elements.dropLast else elements) :=
  splitFrom_listField h (by rw [String.length_toList]; omega)

theorem many_of_getAll {elements : List String} (h : ∀ e ∈ elements, FieldText e) {headers : Headers}
    {name : String} (hvalue : getAll name headers = [Utf8.encode (listField elements)]) :
    many headers name = .ok (if elements.getLast? = some "" then elements.dropLast else elements) := by
  rw [many, hvalue, manyOf, textOf, (fieldText_listField h).fieldText?]
  simp only [Results.ok_bind, splitList_listField h, manyOf, List.append_nil]

/-- **A list comes back from its value, but for an empty element at its end.** Elements of visible ASCII, spaces and
tabs, empty ones and such with commas, quotes, backslashes or blanks at their ends included, are written into one
value, which may stand in a field. If it is the only value of the field, the elements that are read are those that
were written, but that an empty one at the end is left out. -/
theorem many_listField {elements : List String} (h : ∀ e ∈ elements, FieldText e) (name : String) :
    fieldValue name (listField elements) = .ok (Utf8.encode (listField elements)) ∧
    ∀ headers : Headers, getAll name headers = [Utf8.encode (listField elements)] →
      many headers name = .ok (if elements.getLast? = some "" then elements.dropLast else elements) :=
  ⟨(fieldText_listField h).fieldValue name, fun _ hvalue => many_of_getAll h hvalue⟩

/-- Empty elements, and such with separators, blanks at their ends, quotes and backslashes. -/
def trickyElements : List String := ["", "a,b", "\tx ", "", "\"q\"\\", "b\\c", "\\"]

theorem trickyElements_come_back :
    (∀ e ∈ trickyElements, FieldText e) ∧
    many [("x-tags", Utf8.encode (listField trickyElements))] "x-tags" = .ok trickyElements := by
  have htext : ∀ e ∈ trickyElements, FieldText e := by decide
  refine ⟨htext, ?_⟩
  have hread := (many_listField htext "x-tags").2 [("x-tags", Utf8.encode (listField trickyElements))]
    (by simp [getAll])
  rw [hread]
  rfl

/-- An empty element at the end does not come back. -/
theorem lastEmpty_lost :
    ¬∀ elements : List String, elements ≠ [] → (∀ e ∈ elements, FieldText e) →
      ∀ (headers : Headers) (name : String), getAll name headers = [Utf8.encode (listField elements)] →
        many headers name = .ok elements := by
  intro hclaim
  have htext : ∀ e ∈ ["a", ""], FieldText e := by decide
  have hvalue : getAll "x-tags" [("x-tags", Utf8.encode (listField ["a", ""]))] =
      [Utf8.encode (listField ["a", ""])] := by simp [getAll]
  have hall := hclaim ["a", ""] (by simp) htext _ _ hvalue
  rw [many_of_getAll htext hvalue] at hall
  simp at hall

end WireShapes.Http
