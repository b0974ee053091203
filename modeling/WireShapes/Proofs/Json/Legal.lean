import WireShapes.Proofs.Json.Writing
import WireShapes.Proofs.Numeric.Numerals

/-!
The texts that the grammar of JSON allows, and their tokens.

* `LegalBody`: the bodies of strings: characters as they are, short escapes and code units
* `Legal t text`: `text` is a text of the value `t` by the grammar of JSON
* `number?_denotes`: every number of the grammar is read, in the form that its text asks for
* `Legal.spells`: what the grammar allows is a text of the value
* `tokenize_legal`: and so its tokens are those of the value
-/

namespace WireShapes.Json

open Decimal

/-- A hexadecimal digit of either case. -/
def isHexDigit (c : Char) : Bool :=
  isDigit c || (65 ≤ c.toNat && c.toNat ≤ 70) || (97 ≤ c.toNat && c.toNat ≤ 102)

/-- The body of a string: characters that need no escape, short escapes, and code units in four
hexadecimal digits. -/
inductive LegalBody : List Char → Prop
  | nil : LegalBody []
  | plain {c : Char} {rest : List Char} (quote : c ≠ '"') (slash : c ≠ '\\') (control : 0x20 ≤ c.toNat)
      (tail : LegalBody rest) : LegalBody (c :: rest)
  | short {c : Char} {rest : List Char} (named : c ∈ ['"', '\\', '/', 'b', 'f', 'n', 'r', 't'])
      (tail : LegalBody rest) : LegalBody ('\\' :: c :: rest)
  | unit {p q r s : Char} {rest : List Char} (hex : ∀ c ∈ [p, q, r, s], isHexDigit c = true)
      (tail : LegalBody rest) : LegalBody ('\\' :: 'u' :: p :: q :: r :: s :: rest)

/-- `text` is a text of the value `t`, without blanks around it. -/
inductive Legal : Tree → List UInt8 → Prop
  | string {raw : String} (body : LegalBody raw.toList) : Legal (.string raw) (literal raw)
  | number {l : Numeral} {value : Number} (denotes : l.Denotes value) :
      Legal (.number value) (Utf8.encodeChars l.chars)
  | wordTrue : Legal (.bool true) (Utf8.encode "true")
  | wordFalse : Legal (.bool false) (Utf8.encode "false")
  | wordNull : Legal .null (Utf8.encode "null")
  | emptyArray {w : List UInt8} (blank : Blank w) : Legal (.array []) (0x5B :: (w ++ [0x5D]))
  | array {first : Piece} {pieces : List Piece} (spaced : ∀ p ∈ first :: pieces, p.Spaced)
      (each : ∀ p ∈ first :: pieces, Legal p.tree p.text) :
      Legal (.array ((first :: pieces).map Piece.tree))
        (0x5B :: (commaed ((first :: pieces).map Piece.bytes) ++ [0x5D]))
  | emptyObject {w : List UInt8} (blank : Blank w) : Legal (.object []) (0x7B :: (w ++ [0x7D]))
  | object {first : Field} {fields : List Field} (keys : ∀ f ∈ first :: fields, LegalBody f.key.toList)
      (spaced : ∀ f ∈ first :: fields, Blank f.lead ∧ Blank f.gap ∧ f.value.Spaced)
      (each : ∀ f ∈ first :: fields, Legal f.value.tree f.value.text) :
      Legal (.object ((first :: fields).map Field.entry))
        (0x7B :: (commaed ((first :: fields).map Field.bytes) ++ [0x7D]))

/-! ### Strings -/

theorem plain_of_isHexDigit {c : Char} (h : isHexDigit c = true) :
    c ≠ '"' ∧ c ≠ '\\' ∧ 0x20 ≤ c.toNat := by
  refine ⟨?_, ?_, ?_⟩
  · rintro rfl
    revert h
    decide
  · rintro rfl
    revert h
    decide
  · simp only [isHexDigit, isDigit, Bool.or_eq_true, Bool.and_eq_true, decide_eq_true_eq] at h
    omega

theorem LegalBody.body {cs : List Char} (h : LegalBody cs) : Body cs := by
  induction h with
  | nil => exact .nil
  | plain quote slash control _ ih => exact .char quote slash control ih
  | short _ _ ih => exact .escape ih
  | @unit p q r s rest hex _ ih =>
    have plain : ∀ c ∈ [p, q, r, s], ∀ {ds}, Body ds → Body (c :: ds) := by
      intro c hc ds hds
      obtain ⟨hquote, hslash, hcontrol⟩ := plain_of_isHexDigit (hex c hc)
      exact .char hquote hslash hcontrol hds
    exact .escape (plain p (by simp) (plain q (by simp) (plain r (by simp) (plain s (by simp) ih))))

theorem legalBody_of_bare {cs : List Char} (h : cs.all isBare = true) : LegalBody cs := by
  induction cs with
  | nil => exact .nil
  | cons c rest ih =>
    simp only [List.all_cons, isBare, Bool.and_eq_true, bne_iff_ne, decide_eq_true_eq] at h
    obtain ⟨⟨⟨hquote, hslash⟩, hcontrol⟩, hrest⟩ := h
    exact .plain hquote hslash hcontrol (ih hrest)

/-! ### Numbers -/

theorem chars_of_isInteger {l : Numeral} (h : l.IsInteger) :
    l.chars = if l.minus then '-' :: l.whole.chars else l.whole.chars := by
  simp [Numeral.chars, Numeral.unsigned, Numeral.fractionChars, Numeral.exponentChars, h.1, h.2]

theorem any_pointOrMark_chars {l : Numeral} (h : ¬l.IsInteger) :
    (l.chars.any fun c => c == '.' || c == 'e' || c == 'E') = true := by
  have hmem : ∀ c ∈ l.fractionChars ++ l.exponentChars, c ∈ l.chars := by
    intro c hc
    unfold Numeral.chars Numeral.unsigned
    split <;> simp [List.mem_append.1 hc]
  rw [List.any_eq_true]
  cases hf : l.fraction with
  | some ds => exact ⟨'.', hmem _ (by simp [Numeral.fractionChars, hf]), by decide⟩
  | none =>
    cases he : l.exponent with
    | none => exact absurd ⟨hf, he⟩ h
    | some e =>
      have hstart : l.exponentChars = e.mark :: (e.sign.toList ++ e.digits.chars) := by
        simp [Numeral.exponentChars, he, Exponent.chars]
      refine ⟨e.mark, hmem _ (by simp [hstart]), ?_⟩
      rcases (l.exponentChars_start hstart).1 with h | h <;> rw [h] <;> decide

/-- **Every number is read, in the form that its text asks for.** -/
theorem number?_denotes (l : Numeral) : ∃ n, number? l.chars = some n ∧ l.Denotes n := by
  have hdouble := readDouble?_chars l
  by_cases hint : l.IsInteger
  · rw [chars_of_isInteger hint] at hdouble ⊢
    cases hm : l.minus with
    | true =>
      rw [hm, if_pos rfl] at hdouble
      rw [if_pos rfl, number?_minusDigits, hdouble]
      by_cases hfits : l.magnitude ≤ 0x8000000000000000
      · exact ⟨_, if_pos hfits, .negative hint hm (IntWidth.toInt_ofInt ((fits_neg_iff l.magnitude).2 hfits))⟩
      · refine ⟨_, if_neg hfits, .real fun h => ?_⟩
        rcases h.2 with h | h
        · simp [hm] at h
        · exact hfits h.2
    | false =>
      rw [hm, if_neg Bool.false_ne_true] at hdouble
      rw [if_neg Bool.false_ne_true, number?_digits, hdouble]
      by_cases hfits : l.magnitude < 0x10000000000000000
      · refine ⟨_, if_pos hfits, .natural hint hm ?_⟩
        rw [UInt64.toNat_ofNat']
        exact Nat.mod_eq_of_lt hfits
      · refine ⟨_, if_neg hfits, .real fun h => ?_⟩
        rcases h.2 with h | h
        · exact hfits h.2
        · simp [hm] at h
  · unfold number?
    rw [if_pos (any_pointOrMark_chars hint), hdouble]
    exact ⟨_, rfl, .real fun h => hint h.1⟩

theorem isNumberChar_exponent (e : Exponent) : ∀ c ∈ e.chars, isNumberChar c = true := by
  intro c hc
  simp only [Exponent.chars, List.mem_cons, List.mem_append, Option.mem_toList] at hc
  rcases hc with rfl | hsign | hdigit
  · have hmark := e.mark_mem
    simp only [List.mem_cons, List.not_mem_nil, or_false] at hmark
    rcases hmark with h | h <;> rw [h] <;> decide
  · have hmem := e.sign_mem
    simp only [List.mem_cons, List.not_mem_nil, or_false, hsign, Option.some.injEq, reduceCtorEq,
      false_or] at hmem
    rcases hmem with rfl | rfl <;> decide
  · exact isNumberChar_digit (e.digits.each c hdigit)

theorem isNumberChar_unsigned (l : Numeral) : ∀ c ∈ l.unsigned, isNumberChar c = true := by
  intro c hc
  simp only [Numeral.unsigned, List.mem_append] at hc
  rcases hc with hwhole | hfraction | hexponent
  · exact isNumberChar_digit (l.whole.each c hwhole)
  · cases hf : l.fraction with
    | none => simp [Numeral.fractionChars, hf] at hfraction
    | some ds =>
      simp only [Numeral.fractionChars, hf, Option.map_some, Option.getD_some, List.mem_cons] at hfraction
      rcases hfraction with rfl | hdigit
      · decide
      · exact isNumberChar_digit (ds.each c hdigit)
  · cases he : l.exponent with
    | none => simp [Numeral.exponentChars, he] at hexponent
    | some e =>
      simp only [Numeral.exponentChars, he, Option.map_some, Option.getD_some] at hexponent
      exact isNumberChar_exponent e c hexponent

theorem spells_numeral {l : Numeral} {value : Number} (h : l.Denotes value) :
    Spells (.number value) (Utf8.encodeChars l.chars) := by
  obtain ⟨n, hreads, hn⟩ := number?_denotes l
  obtain rfl := hn.unique h
  have hall := isNumberChar_unsigned l
  unfold Numeral.chars at hreads ⊢
  split at hreads
  · next hm =>
    rw [if_pos hm]
    exact spells_chars (.inl rfl) hall hreads
  · next hm =>
    obtain ⟨c, more, hchars, hc⟩ := l.whole.exists_cons
    have hcons : l.unsigned = c :: (more ++ (l.fractionChars ++ l.exponentChars)) := by
      rw [Numeral.unsigned, hchars, List.cons_append]
    rw [if_neg hm]
    rw [hcons] at hreads hall ⊢
    exact spells_chars (.inr hc) (fun d hd => hall d (by simp [hd])) hreads

/-! ### Whole texts -/

/-- **What the grammar allows is a text of the value.** -/
theorem Legal.spells {t : Tree} {text : List UInt8} (h : Legal t text) : Spells t text := by
  induction h with
  | string body => exact .string body.body
  | number denotes => exact spells_numeral denotes
  | wordTrue => exact .wordTrue
  | wordFalse => exact .wordFalse
  | wordNull => exact .wordNull
  | emptyArray blank => exact .emptyArray blank
  | array spaced _ ih => exact .array spaced ih
  | emptyObject blank => exact .emptyObject blank
  | object keys spaced _ ih => exact .object (fun f hf => ⟨(keys f hf).body, spaced f hf⟩) ih

/-- **The tokens of a legal text are exactly those of its value**, in the order of the text: whatever
blanks stand in it, however its strings are escaped and its numbers are written, and deep as its
containers may nest. -/
theorem tokenize_legal (p : Piece) (spaced : p.Spaced) (legal : Legal p.tree p.text)
    (hdepth : p.tree.depth ≤ 128) :
    ∃ toks : List Token, toks.map Token.lexeme = p.tree.lexemes ∧ tokenize p.bytes = toks.map .ok :=
  tokenize_of_piece spaced legal.spells hdepth

def minusZero : Numeral := ⟨true, ⟨['0'], by decide, List.all_eq_true.1 rfl⟩, none, none, by decide⟩

def oneFifty : Numeral :=
  ⟨false, ⟨['1'], by decide, List.all_eq_true.1 rfl⟩, some ⟨['5'], by decide, List.all_eq_true.1 rfl⟩,
    some ⟨'E', some '+', ⟨['2'], by decide, List.all_eq_true.1 rfl⟩, by decide, by decide⟩, by decide⟩

/-- An array of two numbers and a string, with blanks of all kinds. -/
def mixedArray : Piece :=
  let items : List Piece := [
    ⟨[0x20], .number (.negative 0), Utf8.encodeChars minusZero.chars, [0x09]⟩,
    ⟨[0x0D, 0x0A], .number (.real oneFifty.double), Utf8.encodeChars oneFifty.chars, []⟩,
    ⟨[], .string "\\u00E9\\/", literal "\\u00E9\\/", []⟩]
  ⟨[0x0A], .array (items.map Piece.tree), 0x5B :: (commaed (items.map Piece.bytes) ++ [0x5D]), [0x20]⟩

theorem legal_mixedArray : Legal mixedArray.tree mixedArray.text := by
  refine .array (fun p hp => ?_) fun p hp => ?_
  · simp only [List.mem_cons, List.not_mem_nil, or_false] at hp
    rcases hp with rfl | rfl | rfl <;> decide
  · simp only [List.mem_cons, List.not_mem_nil, or_false] at hp
    rcases hp with rfl | rfl | rfl
    · exact .number (.negative ⟨rfl, rfl⟩ rfl (by decide))
    · exact .number (.real fun h => by cases h.1.1)
    · exact .string (.unit (List.all_eq_true.1 rfl) (.short (by decide) .nil))

theorem mixedArray_tokens : mixedArray.bytes = Utf8.encode "\n[ -0\t,\r\n1.5E+2,\"\\u00E9\\/\"] " ∧
    mixedArray.Spaced ∧ Legal mixedArray.tree mixedArray.text ∧ mixedArray.tree.depth ≤ 128 ∧
    ∃ toks : List Token, toks.map Token.lexeme = mixedArray.tree.lexemes ∧
      tokenize mixedArray.bytes = toks.map .ok :=
  ⟨by decide, by decide, legal_mixedArray, by decide,
    tokenize_legal mixedArray (by decide) legal_mixedArray (by decide)⟩

end WireShapes.Json
