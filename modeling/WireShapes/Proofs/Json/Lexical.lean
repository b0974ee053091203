import WireShapes.Proofs.Json.Legal
import WireShapes.Proofs.Json.Sources
import WireShapes.Proofs.Numeric.Lenient

/-!
Which texts of numbers and strings the tokenizer accepts.

* `exists_lenient`: a run of signs, digits, points and marks that is read is a number, if perhaps not one
  that the grammar allows
* `legalBody_of_unescape`: a body that denotes a text is one that the grammar allows
* `lexical_of_mem`: the text of every token, and when it is by the grammar
-/

namespace WireShapes.Json

open Decimal

/-! ### Numbers -/

/-- There is no letter in a number but the mark of an exponent. -/
theorem toLower_ne_of_isNumberChar {c : Char} (h : isNumberChar c = true) : c.toLower ≠ 'n' := by
  have hall : ∀ k < 0x80, isNumberChar (Char.ofNat k) = true → (Char.ofNat k).toLower ≠ 'n' := by decide
  have hc : c.toNat < 0x80 := by
    rw [isNumberChar, Bool.and_eq_true, decide_eq_true_eq] at h
    exact h.1
  rw [← Char.ofNat_toNat c] at h ⊢
  exact hall c.toNat hc h

/-- The words for what is not finite have an `n`. -/
theorem readWord?_number {cs : List Char} (h : ∀ c ∈ cs, isNumberChar c = true) (minus : Bool) :
    readWord? minus cs = none := by
  have hne : ∀ word : String, 'n' ∈ word.toList → String.ofList (cs.map Char.toLower) ≠ word := by
    rintro _ hn rfl
    rw [String.toList_ofList] at hn
    obtain ⟨c, hc, hlower⟩ := List.mem_map.1 hn
    exact toLower_ne_of_isNumberChar (h c hc) hlower
  simp only [readWord?, hne "inf" (by decide), hne "infinity" (by decide), hne "nan" (by decide), or_self,
    if_false]

theorem exists_lenient_of_digits (ds : Digits) (minus : Bool) :
    ∃ l : Lenient, l.chars = if minus then '-' :: ds.chars else ds.chars := by
  refine ⟨⟨minus, ds.chars, none, none, ?_, ?_⟩, ?_⟩
  · simpa using ds.each
  · simpa using ds.ne_nil
  · simp [Lenient.chars, Lenient.unsigned, Lenient.fractionChars, Lenient.exponentChars]

section Run

variable {c : Char} {cs : List Char} (start : c = '-' ∨ isDigit c = true)
  (each : ∀ d ∈ c :: cs, isNumberChar d = true)

include start each

theorem exists_lenient_of_double {x : Double} (h : readDouble? (c :: cs) = some x) :
    ∃ l : Lenient, l.chars = c :: cs := by
  rcases start with rfl | hdigit
  · have h : (readUnsigned? true cs).or (readWord? true cs) = some x := h
    rw [readWord?_number fun d hd => each d (by simp [hd]), Option.or_none] at h
    obtain ⟨l, hminus, hunsigned⟩ := readUnsigned?_eq_some h
    exact ⟨l, by rw [Lenient.chars, hminus, if_pos rfl, hunsigned]⟩
  · have hminus : c ≠ '-' := ne_of_isDigit hdigit (by decide)
    have hplus : c ≠ '+' := ne_of_isDigit hdigit (by decide)
    have h : (readUnsigned? false (c :: cs)).or (readWord? false (c :: cs)) = some x := by
      simpa [readDouble?, hminus, hplus] using h
    rw [readWord?_number each, Option.or_none] at h
    obtain ⟨l, hl, hunsigned⟩ := readUnsigned?_eq_some h
    exact ⟨l, by rw [Lenient.chars, hl, hunsigned]; rfl⟩

/-- **A run that is read is a number.** -/
theorem exists_lenient {n : Number} (h : number? (c :: cs) = some n) : ∃ l : Lenient, l.chars = c :: cs := by
  have hreal : ((readDouble? (c :: cs)).map Number.real) = some n → ∃ l : Lenient, l.chars = c :: cs := by
    intro hreal
    obtain ⟨x, hx, -⟩ := Option.map_eq_some_iff.1 hreal
    exact exists_lenient_of_double start each hx
  unfold number? at h
  dsimp only at h
  split at h
  · exact hreal h
  split at h
  · next hhead =>
    obtain rfl : c = '-' := by simpa using hhead
    split at h
    · next k hk =>
      rw [readInt?] at hk
      cases hm : readNat? cs with
      | none => simp [hm] at hk
      | some m =>
        obtain ⟨ds, rfl⟩ := readNat?_eq_some hm
        exact exists_lenient_of_digits ds true
    · exact hreal h
  · split at h
    · next k hk =>
      obtain ⟨ds, hds⟩ := readNat?_eq_some hk
      rw [← hds]
      exact exists_lenient_of_digits ds false
    · exact hreal h

end Run

theorem exists_lenient_of_bytes {b : UInt8} {run : List UInt8} {n : Number}
    (start : b = 0x2D ∨ 0x30 ≤ b ∧ b ≤ 0x39) (each : ∀ x ∈ b :: run, isNumberByte x = true)
    (reads : number? ((b :: run).map fun x => Char.ofNat x.toNat) = some n) :
    ∃ l : Lenient, b :: run = Utf8.encodeChars l.chars ∧ number? l.chars = some n := by
  have hascii : ∀ x ∈ b :: run, x.toNat < 0x80 := by
    have hall : ∀ k < 0x100, isNumberByte (UInt8.ofNat k) = true → k < 0x80 := by
      decide +kernel
    intro x hx
    exact hall x.toNat x.toNat_lt (by simpa using each x hx)
  have heach : ∀ d ∈ (b :: run).map fun x => Char.ofNat x.toNat, isNumberChar d = true := by
    intro d hd
    obtain ⟨x, hx, rfl⟩ := List.mem_map.1 hd
    have hlt := hascii x hx
    simp [isNumberChar, Utf8.toNat_char_ascii hlt, hlt, each x hx]
  have hstart : Char.ofNat b.toNat = '-' ∨ isDigit (Char.ofNat b.toNat) = true := by
    refine start.imp (fun h => by rw [h]; rfl) fun h => ?_
    rw [UInt8.le_iff_toNat_le, UInt8.le_iff_toNat_le] at h
    simpa [isDigit, Utf8.toNat_char_ascii (hascii b (by simp))] using h
  rw [List.map_cons] at reads heach
  obtain ⟨l, hl⟩ := exists_lenient hstart heach reads
  refine ⟨l, ?_, hl ▸ reads⟩
  have hback := Utf8.encodeChars_map_ascii hascii
  rw [hl, ← hback, List.map_cons]

/-! ### Strings -/

theorem isHexDigit_of_hexValue? {c : Char} {n : Nat} (h : hexValue? c = some n) : isHexDigit c = true := by
  unfold hexValue? at h
  unfold isHexDigit isDigit
  simp only [Bool.or_eq_true, Bool.and_eq_true, decide_eq_true_eq]
  split at h
  · omega
  split at h
  · omega
  split at h
  · omega
  · cases h

theorem isHexDigit_of_unit? {p q r s : Char} {n : Nat} (h : unit? p q r s = some n) :
    ∀ c ∈ [p, q, r, s], isHexDigit c = true := by
  unfold unit? at h
  obtain ⟨a, ha, h⟩ := Option.bind_eq_some_iff.1 h
  obtain ⟨b, hb, h⟩ := Option.bind_eq_some_iff.1 h
  obtain ⟨c, hc, h⟩ := Option.bind_eq_some_iff.1 h
  obtain ⟨d, hd, h⟩ := Option.bind_eq_some_iff.1 h
  simp [isHexDigit_of_hexValue? ha, isHexDigit_of_hexValue? hb, isHexDigit_of_hexValue? hc,
    isHexDigit_of_hexValue? hd]

theorem mem_of_shortEscape? {c d : Char} (h : shortEscape? c = some d) :
    c ∈ ['"', '\\', '/', 'b', 'f', 'n', 'r', 't'] := by
  unfold shortEscape? at h
  grind

theorem Body.of_escape {c : Char} {cs : List Char} (h : Body ('\\' :: c :: cs)) : Body cs := by
  cases h with
  | char _ slash => exact absurd rfl slash
  | escape tail => exact tail

theorem Body.of_char {c : Char} {cs : List Char} (slash : c ≠ '\\') (h : Body (c :: cs)) :
    c ≠ '"' ∧ 0x20 ≤ c.toNat ∧ Body cs := by
  cases h with
  | char quote _ control tail => exact ⟨quote, control, tail⟩
  | escape => exact absurd rfl slash

/-- Four hexadecimal digits leave a body behind. -/
theorem Body.of_unit {p q r s : Char} {cs : List Char} (hex : ∀ c ∈ [p, q, r, s], isHexDigit c = true)
    (h : Body (p :: q :: r :: s :: cs)) : Body cs := by
  have slash : ∀ c ∈ [p, q, r, s], c ≠ '\\' := fun c hc => (plain_of_isHexDigit (hex c hc)).2.1
  have h₁ := (h.of_char (slash p (by simp))).2.2
  have h₂ := (h₁.of_char (slash q (by simp))).2.2
  have h₃ := (h₂.of_char (slash r (by simp))).2.2
  exact (h₃.of_char (slash s (by simp))).2.2

/-- **A body that denotes a text is one that the grammar allows.** -/
theorem legalBody_of_unescape {cs ds : List Char} (body : Body cs) (h : unescapeChars cs = .ok ds) :
    LegalBody cs := by
  fun_induction unescapeChars cs generalizing ds with
  | case1 => exact .nil
  | case2 c rest slash ih =>
    obtain ⟨tail, htail, -⟩ := Results.map_eq_ok_iff.1 h
    obtain ⟨quote, control, hrest⟩ := body.of_char slash
    exact .plain quote slash control (ih hrest htail)
  | case4 c slash e rest _ s hs ih =>
    obtain rfl := not_not.1 slash
    obtain ⟨tail, htail, -⟩ := Results.map_eq_ok_iff.1 h
    exact .short (mem_of_shortEscape? hs) (ih body.of_escape htail)
  | case8 c slash e mark p q r s rest unit hunit _ _ ih =>
    obtain rfl := not_not.1 slash
    obtain rfl := not_not.1 mark
    obtain ⟨tail, htail, -⟩ := Results.map_eq_ok_iff.1 h
    have hex := isHexDigit_of_unit? hunit
    exact .unit hex (ih (body.of_escape.of_unit hex) htail)
  | case10 c slash e mark p q r s high hhigh _ _ p' q' r' s' rest low hlow _ ih =>
    -- a pair of surrogates is two units
    obtain rfl := not_not.1 slash
    obtain rfl := not_not.1 mark
    obtain ⟨tail, htail, -⟩ := Results.map_eq_ok_iff.1 h
    have hex := isHexDigit_of_unit? hhigh
    have hex' := isHexDigit_of_unit? hlow
    have hrest := (body.of_escape.of_unit hex).of_escape.of_unit hex'
    exact .unit hex (.unit hex' (ih hrest htail))
  | _ => cases h

/-- The grammar allows no control character. -/
theorem LegalBody.control {cs : List Char} (h : LegalBody cs) : ∀ c ∈ cs, 0x20 ≤ c.toNat := by
  induction h with
  | nil => simp
  | plain _ _ control _ ih => exact List.forall_mem_cons.2 ⟨control, ih⟩
  | short named _ ih =>
    refine List.forall_mem_cons.2 ⟨by decide, List.forall_mem_cons.2 ⟨?_, ih⟩⟩
    have hall : ∀ c ∈ ['"', '\\', '/', 'b', 'f', 'n', 'r', 't'], 0x20 ≤ c.toNat := by simp
    exact hall _ named
  | unit hex _ ih =>
    have digits := fun c hc => (plain_of_isHexDigit (hex c hc)).2.2
    simp only [List.forall_mem_cons] at digits ⊢
    exact ⟨by decide, by decide, digits.1, digits.2.1, digits.2.2.1, digits.2.2.2.1, ih⟩

theorem le_of_mem_encode {s : String} (h : ∀ c ∈ s.toList, 0x20 ≤ c.toNat) {b : UInt8}
    (hb : b ∈ Utf8.encode s) : 0x20 ≤ b := by
  obtain ⟨c, hc, hbc⟩ := List.mem_flatMap.1 hb
  rw [UInt8.le_iff_toNat_le]
  show 0x20 ≤ b.toNat
  rcases Nat.lt_or_ge c.toNat 0x80 with hascii | hwide
  · rw [Utf8.encodeChar_ascii hascii, List.mem_singleton] at hbc
    rw [hbc, Utf8.toNat_ofNat (by omega)]
    exact h c hc
  · exact Nat.le_trans (by decide) (Utf8.le_of_mem_encodeChar hwide hbc)

/-! ### Tokens -/

/-- **The texts of the numbers and strings that the tokenizer accepts.** A number is a lenient one, and goes
as far as it can; it is by the grammar just if it is strict. A string or a key is a literal in whose body a
control character can stand only where a backslash takes it along; if the literal denotes a text, its body is
by the grammar, and there is no control character in it at all. -/
theorem lexical_of_mem (bytes : List UInt8) (t : Token) (h : .ok t ∈ tokenize bytes) :
    (∀ n, t.lexeme = .number n → ∃ (l : Lenient) (rest : List UInt8),
      bytes.drop t.offset = Utf8.encodeChars l.chars ++ rest ∧ Stops rest ∧ number? l.chars = some n ∧
        ((∃ m : Numeral, m.chars = l.chars) ↔ l.Strict)) ∧
    ∀ raw, t.lexeme = .string raw ∨ t.lexeme = .key raw → ∃ rest,
      bytes.drop t.offset = literal raw ++ rest ∧ Body raw.toList ∧
        ((∃ text, unescape raw = .ok text) →
          LegalBody raw.toList ∧ ∀ b ∈ Utf8.encode raw, 0x20 ≤ b) := by
  obtain ⟨text, tail, htext, ⟨inner, lead, after, hstep⟩, hends⟩ := source_of_tokenize h
  rw [htext]
  refine ⟨fun n hn => ?_, fun raw hraw => ?_⟩
  · rw [hn] at hstep hends
    obtain ⟨inner, hvalue⟩ := hstep.value (.inr ⟨n, rfl⟩)
    obtain ⟨b, run, rfl, start, each, reads⟩ := hvalue.number_inv
    obtain ⟨l, hl, hreads⟩ := exists_lenient_of_bytes start each reads
    exact ⟨l, tail, by rw [hl], hends n rfl, hreads, l.exists_numeral_iff⟩
  · have hliteral : ∃ more, text = literal raw ++ more ∧ Body raw.toList := by
      rcases hraw with hraw | hraw <;> rw [hraw] at hstep
      · obtain ⟨inner, hvalue⟩ := hstep.value (.inl ⟨raw, rfl⟩)
        exact ⟨[], by rw [List.append_nil, hvalue.string_inv.1], hvalue.string_inv.2⟩
      · obtain ⟨gap, hgap, hbody⟩ := hstep.key_inv
        exact ⟨_, hgap, hbody⟩
    obtain ⟨more, rfl, hbody⟩ := hliteral
    refine ⟨more ++ tail, List.append_assoc .., hbody, ?_⟩
    rintro ⟨value, hvalue⟩
    obtain ⟨cs, hcs, -⟩ := Results.map_eq_ok_iff.1 hvalue
    have hlegal := legalBody_of_unescape hbody hcs
    exact ⟨hlegal, fun b hb => le_of_mem_encode hlegal.control hb⟩

/-- An array of a string and a number. -/
def pairText : List UInt8 := Utf8.encode "[\"\\/\",-0.5]"

theorem tokenize_pairText : tokenize pairText = [.ok ⟨0, .startArray⟩, .ok ⟨1, .string "\\/"⟩,
    .ok ⟨6, .number (.real (Double.ofSigned true (1 / 2)))⟩, .ok ⟨10, .endArray⟩] := by
  decide +kernel

theorem pairText_lexical :
    (∃ (l : Lenient) (rest : List UInt8), pairText.drop 6 = Utf8.encodeChars l.chars ++ rest ∧
      ((∃ m : Numeral, m.chars = l.chars) ↔ l.Strict)) ∧
    ∃ rest, pairText.drop 1 = literal "\\/" ++ rest ∧ ∀ b ∈ Utf8.encode "\\/", 0x20 ≤ b := by
  obtain ⟨hnumber, -⟩ := lexical_of_mem pairText ⟨6, .number (.real (Double.ofSigned true (1 / 2)))⟩
    (by rw [tokenize_pairText]; simp)
  obtain ⟨-, hstring⟩ := lexical_of_mem pairText ⟨1, .string "\\/"⟩ (by rw [tokenize_pairText]; simp)
  obtain ⟨l, rest, htext, -, -, hiff⟩ := hnumber _ rfl
  obtain ⟨rest', htext', -, hclean⟩ := hstring _ (.inl rfl)
  exact ⟨⟨l, rest, htext, hiff⟩, rest', htext', (hclean ⟨"/", by decide⟩).2⟩

/-- A zero in front of another digit and a control character after a backslash are accepted. -/
theorem looseText_accepted :
    tokenize [0x5B, 0x30, 0x31, 0x2C, 0x22, 0x5C, 0x01, 0x22, 0x5D] =
      [.ok ⟨0, .startArray⟩, .ok ⟨1, .number (.natural 1)⟩, .ok ⟨4, .string "\\\x01"⟩,
        .ok ⟨8, .endArray⟩] ∧
    (∀ m : Numeral, m.chars ≠ ['0', '1']) ∧ 0x01 ∈ Utf8.encode "\\\x01" := by
  refine ⟨by decide +kernel, fun m hm => ?_, by decide +kernel⟩
  let l : Lenient := ⟨false, ['0', '1'], none, none, by simp [isDigit], by simp⟩
  obtain ⟨-, -, leading⟩ := l.exists_numeral_iff.1 ⟨m, hm⟩
  exact absurd (leading rfl) (by simp [l])

end WireShapes.Json
