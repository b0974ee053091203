import WireShapes.Json.Tokenizer
import WireShapes.Proofs.Results
import WireShapes.Proofs.Text.Utf8

/-!
String literals, written and read.

* `unescape_bare`: what has no backslash denotes itself
* `unescape_escape`: what is escaped denotes the text that it was made of, whatever its characters are
* `Body`: the bodies of literals: no bare quote, no control character, and every backslash followed by
  a character that it takes along
* `body_of_plain`, `body_escape`: characters that stand for themselves are a body, and so is what is escaped
* `readString_literal`: a literal is read up to its closing quote and no further
* `readString_eq_ok`: and nothing but a literal is read
-/

namespace WireShapes.Json

/-! ### Escapes denote what they were made of -/

theorem hex4_control : ∀ n < 0x20,
    Text.hex4 n = ['0', '0', (n / 16).digitChar, (n % 16).digitChar] := by decide

theorem unit?_control : ∀ n < 0x20,
    unit? '0' '0' (n / 16).digitChar (n % 16).digitChar = some n := by decide

attribute [grind =] unescapeChars

theorem unescapeChars_plain {c : Char} (h : c ≠ '\\') (rest : List Char) :
    unescapeChars (c :: rest) = (unescapeChars rest).map (c :: ·) := by
  rw [unescapeChars.eq_def]
  simp only [h, ne_eq, not_false_eq_true, if_true]

theorem unescapeChars_bare {cs : List Char} (h : '\\' ∉ cs) : unescapeChars cs = .ok cs := by
  induction cs with
  | nil => rw [unescapeChars]
  | cons c rest ih =>
    rw [List.mem_cons, not_or] at h
    rw [unescapeChars_plain (Ne.symm h.1), ih h.2]
    rfl

theorem unescape_bare {s : String} (h : '\\' ∉ s.toList) : unescape s = .ok s := by
  rw [unescape, unescapeChars_bare h, Results.map_ok, String.ofList_toList]

theorem unescapeChars_short {e s : Char} (hu : e ≠ 'u') (hs : shortEscape? e = some s)
    (rest : List Char) : unescapeChars ('\\' :: e :: rest) = (unescapeChars rest).map (s :: ·) := by
  rw [unescapeChars.eq_def]
  simp only [ne_eq, not_true_eq_false, if_false, hu, not_false_eq_true, if_true, hs]

theorem unescapeChars_unit {p q r s : Char} {unit : Nat} (h : unit? p q r s = some unit)
    (hlow : isLowSurrogate unit = false) (hhigh : isHighSurrogate unit = false) (rest : List Char) :
    unescapeChars ('\\' :: 'u' :: p :: q :: r :: s :: rest) =
      (unescapeChars rest).map (Char.ofNat unit :: ·) := by
  rw [unescapeChars.eq_def]
  simp only [ne_eq, not_true_eq_false, if_false, h, hlow, hhigh, Bool.false_eq_true, Bool.not_false,
    if_true]

theorem unescapeChars_escapeChar (c : Char) (rest : List Char) :
    unescapeChars (escapeChar c ++ rest) = (unescapeChars rest).map (c :: ·) := by
  unfold escapeChar
  split
  · next h => subst h; exact unescapeChars_short (by decide) (by decide) rest
  split
  · next h => subst h; exact unescapeChars_short (by decide) (by decide) rest
  split
  · next h => subst h; exact unescapeChars_short (by decide) (by decide) rest
  split
  · next h => subst h; exact unescapeChars_short (by decide) (by decide) rest
  split
  · next h => subst h; exact unescapeChars_short (by decide) (by decide) rest
  split
  · next h => subst h; exact unescapeChars_short (by decide) (by decide) rest
  split
  · next h => subst h; exact unescapeChars_short (by decide) (by decide) rest
  split
  · next h =>
    have hlow : isLowSurrogate c.toNat = false := by simp [isLowSurrogate]; omega
    have hhigh : isHighSurrogate c.toNat = false := by simp [isHighSurrogate]; omega
    have hunit := unescapeChars_unit (unit?_control c.toNat h) hlow hhigh rest
    rw [Char.ofNat_toNat] at hunit
    rw [unitEscape, hex4_control c.toNat h]
    exact hunit
  · next _ h _ _ _ _ _ _ => exact unescapeChars_plain h rest

theorem unescapeChars_escape (cs : List Char) : unescapeChars (cs.flatMap escapeChar) = .ok cs := by
  induction cs with
  | nil => rw [List.flatMap_nil, unescapeChars]
  | cons c rest ih => rw [List.flatMap_cons, unescapeChars_escapeChar, ih]; rfl

/-- **What is escaped denotes the text that it was made of.** -/
theorem unescape_escape (s : String) : unescape (escape s) = .ok s := by
  rw [unescape, escape, String.toList_ofList, unescapeChars_escape]
  simp [Except.map]

/-! ### Bodies of literals -/

/-- The body of a literal. What stands after a backslash may be anything. -/
inductive Body : List Char → Prop
  | nil : Body []
  | char {c : Char} {rest : List Char} (quote : c ≠ '"') (slash : c ≠ '\\') (control : 0x20 ≤ c.toNat)
      (tail : Body rest) : Body (c :: rest)
  | escape {c : Char} {rest : List Char} (tail : Body rest) : Body ('\\' :: c :: rest)

theorem Body.append {cs ds : List Char} (hc : Body cs) (hd : Body ds) : Body (cs ++ ds) := by
  induction hc with
  | nil => exact hd
  | char quote slash control _ ih => exact .char quote slash control ih
  | escape _ ih => exact .escape ih

/-- A character that stands for itself in a literal. -/
def isBare (c : Char) : Bool := c != '"' && c != '\\' && decide (0x20 ≤ c.toNat)

theorem body_of_plain {cs : List Char} (h : cs.all isBare = true) : Body cs := by
  induction cs with
  | nil => exact .nil
  | cons c rest ih =>
    simp only [List.all_cons, isBare, Bool.and_eq_true, bne_iff_ne, decide_eq_true_eq] at h
    obtain ⟨⟨⟨hquote, hslash⟩, hcontrol⟩, hrest⟩ := h
    exact .char hquote hslash hcontrol (ih hrest)

theorem body_hexDigits : ∀ n < 0x20, Body [(n / 16).digitChar, (n % 16).digitChar] := by
  have hplain : ∀ n < 16, (n.digitChar ≠ '"' ∧ n.digitChar ≠ '\\') ∧ 0x20 ≤ n.digitChar.toNat := by
    decide
  intro n hn
  obtain ⟨⟨h1, h2⟩, h3⟩ := hplain (n / 16) (by omega)
  obtain ⟨⟨h4, h5⟩, h6⟩ := hplain (n % 16) (by omega)
  exact .char h1 h2 h3 (.char h4 h5 h6 .nil)

theorem body_escapeChar (c : Char) : Body (escapeChar c) := by
  unfold escapeChar
  split
  · exact .escape .nil
  split
  · exact .escape .nil
  split
  · exact .escape .nil
  split
  · exact .escape .nil
  split
  · exact .escape .nil
  split
  · exact .escape .nil
  split
  · exact .escape .nil
  split
  · next h =>
    rw [unitEscape, hex4_control c.toNat h]
    refine .escape (.char (by decide) (by decide) (by decide) (.char (by decide) (by decide) (by decide)
      (body_hexDigits c.toNat h)))
  · next hquote hslash _ _ _ _ _ hcontrol =>
    exact .char hquote hslash (Nat.le_of_not_lt hcontrol) .nil

/-- **What is escaped is a body**: it has no bare quote and no control character. -/
theorem body_escape (s : String) : Body (escape s).toList := by
  rw [escape, String.toList_ofList]
  induction s.toList with
  | nil => exact .nil
  | cons c rest ih => rw [List.flatMap_cons]; exact (body_escapeChar c).append ih

/-! ### Reading up to the closing quote -/

attribute [grind =] bodyLength

theorem bodyLength_pass {b : UInt8} (quote : b ≠ 0x22) (slash : b ≠ 0x5C) (control : 0x20 ≤ b.toNat)
    (offset : Nat) (rest : List UInt8) :
    bodyLength offset (b :: rest) = (bodyLength (offset + 1) rest).map (· + 1) := by
  have hlt : ¬b < 0x20 := by rw [UInt8.lt_iff_toNat_lt]; exact Nat.not_lt.2 control
  rw [bodyLength.eq_def]
  simp only [quote, slash, hlt, if_false]

theorem bodyLength_slash (b : UInt8) (offset : Nat) (rest : List UInt8) :
    bodyLength offset (0x5C :: b :: rest) = (bodyLength (offset + 2) rest).map (· + 2) := by
  rw [bodyLength.eq_def]
  simp only [show (0x5C : UInt8) ≠ 0x22 by decide, if_false, if_true]

/-- Bytes beyond ASCII are passed over. -/
theorem bodyLength_wide {bytes : List UInt8} (h : ∀ b ∈ bytes, 0x80 ≤ b.toNat) (offset : Nat)
    (rest : List UInt8) :
    bodyLength offset (bytes ++ rest) =
      (bodyLength (offset + bytes.length) rest).map (· + bytes.length) := by
  induction bytes generalizing offset with
  | nil => exact (Results.map_id _).symm
  | cons b bytes ih =>
    have hb := h b (by simp)
    have hne : ∀ x : UInt8, x.toNat < 0x80 → b ≠ x := fun x hx hbx => by rw [hbx] at hb; omega
    rw [List.cons_append, bodyLength_pass (hne _ (by decide)) (hne _ (by decide)) (by omega),
      ih (fun x hx => h x (by simp [hx])), Results.map_map, List.length_cons, Nat.add_assoc,
      Nat.add_comm 1]
    rfl

theorem bodyLength_char {c : Char} (quote : c ≠ '"') (slash : c ≠ '\\') (control : 0x20 ≤ c.toNat)
    (offset : Nat) (rest : List UInt8) :
    bodyLength offset (String.utf8EncodeChar c ++ rest) =
      (bodyLength (offset + (String.utf8EncodeChar c).length) rest).map
        (· + (String.utf8EncodeChar c).length) := by
  by_cases hc : c.toNat < 0x80
  · have hb : (UInt8.ofNat c.toNat).toNat = c.toNat := Utf8.toNat_ofNat (by omega)
    have hne : ∀ d : Char, d.toNat < 0x80 → c ≠ d → UInt8.ofNat c.toNat ≠ UInt8.ofNat d.toNat := by
      intro d hd hcd h
      have := congrArg UInt8.toNat h
      rw [hb, Utf8.toNat_ofNat (by omega)] at this
      exact hcd (Char.toNat_inj.1 this)
    rw [Utf8.encodeChar_ascii hc, List.cons_append, List.nil_append,
      bodyLength_pass (hne '"' (by decide) quote) (hne '\\' (by decide) slash) (hb.symm ▸ control)]
    rfl
  · exact bodyLength_wide (fun b hb => Utf8.le_of_mem_encodeChar (Nat.le_of_not_lt hc) hb) offset rest

/-- A backslash takes all bytes of the character after it along. -/
theorem bodyLength_escape (c : Char) (offset : Nat) (rest : List UInt8) :
    bodyLength offset (0x5C :: (String.utf8EncodeChar c ++ rest)) =
      (bodyLength (offset + (1 + (String.utf8EncodeChar c).length)) rest).map
        (· + (1 + (String.utf8EncodeChar c).length)) := by
  -- the first byte of the character goes with the backslash, and the others are no ASCII
  obtain ⟨b, more, he⟩ := List.exists_cons_of_ne_nil (String.utf8EncodeChar_ne_nil (c := c))
  have hmore : ∀ x ∈ more, 0x80 ≤ x.toNat := by
    intro x hx
    by_cases hc : c.toNat < 0x80
    · rw [Utf8.encodeChar_ascii hc] at he
      rw [← (List.cons.inj he).2] at hx
      simp at hx
    · exact Utf8.le_of_mem_encodeChar (Nat.le_of_not_lt hc) (he ▸ List.mem_cons_of_mem _ hx)
  have hlen : 1 + (b :: more).length = 2 + more.length := by rw [List.length_cons]; omega
  rw [he, List.cons_append, bodyLength_slash, bodyLength_wide hmore, Results.map_map, hlen,
    Nat.add_assoc, Nat.add_comm 2 more.length]
  rfl

theorem encodeChars_escape (c : Char) (cs : List Char) :
    Utf8.encodeChars ('\\' :: c :: cs) = 0x5C :: (String.utf8EncodeChar c ++ Utf8.encodeChars cs) := by
  rw [Utf8.encodeChars_cons, Utf8.encodeChars_cons, Utf8.encodeChar_ascii (by decide)]
  rfl

theorem Body.bodyLength {cs : List Char} (h : Body cs) (offset : Nat) (rest : List UInt8) :
    bodyLength offset (Utf8.encodeChars cs ++ 0x22 :: rest) = .ok (Utf8.encodeChars cs).length := by
  induction h generalizing offset with
  | nil =>
    rw [Utf8.encodeChars_nil, List.nil_append, Json.bodyLength.eq_def]
    simp
  | @char c more quote slash control _ ih =>
    rw [Utf8.encodeChars_cons, List.append_assoc, bodyLength_char quote slash control, ih,
      List.length_append, Nat.add_comm]
    rfl
  | @escape c more _ ih =>
    rw [encodeChars_escape, List.cons_append, List.append_assoc, bodyLength_escape, ih,
      List.length_cons, List.length_append, Nat.add_right_comm, Nat.add_comm _ 1, Nat.add_comm]
    simp only [Results.map_ok]
    congr 1
    omega

/-- The bytes of the literal with the given body. -/
def literal (raw : String) : List UInt8 := 0x22 :: (Utf8.encode raw ++ [0x22])

theorem literal_eq (raw : String) : literal raw = 0x22 :: (Utf8.encode raw ++ [0x22]) := rfl

/-- **A literal is read up to its closing quote**, and what is read is its body. -/
theorem readString_literal {raw : String} (h : Body raw.toList) (offset : Nat) (rest : List UInt8) :
    ∃ offset', readString ⟨offset, literal raw ++ rest⟩ = .ok (raw, ⟨offset', rest⟩) := by
  refine ⟨offset + 1 + ((Utf8.encode raw).length + 1), ?_⟩
  have hrest : literal raw ++ rest = 0x22 :: (Utf8.encode raw ++ 0x22 :: rest) := by
    simp [literal]
  have hlen := h.bodyLength (offset + 1) rest
  unfold readString Cursor.advance
  simp only [hrest, List.drop_one, List.tail_cons]
  rw [show Utf8.encodeChars raw.toList = Utf8.encode raw from rfl] at hlen
  simp only [hlen, bind, Except.bind, List.take_left', Utf8.decode_encode, Except.ok.injEq,
    Prod.mk.injEq, Cursor.mk.injEq, true_and]
  rw [List.drop_append, List.drop_of_length_le (Nat.le_succ _), Nat.add_sub_cancel_left]
  rfl

/-! ### What was read -/

/-- The body ends in front of a quote. -/
theorem bodyLength_eq_ok {offset n : Nat} {bytes : List UInt8} (h : bodyLength offset bytes = .ok n) :
    ∃ body tail, bytes = body ++ 0x22 :: tail ∧ body.length = n := by
  fun_induction Json.bodyLength offset bytes generalizing n with
  | case2 offset rest =>
    cases h
    exact ⟨[], rest, rfl, rfl⟩
  | case4 offset c rest _ ih =>
    obtain ⟨m, hm, rfl⟩ := Results.map_eq_ok_iff.1 h
    obtain ⟨body, tail, rfl, rfl⟩ := ih hm
    exact ⟨0x5C :: c :: body, tail, rfl, rfl⟩
  | case6 offset b rest _ _ _ ih =>
    obtain ⟨m, hm, rfl⟩ := Results.map_eq_ok_iff.1 h
    obtain ⟨body, tail, rfl, rfl⟩ := ih hm
    exact ⟨b :: body, tail, rfl, rfl⟩
  | _ => cases h

theorem bodyLength_quote (offset : Nat) (rest : List UInt8) :
    bodyLength offset (0x22 :: rest) = .ok 0 := by
  rw [bodyLength.eq_def]
  simp

theorem bodyLength_control {b : UInt8} (h : b.toNat < 0x20) (offset : Nat) (rest : List UInt8) :
    bodyLength offset (b :: rest) = .error (.locate offset (.control b)) := by
  have hlt : b < 0x20 := UInt8.lt_iff_toNat_lt.2 h
  have hne : ∀ x : UInt8, 0x20 ≤ x.toNat → b ≠ x := fun x hx hbx => by rw [hbx] at h; omega
  rw [bodyLength.eq_def]
  simp only [hne 0x22 (by decide), hne 0x5C (by decide), hlt, if_false, if_true]

/-- A character before the closing quote that is no backslash stands for itself. -/
theorem bare_of_bodyLength {c : Char} (slash : c ≠ '\\') {offset n : Nat} {rest : List UInt8}
    (h : bodyLength offset (String.utf8EncodeChar c ++ rest) = .ok n) (hn : n ≠ 0) :
    c ≠ '"' ∧ 0x20 ≤ c.toNat := by
  have hascii : ∀ d : Char, d.toNat < 0x80 → String.utf8EncodeChar d ++ rest =
      UInt8.ofNat d.toNat :: rest := fun d hd => by rw [Utf8.encodeChar_ascii hd]; rfl
  constructor
  · rintro rfl
    rw [hascii _ (by decide)] at h
    exact hn (Except.ok.inj ((bodyLength_quote offset rest).symm.trans h)).symm
  · refine Nat.le_of_not_lt fun hlt => ?_
    have hb : (UInt8.ofNat c.toNat).toNat < 0x20 := by rw [Utf8.toNat_ofNat (by omega)]; exact hlt
    rw [hascii _ (by omega), bodyLength_control hb] at h
    cases h

/-- **What is passed over up to a quote is a body**: a control character stands in it only where a
backslash takes it along. -/
theorem body_of_bodyLength {tail : List UInt8} (cs : List Char) (offset : Nat)
    (h : bodyLength offset (Utf8.encodeChars cs ++ 0x22 :: tail) = .ok (Utf8.encodeChars cs).length) :
    Body cs := by
  cases cs with
  | nil => exact .nil
  | cons c rest =>
    by_cases hslash : c = '\\'
    · subst hslash
      cases rest with
      | nil =>
        -- the backslash takes the quote along
        have hslash : Utf8.encodeChars ['\\'] = [0x5C] := by decide
        rw [hslash, List.cons_append, List.nil_append, bodyLength_slash] at h
        obtain ⟨n, -, hn⟩ := Results.map_eq_ok_iff.1 h
        simp at hn
      | cons d more =>
        rw [encodeChars_escape, List.cons_append, List.append_assoc, bodyLength_escape] at h
        obtain ⟨n, hn, hsum⟩ := Results.map_eq_ok_iff.1 h
        rw [List.length_cons, List.length_append] at hsum
        exact .escape (body_of_bodyLength more _ (hn.trans (congrArg _ (by omega))))
    · have hpos : 0 < (String.utf8EncodeChar c).length :=
        List.length_pos_iff.2 String.utf8EncodeChar_ne_nil
      rw [Utf8.encodeChars_cons, List.append_assoc, List.length_append] at h
      obtain ⟨hquote, hcontrol⟩ := bare_of_bodyLength hslash h (by omega)
      rw [bodyLength_char hquote hslash hcontrol] at h
      obtain ⟨n, hn, hsum⟩ := Results.map_eq_ok_iff.1 h
      exact .char hquote hslash hcontrol (body_of_bodyLength rest _ (hn.trans (congrArg _ (by omega))))
termination_by cs.length

/-- **Nothing but a literal is read**, and it is read up to its closing quote. -/
theorem readString_eq_ok {offset : Nat} {rest : List UInt8} {raw : String} {next : Cursor}
    (h : readString ⟨offset, 0x22 :: rest⟩ = .ok (raw, next)) :
    ∃ tail, 0x22 :: rest = literal raw ++ tail ∧ Body raw.toList ∧
      next = ⟨offset + (literal raw).length, tail⟩ := by
  unfold readString Cursor.advance at h
  simp only [List.drop_one, List.tail_cons] at h
  obtain ⟨n, hn, h⟩ := Results.bind_eq_ok_iff.1 h
  obtain ⟨body, tail, rfl, rfl⟩ := bodyLength_eq_ok hn
  rw [List.take_left] at h
  split at h
  · next raw' hraw =>
    obtain rfl := Utf8.decode_eq_ok_iff.1 hraw
    cases h
    refine ⟨tail, by simp [literal], body_of_bodyLength _ _ hn, ?_⟩
    have hplace : offset + 1 + ((Utf8.encode raw).length + 1) = offset + (literal raw).length := by
      simp only [literal, List.length_cons, List.length_append, List.length_nil]
      omega
    rw [hplace, List.drop_append, List.drop_of_length_le (Nat.le_succ _), Nat.add_sub_cancel_left]
    rfl
  · cases h

end WireShapes.Json
