import WireShapes.Proofs.Json.Lexical

/-!
The units of an escaped text.

* `Hex4 ds n`: four hexadecimal digits of either case, and their value
* `Denotes u c`: the unit `u` denotes the character `c`: a character that stands for itself, a short escape,
  a code unit that is no surrogate, or a pair of surrogates
* `Flawed cs`: at the front of `cs` stands an escape that is no unit
* `exists_units`: a text is units, and then nothing or a flaw
* `unescape_exact`: the first are read as the characters of their units, the others are refused
-/

namespace WireShapes.Json

/-! ### Digits -/

/-- A digit for a value below sixteen, in either case. -/
def HexDigit (c : Char) (value : Nat) : Prop :=
  value < 16 ∧ (c = value.digitChar ∨ c = value.digitChar.toUpper)

/-- Four digits, and the value that they have together. -/
def Hex4 (ds : List Char) (n : Nat) : Prop :=
  ∃ values : List Nat, List.Forall₂ HexDigit ds values ∧ ds.length = 4 ∧ n = values.foldl (16 * · + ·) 0

theorem hexValue?_eq_some_iff {c : Char} {value : Nat} : hexValue? c = some value ↔ HexDigit c value := by
  constructor
  · intro h
    have hall : ∀ k < 128, ∀ v ∈ hexValue? (Char.ofNat k),
        v < 16 ∧ (Char.ofNat k = v.digitChar ∨ Char.ofNat k = v.digitChar.toUpper) := by
      decide
    have hc : c.toNat < 128 := by
      unfold hexValue? at h
      split at h
      · omega
      split at h
      · omega
      split at h
      · omega
      · cases h
    have hdigit := hall c.toNat hc value
    rw [Char.ofNat_toNat] at hdigit
    exact hdigit h
  · rintro ⟨hlt, h⟩
    have hall : ∀ v < 16, hexValue? v.digitChar = some v ∧ hexValue? v.digitChar.toUpper = some v := by decide
    rcases h with rfl | rfl
    · exact (hall value hlt).1
    · exact (hall value hlt).2

theorem unit?_eq_some_iff {p q r s : Char} {n : Nat} : unit? p q r s = some n ↔ Hex4 [p, q, r, s] n := by
  constructor
  · intro h
    obtain ⟨a, ha, h⟩ := Option.bind_eq_some_iff.1 h
    obtain ⟨b, hb, h⟩ := Option.bind_eq_some_iff.1 h
    obtain ⟨c, hc, h⟩ := Option.bind_eq_some_iff.1 h
    obtain ⟨d, hd, h⟩ := Option.bind_eq_some_iff.1 h
    obtain rfl := Option.some.inj h
    rw [hexValue?_eq_some_iff] at ha hb hc hd
    refine ⟨[a, b, c, d], .cons ha (.cons hb (.cons hc (.cons hd .nil))), rfl, ?_⟩
    simp only [List.foldl_cons, List.foldl_nil]
    omega
  · rintro ⟨values, hdigits, -, rfl⟩
    obtain _ | ⟨ha, _ | ⟨hb, _ | ⟨hc, _ | ⟨hd, _ | _⟩⟩⟩⟩ := hdigits
    rw [← hexValue?_eq_some_iff] at ha hb hc hd
    simp only [unit?, ha, hb, hc, hd, Option.bind_eq_bind, Option.bind_some, List.foldl_cons, List.foldl_nil,
      Option.some.injEq]
    omega

theorem exists_four {ds : List Char} (h : ds.length = 4) : ∃ p q r s, ds = [p, q, r, s] := by
  rcases ds with _ | ⟨p, _ | ⟨q, _ | ⟨r, _ | ⟨s, _ | ⟨t, rest⟩⟩⟩⟩⟩ <;> simp at h
  exact ⟨p, q, r, s, rfl⟩

theorem Hex4.exists_unit {ds : List Char} {n : Nat} (h : Hex4 ds n) :
    ∃ p q r s, ds = [p, q, r, s] ∧ unit? p q r s = some n := by
  obtain ⟨values, hdigits, hlength, hvalue⟩ := h
  obtain ⟨p, q, r, s, rfl⟩ := exists_four hlength
  exact ⟨p, q, r, s, rfl, unit?_eq_some_iff.2 ⟨values, hdigits, hlength, hvalue⟩⟩

theorem Hex4.lt {ds : List Char} {n : Nat} (h : Hex4 ds n) : n < 0x10000 := by
  obtain ⟨values, hdigits, hlength, rfl⟩ := h
  obtain ⟨p, q, r, s, rfl⟩ := exists_four hlength
  obtain _ | ⟨ha, _ | ⟨hb, _ | ⟨hc, _ | ⟨hd, _ | _⟩⟩⟩⟩ := hdigits
  have := ha.1
  have := hb.1
  have := hc.1
  have := hd.1
  simp only [List.foldl_cons, List.foldl_nil]
  omega

/-! ### Units -/

/-- The short escapes, and what they denote. -/
def shortEscapes : List (Char × Char) :=
  [('"', '"'), ('\\', '\\'), ('/', '/'), ('b', '\x08'), ('f', '\x0c'), ('n', '\n'), ('r', '\r'), ('t', '\t')]

def IsHigh (n : Nat) : Prop := 0xD800 ≤ n ∧ n ≤ 0xDBFF

def IsLow (n : Nat) : Prop := 0xDC00 ≤ n ∧ n ≤ 0xDFFF

inductive Denotes : List Char → Char → Prop
  | plain {c : Char} (slash : c ≠ '\\') : Denotes [c] c
  | short {e c : Char} (named : (e, c) ∈ shortEscapes) : Denotes ['\\', e] c
  | unit {ds : List Char} {c : Char} (hex : Hex4 ds c.toNat) : Denotes ('\\' :: 'u' :: ds) c
  | pair {ds es : List Char} {high low : Nat} {c : Char} (hexHigh : Hex4 ds high) (isHigh : IsHigh high)
      (hexLow : Hex4 es low) (isLow : IsLow low)
      (value : c.toNat = 0x10000 + (high - 0xD800) * 0x400 + (low - 0xDC00)) :
      Denotes ('\\' :: 'u' :: (ds ++ '\\' :: 'u' :: es)) c

/-- An escape that is no unit stands at the front: a backslash without a character, a character without a
meaning, fewer than four characters, four that are not all digits, the second half of a pair, or the first half
without the second behind it. -/
inductive Flawed : List Char → Prop
  | ended : Flawed ['\\']
  | unknown {e : Char} {rest : List Char} (mark : e ≠ 'u') (unnamed : ∀ c, (e, c) ∉ shortEscapes) :
      Flawed ('\\' :: e :: rest)
  | truncated {rest : List Char} (short : rest.length < 4) : Flawed ('\\' :: 'u' :: rest)
  | notHex {ds rest : List Char} (length : ds.length = 4) (not : ∀ n, ¬Hex4 ds n) :
      Flawed ('\\' :: 'u' :: (ds ++ rest))
  | low {ds rest : List Char} {n : Nat} (hex : Hex4 ds n) (isLow : IsLow n) : Flawed ('\\' :: 'u' :: (ds ++ rest))
  | high {ds rest : List Char} {n : Nat} (hex : Hex4 ds n) (isHigh : IsHigh n)
      (alone : ∀ es more low, rest = '\\' :: 'u' :: (es ++ more) → Hex4 es low → ¬IsLow low) :
      Flawed ('\\' :: 'u' :: (ds ++ rest))

theorem shortEscape?_eq_some_iff {e c : Char} : shortEscape? e = some c ↔ (e, c) ∈ shortEscapes := by
  constructor
  · intro h
    unfold shortEscape? at h
    unfold shortEscapes
    grind
  · intro h
    have hall : ∀ p ∈ shortEscapes, shortEscape? p.1 = some p.2 := by decide
    exact hall (e, c) h

theorem isHighSurrogate_iff {n : Nat} : isHighSurrogate n = true ↔ IsHigh n := by
  simp only [isHighSurrogate, IsHigh, Bool.and_eq_true, decide_eq_true_eq]
  omega

theorem isLowSurrogate_iff {n : Nat} : isLowSurrogate n = true ↔ IsLow n := by
  simp only [isLowSurrogate, IsLow, Bool.and_eq_true, decide_eq_true_eq]
  omega

/-- A pair is joined to the character that it denotes. -/
theorem joinSurrogates_eq_iff {high low : Nat} (isHigh : IsHigh high) (isLow : IsLow low) {c : Char} :
    joinSurrogates high low = c ↔ c.toNat = 0x10000 + (high - 0xD800) * 0x400 + (low - 0xDC00) := by
  have hvalue : (joinSurrogates high low).toNat = 0x10000 + (high - 0xD800) * 0x400 + (low - 0xDC00) := by
    refine Utf8.toNat_char (.inr ?_)
    have := isHigh
    have := isLow
    unfold IsHigh IsLow at *
    omega
  constructor
  · rintro rfl
    exact hvalue
  · intro h
    rw [← Char.ofNat_toNat c, h, ← hvalue, Char.ofNat_toNat]

/-! ### What becomes of units and flaws -/

theorem not_isLow_of_isHigh {n : Nat} (h : IsHigh n) : isLowSurrogate n = false := by
  rw [← Bool.not_eq_true, isLowSurrogate_iff]
  unfold IsHigh at h
  unfold IsLow
  omega

theorem unescapeChars_pair {p q r s p' q' r' s' : Char} {high low : Nat} (hexHigh : unit? p q r s = some high)
    (isHigh : IsHigh high) (hexLow : unit? p' q' r' s' = some low) (isLow : IsLow low) (rest : List Char) :
    unescapeChars ('\\' :: 'u' :: p :: q :: r :: s :: '\\' :: 'u' :: p' :: q' :: r' :: s' :: rest) =
      (unescapeChars rest).map (joinSurrogates high low :: ·) := by
  rw [unescapeChars.eq_def]
  simp only [ne_eq, not_true_eq_false, if_false, hexHigh, not_isLow_of_isHigh isHigh, isHighSurrogate_iff.2 isHigh,
    hexLow, isLowSurrogate_iff.2 isLow, Bool.false_eq_true, Bool.not_true, if_true]

theorem Denotes.unescapeChars {u : List Char} {c : Char} (h : Denotes u c) (rest : List Char) :
    unescapeChars (u ++ rest) = (unescapeChars rest).map (c :: ·) := by
  cases h with
  | plain slash => exact unescapeChars_plain slash rest
  | @short e _ named =>
    have hread := shortEscape?_eq_some_iff.2 named
    have mark : e ≠ 'u' := by
      rintro rfl
      cases hread
    exact unescapeChars_short mark hread rest
  | unit hex =>
    obtain ⟨p, q, r, s, rfl, hunit⟩ := hex.exists_unit
    have hbounds := Utf8.toNat_bounds c
    have hlow : isLowSurrogate c.toNat = false := by
      rw [← Bool.not_eq_true, isLowSurrogate_iff, IsLow]
      omega
    have hhigh : isHighSurrogate c.toNat = false := by
      rw [← Bool.not_eq_true, isHighSurrogate_iff, IsHigh]
      omega
    have hread := unescapeChars_unit hunit hlow hhigh rest
    rwa [Char.ofNat_toNat] at hread
  | pair hexHigh isHigh hexLow isLow value =>
    obtain ⟨p, q, r, s, rfl, hhigh⟩ := hexHigh.exists_unit
    obtain ⟨p', q', r', s', rfl, hlow⟩ := hexLow.exists_unit
    rw [← (joinSurrogates_eq_iff isHigh isLow).2 value]
    exact unescapeChars_pair hhigh isHigh hlow isLow rest

theorem Flawed.exists_error {cs : List Char} (h : Flawed cs) : ∃ e, unescapeChars cs = .error e := by
  cases h with
  | ended => exact ⟨_, rfl⟩
  | @unknown e rest mark unnamed =>
    have hnone : shortEscape? e = none := by
      rw [Option.eq_none_iff_forall_ne_some]
      intro c hc
      exact unnamed c (shortEscape?_eq_some_iff.1 hc)
    refine ⟨.unknown e, ?_⟩
    rw [unescapeChars.eq_def]
    simp only [ne_eq, not_true_eq_false, if_false, mark, not_false_eq_true, if_true, hnone]
  | @truncated rest short =>
    refine ⟨.truncated, ?_⟩
    rcases rest with _ | ⟨p, _ | ⟨q, _ | ⟨r, _ | ⟨s, rest⟩⟩⟩⟩
    · rfl
    · rfl
    · rfl
    · rfl
    · simp only [List.length_cons] at short
      omega
  | notHex length not =>
    obtain ⟨p, q, r, s, rfl⟩ := exists_four length
    have hnone : unit? p q r s = none := by
      rw [Option.eq_none_iff_forall_ne_some]
      intro n hn
      exact not n (unit?_eq_some_iff.1 hn)
    refine ⟨.notHex [p, q, r, s], ?_⟩
    rw [unescapeChars.eq_def]
    simp only [List.cons_append, List.nil_append, ne_eq, not_true_eq_false, if_false, hnone]
  | @low _ _ n hex isLow =>
    obtain ⟨p, q, r, s, rfl, hunit⟩ := hex.exists_unit
    refine ⟨.surrogate n none, ?_⟩
    rw [unescapeChars.eq_def]
    simp only [List.cons_append, List.nil_append, ne_eq, not_true_eq_false, if_false, hunit,
      isLowSurrogate_iff.2 isLow, if_true]
  | high hex isHigh alone =>
    obtain ⟨p, q, r, s, rfl, hunit⟩ := hex.exists_unit
    rw [unescapeChars.eq_def]
    simp only [List.cons_append, List.nil_append, ne_eq, not_true_eq_false, if_false, hunit,
      not_isLow_of_isHigh isHigh, isHighSurrogate_iff.2 isHigh, Bool.not_true, Bool.false_eq_true]
    split
    · next p' q' r' s' more =>
      split
      · exact ⟨_, rfl⟩
      · next low hlow =>
        have hnot := alone [p', q', r', s'] more low rfl (unit?_eq_some_iff.1 hlow)
        rw [← isLowSurrogate_iff] at hnot
        rw [if_neg hnot]
        exact ⟨_, rfl⟩
    · exact ⟨_, rfl⟩
    · exact ⟨_, rfl⟩

/-! ### Texts -/

/-- The text is the units, each of which denotes its character, and then the rest. -/
structure Splits (cs : List Char) (units : List (List Char × Char)) (rest : List Char) : Prop where
  denotes : ∀ u ∈ units, Denotes u.1 u.2
  text : cs = units.flatMap Prod.fst ++ rest

theorem splits_nil (cs : List Char) : Splits cs [] cs := ⟨by simp, rfl⟩

theorem Splits.cons {u cs rest : List Char} {c : Char} {units : List (List Char × Char)} (hu : Denotes u c)
    (h : Splits cs units rest) : Splits (u ++ cs) ((u, c) :: units) rest :=
  ⟨List.forall_mem_cons.2 ⟨hu, h.denotes⟩, by rw [h.text, List.flatMap_cons, List.append_assoc]⟩

theorem Splits.unescapeChars {cs rest : List Char} {units : List (List Char × Char)} (h : Splits cs units rest) :
    unescapeChars cs = (Json.unescapeChars rest).map (units.map Prod.snd ++ ·) := by
  induction units generalizing cs with
  | nil =>
    rw [h.text]
    exact (Results.map_id _).symm
  | cons u units ih =>
    obtain ⟨hu, hunits⟩ := List.forall_mem_cons.1 h.denotes
    rw [h.text, List.flatMap_cons, List.append_assoc, hu.unescapeChars, ih ⟨hunits, rfl⟩, Results.map_map]
    rfl

/-- What stands behind the first half of a pair is not its second half, unless it is read as that. -/
theorem flawed_high {p q r s : Char} {high : Nat} {rest : List Char} (hunit : unit? p q r s = some high)
    (isHigh : isHighSurrogate high = true)
    (alone : ∀ p' q' r' s' more low, rest = '\\' :: 'u' :: p' :: q' :: r' :: s' :: more →
      unit? p' q' r' s' = some low → isLowSurrogate low = false) :
    Flawed ('\\' :: 'u' :: p :: q :: r :: s :: rest) := by
  refine .high (unit?_eq_some_iff.1 hunit) (isHighSurrogate_iff.1 isHigh) fun es more low hrest hex isLow => ?_
  obtain ⟨p', q', r', s', rfl, hlow⟩ := hex.exists_unit
  rw [← isLowSurrogate_iff, alone p' q' r' s' more low hrest hlow] at isLow
  cases isLow

/-- **A text is units, and then nothing or a flaw.** -/
theorem exists_units (cs : List Char) : ∃ units rest, Splits cs units rest ∧ (rest = [] ∨ Flawed rest) := by
  have flaw : ∀ {cs}, Flawed cs → ∃ units rest, Splits cs units rest ∧ (rest = [] ∨ Flawed rest) :=
    fun h => ⟨[], _, splits_nil _, .inr h⟩
  have unit : ∀ {u c cs}, Denotes u c → (∃ units rest, Splits cs units rest ∧ (rest = [] ∨ Flawed rest)) →
      ∃ units rest, Splits (u ++ cs) units rest ∧ (rest = [] ∨ Flawed rest) :=
    fun hu ⟨_, _, hsplits, hrest⟩ => ⟨_, _, hsplits.cons hu, hrest⟩
  fun_induction unescapeChars cs with
  | case1 => exact ⟨[], [], splits_nil [], .inl rfl⟩
  | case2 c rest slash ih => exact unit (.plain slash) ih
  | case3 c slash =>
    obtain rfl := not_not.1 slash
    exact flaw .ended
  | case4 c slash e rest mark s hs ih =>
    obtain rfl := not_not.1 slash
    exact unit (.short (shortEscape?_eq_some_iff.1 hs)) ih
  | case5 c slash e rest mark hnone =>
    obtain rfl := not_not.1 slash
    refine flaw (.unknown mark fun d hd => ?_)
    rw [shortEscape?_eq_some_iff.2 hd] at hnone
    cases hnone
  | case6 c slash e mark p q r s rest hnone =>
    obtain rfl := not_not.1 slash
    obtain rfl := not_not.1 mark
    have hflaw : Flawed ('\\' :: 'u' :: ([p, q, r, s] ++ rest)) := by
      refine .notHex rfl fun n hn => ?_
      rw [unit?_eq_some_iff.2 hn] at hnone
      cases hnone
    exact flaw hflaw
  | case7 c slash e mark p q r s rest n hunit hlow =>
    obtain rfl := not_not.1 slash
    obtain rfl := not_not.1 mark
    have hflaw : Flawed ('\\' :: 'u' :: ([p, q, r, s] ++ rest)) :=
      .low (unit?_eq_some_iff.1 hunit) (isLowSurrogate_iff.1 hlow)
    exact flaw hflaw
  | case8 c slash e mark p q r s rest n hunit hlow hhigh ih =>
    obtain rfl := not_not.1 slash
    obtain rfl := not_not.1 mark
    have hex := unit?_eq_some_iff.1 hunit
    have hn : (Char.ofNat n).toNat = n := by
      have hlt := hex.lt
      rw [isLowSurrogate_iff, IsLow] at hlow
      rw [Bool.not_eq_true', ← Bool.not_eq_true, isHighSurrogate_iff, IsHigh] at hhigh
      refine Utf8.toNat_char ?_
      unfold Nat.isValidChar
      omega
    exact unit (.unit (hn.symm ▸ hex)) ih
  | case9 c slash e mark p q r s high hunit _ hhigh p' q' r' s' rest hnone =>
    obtain rfl := not_not.1 slash
    obtain rfl := not_not.1 mark
    refine flaw (flawed_high hunit (by simpa using hhigh) fun a b c d more low hrest hlow => ?_)
    cases hrest
    rw [hnone] at hlow
    cases hlow
  | case10 c slash e mark p q r s high hhigh _ hisHigh p' q' r' s' rest low hlow hisLow ih =>
    obtain rfl := not_not.1 slash
    obtain rfl := not_not.1 mark
    have isHigh := isHighSurrogate_iff.1 (by simpa using hisHigh)
    have isLow := isLowSurrogate_iff.1 hisLow
    have hvalue := (joinSurrogates_eq_iff isHigh isLow).1 rfl
    exact unit (.pair (unit?_eq_some_iff.1 hhigh) isHigh (unit?_eq_some_iff.1 hlow) isLow hvalue) ih
  | case11 c slash e mark p q r s high hunit _ hhigh p' q' r' s' rest low hlow hisLow =>
    obtain rfl := not_not.1 slash
    obtain rfl := not_not.1 mark
    refine flaw (flawed_high hunit (by simpa using hhigh) fun a b c d more low' hrest hlow' => ?_)
    cases hrest
    rw [hlow] at hlow'
    cases hlow'
    simpa using hisLow
  | case12 c slash e mark p q r s high hunit _ hhigh tail hshort =>
    obtain rfl := not_not.1 slash
    obtain rfl := not_not.1 mark
    refine flaw (flawed_high hunit (by simpa using hhigh) fun a b c d more low hrest _ => ?_)
    cases hrest
    exact (hshort a b c d more rfl).elim
  | case13 c slash e mark p q r s rest high hunit _ hhigh _ hother =>
    obtain rfl := not_not.1 slash
    obtain rfl := not_not.1 mark
    refine flaw (flawed_high hunit (by simpa using hhigh) fun a b c d more low hrest _ => ?_)
    exact (hother _ hrest).elim
  | case14 c slash e rest mark hshort =>
    obtain rfl := not_not.1 slash
    obtain rfl := not_not.1 mark
    refine flaw (.truncated ?_)
    rcases rest with _ | ⟨p, _ | ⟨q, _ | ⟨r, _ | ⟨s, rest⟩⟩⟩⟩
    all_goals simp
    exact (hshort p q r s rest rfl).elim

/-- **What is read is the characters of the units**: a text is read just if it is units from its front to its
end, as the characters that these denote; and it is refused just if behind some units stands an escape that is
no unit. -/
theorem unescape_exact (text : String) :
    (∀ s, unescape text = .ok s ↔ ∃ units, Splits text.toList units [] ∧ s.toList = units.map Prod.snd) ∧
    ((∃ e, unescape text = .error e) ↔ ∃ units rest, Splits text.toList units rest ∧ Flawed rest) := by
  have read : ∀ {units}, Splits text.toList units [] →
      unescape text = .ok (String.ofList (units.map Prod.snd)) := by
    intro units h
    rw [unescape, h.unescapeChars, Json.unescapeChars]
    simp
  have refused : ∀ {units rest}, Splits text.toList units rest → Flawed rest → ∃ e, unescape text = .error e := by
    intro units rest h hrest
    obtain ⟨e, he⟩ := hrest.exists_error
    exact ⟨e, by rw [unescape, h.unescapeChars, he]; rfl⟩
  obtain ⟨units, rest, hsplits, hrest⟩ := exists_units text.toList
  refine ⟨fun s => ⟨fun h => ?_, ?_⟩, ?_, ?_⟩
  · rcases hrest with rfl | hflaw
    · rw [read hsplits] at h
      cases h
      exact ⟨units, hsplits, String.toList_ofList⟩
    · obtain ⟨e, he⟩ := refused hsplits hflaw
      rw [he] at h
      cases h
  · rintro ⟨units, hunits, hs⟩
    rw [read hunits, ← hs, String.ofList_toList]
  · rintro ⟨e, h⟩
    rcases hrest with rfl | hflaw
    · rw [read hsplits] at h
      cases h
    · exact ⟨units, rest, hsplits, hflaw⟩
  · rintro ⟨_, _, hunits, hflaw⟩
    exact refused hunits hflaw

end WireShapes.Json
