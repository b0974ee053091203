import Mathlib.Algebra.Ring.Nat
import WireShapes.Proofs.Text.Utf8
import WireShapes.Text.Base64

/-!
Base64, written and read.

* `value?_symbol`, `symbol_of_value?`: a symbol and its six bits determine each other
* `decodeGroups_encodeBytes`, `decode_encode`: what is written for bytes is read as these bytes
* `eq_encodeBytes_of_decodeGroups`, `decode_eq_ok_iff`: and nothing else is read as them
* `forall_mem_encode`: what holds of the symbols and the pad holds of all that is written
* `Form bytes text`: the bits of the bytes, cut into sixes, each of them a letter
* `form_encode`: what is written has that form
-/

namespace WireShapes.Base64

/-! ### Symbols -/

theorem value?_symbol {n : UInt8} (h : n < 64) : value? (symbol n) = some n := by
  have hall : ∀ k < 64, value? (symbol (UInt8.ofNat k)) = some (UInt8.ofNat k) := by decide
  have hn := hall n.toNat (UInt8.lt_iff_toNat_lt.1 h)
  rwa [UInt8.ofNat_toNat] at hn

theorem symbol_of_value? {b v : UInt8} (h : value? b = some v) : v < 64 ∧ symbol v = b := by
  have hall : ∀ k < 256,
      (value? (UInt8.ofNat k)).all (fun w => decide (w < 64) && symbol w == UInt8.ofNat k) = true := by
    decide +kernel
  have hb := hall b.toNat b.toNat_lt
  rw [UInt8.ofNat_toNat, h] at hb
  simpa using hb

theorem symbol_ne_pad {n : UInt8} (h : n < 64) : symbol n ≠ pad := by
  intro heq
  have hpad : value? pad = none := by decide
  rw [← heq, value?_symbol h] at hpad
  cases hpad

theorem bind_valueAt_symbol {n : UInt8} (h : n < 64) (index : Nat) (k : UInt8 → Except Malformed (List UInt8)) :
    (valueAt index (symbol n) >>= k) = k n := by
  rw [valueAt, value?_symbol h]
  rfl

theorem bind_valueAt_eq_ok {index : Nat} {b : UInt8} {k : UInt8 → Except Malformed (List UInt8)} {out : List UInt8}
    (h : (valueAt index b >>= k) = .ok out) : ∃ v < 64, b = symbol v ∧ k v = .ok out := by
  obtain ⟨v, hv, h⟩ := Results.bind_eq_ok_iff.1 h
  unfold valueAt at hv
  split at hv
  · next w hw =>
    obtain rfl := Except.ok.inj hv
    obtain ⟨hlt, hsymbol⟩ := symbol_of_value? hw
    exact ⟨w, hlt, hsymbol.symm, h⟩
  · cases hv

/-! ### Groups -/

section Sextets

variable (a b c : UInt8)

theorem first_lt : a / 4 < 64 := by
  rw [UInt8.lt_iff_toNat_lt, UInt8.toNat_div]
  have := a.toNat_lt
  simp only [UInt8.reduceToNat]
  omega

theorem second_lt : a % 4 * 16 + b / 16 < 64 := by
  rw [UInt8.lt_iff_toNat_lt]
  have := b.toNat_lt
  simp only [UInt8.toNat_add, UInt8.toNat_mul, UInt8.toNat_mod, UInt8.toNat_div, UInt8.reduceToNat]
  omega

theorem third_lt : b % 16 * 4 + c / 64 < 64 := by
  rw [UInt8.lt_iff_toNat_lt]
  have := c.toNat_lt
  simp only [UInt8.toNat_add, UInt8.toNat_mul, UInt8.toNat_mod, UInt8.toNat_div, UInt8.reduceToNat]
  omega

theorem fourth_lt : c % 64 < 64 := by
  rw [UInt8.lt_iff_toNat_lt, UInt8.toNat_mod]
  simp only [UInt8.reduceToNat]
  omega

/-- Four sixes are put together to the bytes that they were cut from. -/
theorem joinFour_sextets :
    joinFour (a / 4) (a % 4 * 16 + b / 16) (b % 16 * 4 + c / 64) (c % 64) = [a, b, c] := by
  have := a.toNat_lt
  have := b.toNat_lt
  have := c.toNat_lt
  simp only [joinFour, List.cons.injEq, and_true, ← UInt8.toNat_inj, UInt8.toNat_add, UInt8.toNat_mul,
    UInt8.toNat_mod, UInt8.toNat_div, UInt8.reduceToNat]
  omega

end Sextets

section Bytes

variable {p q r s : UInt8}

theorem sextets_joinFour (hp : p < 64) (hq : q < 64) (hr : r < 64) (hs : s < 64) {a b c : UInt8}
    (h : joinFour p q r s = [a, b, c]) :
    a / 4 = p ∧ a % 4 * 16 + b / 16 = q ∧ b % 16 * 4 + c / 64 = r ∧ c % 64 = s := by
  rw [UInt8.lt_iff_toNat_lt] at hp hq hr hs
  simp only [joinFour, List.cons.injEq, and_true] at h
  obtain ⟨rfl, rfl, rfl⟩ := h
  simp only [← UInt8.toNat_inj, UInt8.toNat_add, UInt8.toNat_mul, UInt8.toNat_mod, UInt8.toNat_div,
    UInt8.reduceToNat] at hp hq hr hs ⊢
  omega

end Bytes

/-! ### What is written is read -/

theorem encodeBytes_eq_nil {bytes : List UInt8} (h : encodeBytes bytes = []) : bytes = [] := by
  unfold encodeBytes at h
  split at h
  · rfl
  all_goals cases h

/-- A group of one byte is a full one with two zeros. -/
theorem lastOne_symbols (a : UInt8) (index : Nat) :
    lastOne index (symbol (a / 4)) (symbol (a % 4 * 16)) = .ok [a] := by
  have hsecond : a % 4 * 16 < 64 := by simpa using second_lt a 0
  have hjoin : joinFour (a / 4) (a % 4 * 16) 0 0 = [a, 0, 0] := by simpa using joinFour_sextets a 0 0
  simp only [joinFour, List.cons.injEq] at hjoin
  obtain ⟨ha, hzero, -⟩ := hjoin
  have hspare : a % 4 * 16 % 16 = 0 := by
    simp only [← UInt8.toNat_inj, UInt8.toNat_mul, UInt8.toNat_mod, UInt8.reduceToNat]
    omega
  rw [lastOne, bind_valueAt_symbol (first_lt a), bind_valueAt_symbol hsecond, if_pos hspare, ha]

/-- A group of two bytes is a full one with a zero. -/
theorem lastTwo_symbols (a b : UInt8) (index : Nat) :
    lastTwo index (symbol (a / 4)) (symbol (a % 4 * 16 + b / 16)) (symbol (b % 16 * 4)) = .ok [a, b] := by
  have hthird : b % 16 * 4 < 64 := by simpa using third_lt b 0
  have hjoin : joinFour (a / 4) (a % 4 * 16 + b / 16) (b % 16 * 4) 0 = [a, b, 0] := by
    simpa using joinFour_sextets a b 0
  simp only [joinFour, List.cons.injEq] at hjoin
  obtain ⟨ha, hb, -⟩ := hjoin
  have hspare : b % 16 * 4 % 4 = 0 := by
    simp only [← UInt8.toNat_inj, UInt8.toNat_mul, UInt8.toNat_mod, UInt8.reduceToNat]
    omega
  rw [lastTwo, bind_valueAt_symbol (first_lt a), bind_valueAt_symbol (second_lt a b), bind_valueAt_symbol hthird,
    if_pos hspare, ha, hb]

/-- **What is written for bytes is read as these bytes.** -/
theorem decodeGroups_encodeBytes (bytes : List UInt8) (index : Nat) :
    decodeGroups index (encodeBytes bytes) = .ok bytes := by
  fun_induction encodeBytes bytes generalizing index with
  | case1 => rfl
  | case2 a =>
    show decodeLast index [_, _, pad, pad] = _
    rw [decodeLast, if_pos rfl, if_pos rfl]
    exact lastOne_symbols a index
  | case3 a b =>
    have hne : symbol (b % 16 * 4) ≠ pad := symbol_ne_pad (by simpa using third_lt b 0)
    show decodeLast index [_, _, _, pad] = _
    rw [decodeLast, if_neg hne, if_pos rfl]
    exact lastTwo_symbols a b index
  | case4 a b c rest ih =>
    have hfirst := first_lt a
    have hsecond := second_lt a b
    have hthird := third_lt b c
    have hfourth := fourth_lt c
    cases hrest : encodeBytes rest with
    | nil =>
      obtain rfl := encodeBytes_eq_nil hrest
      show decodeLast index [_, _, _, _] = _
      rw [decodeLast, if_neg (symbol_ne_pad hthird), if_neg (symbol_ne_pad hfourth), bind_valueAt_symbol hfirst,
        bind_valueAt_symbol hsecond, bind_valueAt_symbol hthird, bind_valueAt_symbol hfourth, joinFour_sextets]
    | cons e more =>
      rw [decodeGroups, bind_valueAt_symbol hfirst, bind_valueAt_symbol hsecond, bind_valueAt_symbol hthird,
        bind_valueAt_symbol hfourth, ← hrest, ih, Results.ok_bind, joinFour_sextets]
      rfl

theorem length_encodeBytes (bytes : List UInt8) : (encodeBytes bytes).length % 4 = 0 := by
  fun_induction encodeBytes bytes with
  | case1 => simp
  | case2 => simp
  | case3 => simp
  | case4 a b c rest ih =>
    simp only [List.length_cons]
    omega

theorem decodeBytes_encodeBytes (bytes : List UInt8) : decodeBytes (encodeBytes bytes) = .ok bytes := by
  have hstray : strayLast (encodeBytes bytes) = .ok () := by
    unfold strayLast
    split
    · rw [length_encodeBytes]
      rfl
    · rfl
  rw [decodeBytes, hstray, Results.ok_bind, decodeGroups_encodeBytes]

/-! ### Nothing else is read -/

theorem encodeBytes_of_lastOne {index : Nat} {a b : UInt8} {out : List UInt8} (h : lastOne index a b = .ok out) :
    encodeBytes out = [a, b, pad, pad] := by
  obtain ⟨p, hp, ha, h⟩ := bind_valueAt_eq_ok h
  obtain ⟨q, hq, hb, h⟩ := bind_valueAt_eq_ok h
  split at h
  · next hspare =>
    cases h
    have hjoin : joinFour p q 0 0 = [p * 4 + q / 16, 0, 0] := by simp [joinFour, hspare]
    obtain ⟨hfirst, hsecond, -⟩ := sextets_joinFour hp hq (by decide) (by decide) hjoin
    have hsecond : (p * 4 + q / 16) % 4 * 16 = q := by simpa using hsecond
    rw [encodeBytes, hfirst, hsecond, ha, hb]
  · cases h

theorem encodeBytes_of_lastTwo {index : Nat} {a b c : UInt8} {out : List UInt8}
    (h : lastTwo index a b c = .ok out) : encodeBytes out = [a, b, c, pad] := by
  obtain ⟨p, hp, ha, h⟩ := bind_valueAt_eq_ok h
  obtain ⟨q, hq, hb, h⟩ := bind_valueAt_eq_ok h
  obtain ⟨r, hr, hc, h⟩ := bind_valueAt_eq_ok h
  split at h
  · next hspare =>
    cases h
    have hjoin : joinFour p q r 0 = [p * 4 + q / 16, q % 16 * 16 + r / 4, 0] := by simp [joinFour, hspare]
    obtain ⟨hfirst, hsecond, hthird, -⟩ := sextets_joinFour hp hq hr (by decide) hjoin
    have hthird : (q % 16 * 16 + r / 4) % 16 * 4 = r := by simpa using hthird
    rw [encodeBytes, hfirst, hsecond, hthird, ha, hb, hc]
  · cases h

theorem encodeBytes_joinFour {p q r s : UInt8} (hp : p < 64) (hq : q < 64) (hr : r < 64) (hs : s < 64)
    (more : List UInt8) :
    encodeBytes (joinFour p q r s ++ more) = symbol p :: symbol q :: symbol r :: symbol s :: encodeBytes more := by
  obtain ⟨hfirst, hsecond, hthird, hfourth⟩ := sextets_joinFour hp hq hr hs rfl
  rw [joinFour, List.cons_append, List.cons_append, List.cons_append, List.nil_append, encodeBytes, hfirst,
    hsecond, hthird, hfourth]

/-- The last group has four symbols at most, and is read only if it has none or four. -/
theorem eq_encodeBytes_of_decodeLast {index : Nat} {group out : List UInt8}
    (h : decodeLast index group = .ok out) (hlength : group.length ≤ 4) : group = encodeBytes out := by
  unfold decodeLast at h
  split at h
  · cases h
    rfl
  · obtain ⟨_, -, -, h⟩ := bind_valueAt_eq_ok h
    cases h
  · obtain ⟨_, -, -, h⟩ := bind_valueAt_eq_ok h
    obtain ⟨_, -, -, h⟩ := bind_valueAt_eq_ok h
    cases h
  · obtain ⟨_, -, -, h⟩ := bind_valueAt_eq_ok h
    obtain ⟨_, -, -, h⟩ := bind_valueAt_eq_ok h
    split at h
    · cases h
    · obtain ⟨_, -, -, h⟩ := bind_valueAt_eq_ok h
      cases h
  · next a b c d rest =>
    simp only [List.length_cons] at hlength
    obtain rfl : rest = [] := List.length_eq_zero_iff.1 (by omega)
    split at h
    · next hthird =>
      split at h
      · next hfourth => rw [encodeBytes_of_lastOne h, hthird, hfourth]
      · obtain ⟨_, -, -, h⟩ := bind_valueAt_eq_ok h
        obtain ⟨_, -, -, h⟩ := bind_valueAt_eq_ok h
        cases h
    split at h
    · next hfourth => rw [encodeBytes_of_lastTwo h, hfourth]
    · obtain ⟨p, hp, ha, h⟩ := bind_valueAt_eq_ok h
      obtain ⟨q, hq, hb, h⟩ := bind_valueAt_eq_ok h
      obtain ⟨r, hr, hc, h⟩ := bind_valueAt_eq_ok h
      obtain ⟨s, hs, hd, h⟩ := bind_valueAt_eq_ok h
      cases h
      rw [← List.append_nil (joinFour p q r s), encodeBytes_joinFour hp hq hr hs, ha, hb, hc, hd]
      rfl

/-- **Symbols are those that are written for the bytes that they are read as.** -/
theorem eq_encodeBytes_of_decodeGroups {index : Nat} {bytes out : List UInt8}
    (h : decodeGroups index bytes = .ok out) : bytes = encodeBytes out := by
  fun_induction decodeGroups index bytes generalizing out with
  | case1 index a b c d e rest ih =>
    obtain ⟨p, hp, ha, h⟩ := bind_valueAt_eq_ok h
    obtain ⟨q, hq, hb, h⟩ := bind_valueAt_eq_ok h
    obtain ⟨r, hr, hc, h⟩ := bind_valueAt_eq_ok h
    obtain ⟨s, hs, hd, h⟩ := bind_valueAt_eq_ok h
    obtain ⟨more, hmore, h⟩ := Results.bind_eq_ok_iff.1 h
    cases h
    rw [encodeBytes_joinFour hp hq hr hs, ← ih hmore, ha, hb, hc, hd]
  | case2 index group hgroup =>
    refine eq_encodeBytes_of_decodeLast h ?_
    rcases group with _ | ⟨a, _ | ⟨b, _ | ⟨c, _ | ⟨d, _ | ⟨e, rest⟩⟩⟩⟩⟩
    all_goals simp
    exact (hgroup a b c d e rest rfl).elim

/-! ### Texts -/

/-- Only symbols and pads are written. -/
theorem symbol_or_pad {bytes : List UInt8} {b : UInt8} (h : b ∈ encodeBytes bytes) :
    b = pad ∨ ∃ n < 64, b = symbol n := by
  fun_induction encodeBytes bytes with
  | case1 => cases h
  | case2 a =>
    simp only [List.mem_cons, List.not_mem_nil, or_false, or_self] at h
    rcases h with rfl | rfl | rfl
    · exact .inr ⟨_, first_lt a, rfl⟩
    · exact .inr ⟨_, by simpa using second_lt a 0, rfl⟩
    · exact .inl rfl
  | case3 a b =>
    simp only [List.mem_cons, List.not_mem_nil, or_false] at h
    rcases h with rfl | rfl | rfl | rfl
    · exact .inr ⟨_, first_lt a, rfl⟩
    · exact .inr ⟨_, second_lt a b, rfl⟩
    · exact .inr ⟨_, by simpa using third_lt b 0, rfl⟩
    · exact .inl rfl
  | case4 a b c rest ih =>
    simp only [List.mem_cons] at h
    rcases h with rfl | rfl | rfl | rfl | h
    · exact .inr ⟨_, first_lt a, rfl⟩
    · exact .inr ⟨_, second_lt a b, rfl⟩
    · exact .inr ⟨_, third_lt b c, rfl⟩
    · exact .inr ⟨_, fourth_lt c, rfl⟩
    · exact ih h

/-- What is checked of every symbol and of the pad holds of all that is written. -/
theorem forall_mem_encodeBytes {P : UInt8 → Prop} (hpad : P pad) (hsymbol : ∀ k < 64, P (symbol (UInt8.ofNat k)))
    (bytes : List UInt8) : ∀ b ∈ encodeBytes bytes, P b := by
  intro b hb
  rcases symbol_or_pad hb with rfl | ⟨n, hn, rfl⟩
  · exact hpad
  · have h := hsymbol n.toNat (UInt8.lt_iff_toNat_lt.1 hn)
    rwa [UInt8.ofNat_toNat] at h

theorem forall_mem_encode {P : Char → Prop} (hpad : P '=')
    (hsymbol : ∀ k < 64, P (Char.ofNat (symbol (UInt8.ofNat k)).toNat)) (bytes : List UInt8) :
    ∀ c ∈ (encode bytes).toList, P c := by
  intro c hc
  rw [encode, String.toList_ofList] at hc
  obtain ⟨b, hb, rfl⟩ := List.mem_map.1 hc
  exact forall_mem_encodeBytes (P := fun b => P (Char.ofNat b.toNat)) hpad hsymbol bytes b hb

/-- The text has one character for each symbol. -/
theorem utf8_encode (bytes : List UInt8) : Utf8.encode (encode bytes) = encodeBytes bytes := by
  rw [encode, Utf8.encode_ofList]
  exact Utf8.encodeChars_map_ascii (forall_mem_encodeBytes (by decide) (by decide) bytes)

theorem decode_encode (bytes : List UInt8) : decode (encode bytes) = .ok bytes := by
  rw [decode, utf8_encode, decodeBytes_encodeBytes]

/-- **A text is read as bytes just if it is what is written for them.** -/
theorem decode_eq_ok_iff {s : String} {bytes : List UInt8} : decode s = .ok bytes ↔ s = encode bytes := by
  constructor
  · intro h
    obtain ⟨_, -, hgroups⟩ := Results.bind_eq_ok_iff.1 h
    have hbytes : Utf8.encode s = Utf8.encode (encode bytes) := by
      rw [utf8_encode, eq_encodeBytes_of_decodeGroups hgroups]
    have hsame := Utf8.decode_encode s
    rw [hbytes, Utf8.decode_encode] at hsame
    exact (Except.ok.inj hsame).symm
  · rintro rfl
    exact decode_encode bytes

theorem not_mem_of_decode {s : String} {bytes : List UInt8} (h : decode s = .ok bytes) : '\\' ∉ s.toList := by
  intro hmem
  obtain rfl := decode_eq_ok_iff.1 h
  exact forall_mem_encode (P := (· ≠ '\\')) (by decide) (by decide) bytes _ hmem rfl

/-! ### The form by its bits -/

/-- The letters of the standard alphabet, by their six bits. -/
def alphabet : List Char := "ABCDEFGHIJKLMNOPQRSTUVWXYZabcdefghijklmnopqrstuvwxyz0123456789+/".toList

/-- The bits of a number, the highest of `width` first. -/
def bits : Nat → Nat → List Nat
  | 0, _ => []
  | width + 1, n => n / 2 ^ width % 2 :: bits width n

/-- The bits of the bytes in sixes, with as few zeros behind them as fill the last six, and pads that fill
the last four sixes. -/
structure Cut (bytes sixes : List UInt8) (zeros pads : Nat) : Prop where
  small : ∀ v ∈ sixes, v < 64
  sameBits : (sixes.flatMap fun v => bits 6 v.toNat) =
    (bytes.flatMap fun b => bits 8 b.toNat) ++ List.replicate zeros 0
  zeros_lt : zeros < 6
  pads_lt : pads < 4
  fours : (sixes.length + pads) % 4 = 0

/-- The text is a letter for each six, and the pads. -/
def Form (bytes : List UInt8) (text : String) : Prop :=
  ∃ (sixes : List UInt8) (zeros pads : Nat), Cut bytes sixes zeros pads ∧
    text.toList = (sixes.map fun v => alphabet.getD v.toNat '=') ++ List.replicate pads '='

theorem char_symbol {v : UInt8} (h : v < 64) : Char.ofNat (symbol v).toNat = alphabet.getD v.toNat '=' := by
  have hall : ∀ k < 64, Char.ofNat (symbol (UInt8.ofNat k)).toNat = alphabet.getD k '=' := by decide +kernel
  have hv := hall v.toNat (UInt8.lt_iff_toNat_lt.1 h)
  rwa [UInt8.ofNat_toNat] at hv

theorem bits_add (high low n : Nat) : bits (high + low) n = bits high (n / 2 ^ low) ++ bits low n := by
  induction high with
  | zero => rw [Nat.zero_add, bits, List.nil_append]
  | succ high ih =>
    rw [Nat.add_right_comm, bits, bits, ih, Nat.div_div_eq_div_mul, ← Nat.pow_add, Nat.add_comm low high]
    rfl

theorem bits_mod {width low : Nat} (h : width ≤ low) (n : Nat) : bits width (n % 2 ^ low) = bits width n := by
  induction width with
  | zero => rfl
  | succ width ih =>
    have hbit : ∀ m, m / 2 ^ width % 2 = m % 2 ^ (width + 1) / 2 ^ width := fun m => by
      rw [Nat.pow_succ, Nat.mod_mul_right_div_self]
    rw [bits, bits, ih (by omega), hbit, hbit n, Nat.mod_mod_of_dvd n (Nat.pow_dvd_pow 2 h)]

theorem bits_join {high low x y : Nat} (h : y < 2 ^ low) :
    bits (high + low) (x * 2 ^ low + y) = bits high x ++ bits low y := by
  have hdiv : (x * 2 ^ low + y) / 2 ^ low = x := by
    rw [Nat.add_comm, Nat.add_mul_div_right _ _ (Nat.two_pow_pos low), Nat.div_eq_of_lt h, Nat.zero_add]
  have hmod : (x * 2 ^ low + y) % 2 ^ low = y := by
    rw [Nat.add_comm, Nat.add_mul_mod_self_right, Nat.mod_eq_of_lt h]
  rw [bits_add, hdiv, ← bits_mod (Nat.le_refl low), hmod]

section Sixes

variable (a b c : UInt8)

theorem bits_first : bits 6 (a / 4).toNat ++ bits 2 a.toNat = bits 8 a.toNat := by
  rw [UInt8.toNat_div]
  exact (bits_add 6 2 a.toNat).symm

theorem bits_second : bits 6 (a % 4 * 16 + b / 16).toNat = bits 2 a.toNat ++ bits 4 (b.toNat / 16) := by
  have hb := b.toNat_lt
  have hvalue : (a % 4 * 16 + b / 16).toNat = a.toNat % 2 ^ 2 * 2 ^ 4 + b.toNat / 16 := by
    simp only [UInt8.toNat_add, UInt8.toNat_mul, UInt8.toNat_mod, UInt8.toNat_div, UInt8.reduceToNat]
    omega
  have hlow : b.toNat / 16 < 2 ^ 4 := by omega
  rw [hvalue, ← bits_mod (Nat.le_refl 2) a.toNat]
  exact bits_join hlow

theorem bits_third : bits 6 (b % 16 * 4 + c / 64).toNat = bits 4 b.toNat ++ bits 2 (c.toNat / 64) := by
  have hc := c.toNat_lt
  have hvalue : (b % 16 * 4 + c / 64).toNat = b.toNat % 2 ^ 4 * 2 ^ 2 + c.toNat / 64 := by
    simp only [UInt8.toNat_add, UInt8.toNat_mul, UInt8.toNat_mod, UInt8.toNat_div, UInt8.reduceToNat]
    omega
  have hlow : c.toNat / 64 < 2 ^ 2 := by omega
  rw [hvalue, ← bits_mod (Nat.le_refl 4) b.toNat]
  exact bits_join hlow

theorem bits_fourth : bits 6 (c % 64).toNat = bits 6 c.toNat := by
  rw [UInt8.toNat_mod]
  exact bits_mod (Nat.le_refl 6) c.toNat

end Sixes

/-- Four sixes have the bits of three bytes. -/
theorem bits_sextets (a b c : UInt8) :
    bits 6 (a / 4).toNat ++ (bits 6 (a % 4 * 16 + b / 16).toNat ++ (bits 6 (b % 16 * 4 + c / 64).toNat
      ++ bits 6 (c % 64).toNat)) = bits 8 a.toNat ++ (bits 8 b.toNat ++ bits 8 c.toNat) := by
  have hb : bits 8 b.toNat = bits 4 (b.toNat / 16) ++ bits 4 b.toNat := bits_add 4 4 b.toNat
  have hc : bits 8 c.toNat = bits 2 (c.toNat / 64) ++ bits 6 c.toNat := bits_add 2 6 c.toNat
  rw [bits_second, bits_third, bits_fourth, ← bits_first a, hb, hc]
  simp only [List.append_assoc]

theorem exists_cut (bytes : List UInt8) : ∃ (sixes : List UInt8) (zeros pads : Nat),
    Cut bytes sixes zeros pads ∧ encodeBytes bytes = sixes.map symbol ++ List.replicate pads pad := by
  fun_induction encodeBytes bytes with
  | case1 => exact ⟨[], 0, 0, ⟨by simp, rfl, by decide, by decide, rfl⟩, rfl⟩
  | case2 a =>
    have hsecond : a % 4 * 16 < 64 := by simpa using second_lt a 0
    have hbits : bits 6 (a % 4 * 16).toNat = bits 2 a.toNat ++ bits 4 0 := by simpa using bits_second a 0
    refine ⟨[a / 4, a % 4 * 16], 4, 2, ⟨by simp [first_lt, hsecond], ?_, by decide, by decide, by simp⟩, rfl⟩
    simp only [List.flatMap_cons, List.flatMap_nil, List.append_nil]
    rw [hbits, ← List.append_assoc, bits_first]
    rfl
  | case3 a b =>
    have hthird : b % 16 * 4 < 64 := by simpa using third_lt b 0
    have hbits : bits 6 (b % 16 * 4).toNat = bits 4 b.toNat ++ bits 2 0 := by simpa using bits_third b 0
    have hb : bits 8 b.toNat = bits 4 (b.toNat / 16) ++ bits 4 b.toNat := bits_add 4 4 b.toNat
    refine ⟨[a / 4, a % 4 * 16 + b / 16, b % 16 * 4], 2, 1,
      ⟨by simp [first_lt, second_lt, hthird], ?_, by decide, by decide, by simp⟩, rfl⟩
    simp only [List.flatMap_cons, List.flatMap_nil, List.append_nil]
    rw [hbits, bits_second, ← bits_first a, hb]
    simp only [List.append_assoc]
    rfl
  | case4 a b c rest ih =>
    obtain ⟨sixes, zeros, pads, hcut, hsymbols⟩ := ih
    refine ⟨a / 4 :: (a % 4 * 16 + b / 16) :: (b % 16 * 4 + c / 64) :: (c % 64) :: sixes, zeros, pads,
      ⟨?_, ?_, hcut.zeros_lt, hcut.pads_lt, ?_⟩, ?_⟩
    · simp only [List.forall_mem_cons]
      exact ⟨first_lt a, second_lt a b, third_lt b c, fourth_lt c, hcut.small⟩
    · have hgroup := congrArg
        (· ++ ((rest.flatMap fun b => bits 8 b.toNat) ++ List.replicate zeros 0)) (bits_sextets a b c)
      simp only [List.flatMap_cons, hcut.sameBits]
      simpa only [List.append_assoc] using hgroup
    · have hfours := hcut.fours
      simp only [List.length_cons]
      omega
    · rw [hsymbols]
      rfl

/-- **What is written has the form.** -/
theorem form_encode (bytes : List UInt8) : Form bytes (encode bytes) := by
  obtain ⟨sixes, zeros, pads, hcut, hsymbols⟩ := exists_cut bytes
  have hpad : Char.ofNat pad.toNat = '=' := by decide
  refine ⟨sixes, zeros, pads, hcut, ?_⟩
  rw [encode, String.toList_ofList, hsymbols, List.map_append, List.map_map, List.map_replicate, hpad]
  exact congrArg (· ++ _) (List.map_congr_left fun v hv => char_symbol (hcut.small v hv))

end WireShapes.Base64
