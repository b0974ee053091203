import WireShapes.Proofs.Results
import WireShapes.Text.Utf8

/-!
UTF-8, written and read.

* `encodeChar_ascii`, `le_of_mem_encodeChar`: a character below `0x80` is one byte, and no byte of any
  other character looks like one of these
* `decode_encode`: the bytes of a text are read as that text
* `encode_append`: texts one after the other have their bytes one after the other
* `decode_eq_ok_iff`: and a text is read from no other bytes than its own
-/

namespace WireShapes.Utf8

theorem toNat_bounds (c : Char) : c.toNat < 0xD800 ∨ 0xDFFF < c.toNat ∧ c.toNat < 0x110000 :=
  c.valid

/-! ### The bytes of one character -/

theorem encodeChar_ascii {c : Char} (h : c.toNat < 0x80) :
    String.utf8EncodeChar c = [UInt8.ofNat c.toNat] := by
  have hc : c.val.toNat ≤ 0x7F := Nat.le_of_lt_succ h
  unfold String.utf8EncodeChar
  rw [if_pos hc]
  rfl

/-- The bytes of a character beyond ASCII, by how many there are. -/
theorem encodeChar_wide {c : Char} (h : 0x80 ≤ c.toNat) :
    (c.toNat < 0x800 ∧ String.utf8EncodeChar c =
      [UInt8.ofNat (c.toNat / 64 + 0xC0), UInt8.ofNat (c.toNat % 64 + 0x80)]) ∨
    (0x800 ≤ c.toNat ∧ c.toNat < 0x10000 ∧ String.utf8EncodeChar c =
      [UInt8.ofNat (c.toNat / 4096 + 0xE0), UInt8.ofNat (c.toNat / 64 % 64 + 0x80),
        UInt8.ofNat (c.toNat % 64 + 0x80)]) ∨
    (0x10000 ≤ c.toNat ∧ String.utf8EncodeChar c =
      [UInt8.ofNat (c.toNat / 262144 + 0xF0), UInt8.ofNat (c.toNat / 4096 % 64 + 0x80),
        UInt8.ofNat (c.toNat / 64 % 64 + 0x80), UInt8.ofNat (c.toNat % 64 + 0x80)]) := by
  have hmax := toNat_bounds c
  unfold String.utf8EncodeChar
  change 0x80 ≤ c.val.toNat at h
  rw [show c.toNat = c.val.toNat from rfl] at hmax ⊢
  generalize c.val.toNat = v at h hmax
  dsimp only
  rw [if_neg (by omega)]
  split
  · have h2 : v / 64 % 32 = v / 64 := by omega
    rw [h2]
    exact .inl ⟨by omega, rfl⟩
  · split
    · have h3 : v / 4096 % 16 = v / 4096 := by omega
      rw [h3]
      exact .inr (.inl ⟨by omega, by omega, rfl⟩)
    · have h4 : v / 262144 % 8 = v / 262144 := by omega
      rw [h4]
      exact .inr (.inr ⟨by omega, rfl⟩)

theorem le_of_mem_encodeChar {c : Char} (h : 0x80 ≤ c.toNat) {b : UInt8}
    (hb : b ∈ String.utf8EncodeChar c) : 0x80 ≤ b.toNat := by
  have hmax := toNat_bounds c
  rcases encodeChar_wide h with ⟨_, he⟩ | ⟨_, _, he⟩ | ⟨_, he⟩ <;> rw [he] at hb
  · simp only [List.mem_cons, List.not_mem_nil, or_false] at hb
    rcases hb with rfl | rfl <;> rw [UInt8.toNat_ofNat'] <;> omega
  · simp only [List.mem_cons, List.not_mem_nil, or_false] at hb
    rcases hb with rfl | rfl | rfl <;> rw [UInt8.toNat_ofNat'] <;> omega
  · simp only [List.mem_cons, List.not_mem_nil, or_false] at hb
    rcases hb with rfl | rfl | rfl | rfl <;> rw [UInt8.toNat_ofNat'] <;> omega

/-! ### Reading them back -/

theorem toNat_ofNat {k : Nat} (h : k < 256) : (UInt8.ofNat k).toNat = k := by
  rw [UInt8.toNat_ofNat']
  exact Nat.mod_eq_of_lt h

theorem isContinuation_of_toNat {x : UInt8} {a : Nat} (hx : x.toNat = a + 0x80) (ha : a < 64) :
    isContinuation x = true := by
  simp only [isContinuation, Bool.and_eq_true, decide_eq_true_eq, UInt8.le_iff_toNat_le, hx,
    UInt8.reduceToNat]
  omega

-- made here once: the proofs below all rewrite with these equations
attribute [grind =] decodeFrom

theorem decodeFrom_one {x : UInt8} {k : Nat} (hx : x.toNat = k) (h : k < 0x80) (i : Nat)
    (rest : List UInt8) :
    decodeFrom i (x :: rest) = (decodeFrom (i + 1) rest).map (Char.ofNat k :: ·) := by
  have hlt : x < 0x80 := UInt8.lt_iff_toNat_lt.2 (hx ▸ h)
  rw [decodeFrom.eq_def]
  simp only [hlt, if_true, hx]

theorem decodeFrom_two {x y : UInt8} {a b : Nat} (hx : x.toNat = a + 0xC0) (hy : y.toNat = b + 0x80)
    (ha : 2 ≤ a) (ha' : a < 32) (hb : b < 64) (i : Nat) (rest : List UInt8) :
    decodeFrom i (x :: y :: rest) = (decodeFrom (i + 2) rest).map (Char.ofNat (a * 64 + b) :: ·) := by
  have h1 : ¬x < 0x80 := by simp only [UInt8.lt_iff_toNat_lt, hx, UInt8.reduceToNat]; omega
  have h2 : (0xC2 ≤ x && x ≤ 0xDF) = true := by
    simp only [Bool.and_eq_true, decide_eq_true_eq, UInt8.le_iff_toNat_le, hx, UInt8.reduceToNat]
    omega
  rw [decodeFrom.eq_def]
  simp only [h1, h2, if_false, if_true, isContinuation_of_toNat hy hb, char2, hx, hy,
    Nat.add_sub_cancel]

theorem decodeFrom_three {x y z : UInt8} {a b c : Nat} (hx : x.toNat = a + 0xE0)
    (hy : y.toNat = b + 0x80) (hz : z.toNat = c + 0x80) (ha : a < 16) (hb : b < 64) (hc : c < 64)
    (hlow : a = 0 → 0x20 ≤ b) (hgap : a = 13 → b < 0x20) (i : Nat) (rest : List UInt8) :
    decodeFrom i (x :: y :: z :: rest) =
      (decodeFrom (i + 3) rest).map (Char.ofNat (a * 4096 + b * 64 + c) :: ·) := by
  have h1 : ¬x < 0x80 := by simp only [UInt8.lt_iff_toNat_lt, hx, UInt8.reduceToNat]; omega
  have h2 : (0xC2 ≤ x && x ≤ 0xDF) = false := by
    simp only [Bool.and_eq_false_iff, decide_eq_false_iff_not, UInt8.le_iff_toNat_le, hx,
      UInt8.reduceToNat]
    omega
  have h3 : (0xE0 ≤ x && x ≤ 0xEF) = true := by
    simp only [Bool.and_eq_true, decide_eq_true_eq, UInt8.le_iff_toNat_le, hx, UInt8.reduceToNat]
    omega
  have hfits : fitsThree x y = true := by
    simp only [fitsThree, isContinuation_of_toNat hy hb, Bool.true_and, Bool.and_eq_true,
      decide_eq_true_eq, Bool.or_eq_true, bne_iff_ne, ne_eq, UInt8.le_iff_toNat_le, ← UInt8.toNat_inj,
      hx, hy, UInt8.reduceToNat]
    omega
  rw [decodeFrom.eq_def]
  simp only [h1, h2, h3, hfits, if_false, if_true, Bool.false_eq_true, Bool.not_true,
    isContinuation_of_toNat hz hc, char3, hx, hy, hz, Nat.add_sub_cancel]

theorem decodeFrom_four {x y z w : UInt8} {a b c d : Nat} (hx : x.toNat = a + 0xF0)
    (hy : y.toNat = b + 0x80) (hz : z.toNat = c + 0x80) (hw : w.toNat = d + 0x80) (ha : a < 5)
    (hb : b < 64) (hc : c < 64) (hd : d < 64) (hlow : a = 0 → 0x10 ≤ b) (hhigh : a = 4 → b < 0x10)
    (i : Nat) (rest : List UInt8) :
    decodeFrom i (x :: y :: z :: w :: rest) =
      (decodeFrom (i + 4) rest).map (Char.ofNat (a * 262144 + b * 4096 + c * 64 + d) :: ·) := by
  have h1 : ¬x < 0x80 := by simp only [UInt8.lt_iff_toNat_lt, hx, UInt8.reduceToNat]; omega
  have h2 : (0xC2 ≤ x && x ≤ 0xDF) = false := by
    simp only [Bool.and_eq_false_iff, decide_eq_false_iff_not, UInt8.le_iff_toNat_le, hx,
      UInt8.reduceToNat]
    omega
  have h3 : (0xE0 ≤ x && x ≤ 0xEF) = false := by
    simp only [Bool.and_eq_false_iff, decide_eq_false_iff_not, UInt8.le_iff_toNat_le, hx,
      UInt8.reduceToNat]
    omega
  have h4 : (0xF0 ≤ x && x ≤ 0xF4) = true := by
    simp only [Bool.and_eq_true, decide_eq_true_eq, UInt8.le_iff_toNat_le, hx, UInt8.reduceToNat]
    omega
  have hfits : fitsFour x y = true := by
    simp only [fitsFour, isContinuation_of_toNat hy hb, Bool.true_and, Bool.and_eq_true,
      decide_eq_true_eq, Bool.or_eq_true, bne_iff_ne, ne_eq, UInt8.le_iff_toNat_le, ← UInt8.toNat_inj,
      hx, hy, UInt8.reduceToNat]
    omega
  rw [decodeFrom.eq_def]
  simp only [h1, h2, h3, h4, hfits, if_false, if_true, Bool.false_eq_true, Bool.not_true,
    isContinuation_of_toNat hz hc, isContinuation_of_toNat hw hd, char4, hx, hy, hz, hw,
    Nat.add_sub_cancel]

theorem decodeFrom_encodeChar (c : Char) (i : Nat) (rest : List UInt8) :
    ∃ j, decodeFrom i (String.utf8EncodeChar c ++ rest) = (decodeFrom j rest).map (c :: ·) := by
  have hmax := toNat_bounds c
  have hback : ∀ {k}, k = c.toNat → Char.ofNat k = c := fun h => h ▸ Char.ofNat_toNat c
  by_cases hc : c.toNat < 0x80
  · refine ⟨i + 1, ?_⟩
    rw [encodeChar_ascii hc]
    simpa using decodeFrom_one (toNat_ofNat (by omega)) hc i rest
  rcases encodeChar_wide (Nat.le_of_not_lt hc) with ⟨hlt, he⟩ | ⟨hle, hlt, he⟩ | ⟨hle, he⟩ <;> rw [he]
  · refine ⟨i + 2, (decodeFrom_two (toNat_ofNat (by omega)) (toNat_ofNat (by omega)) (by omega)
      (by omega) (by omega) i rest).trans ?_⟩
    rw [hback (by omega)]
  · refine ⟨i + 3, (decodeFrom_three (toNat_ofNat (by omega)) (toNat_ofNat (by omega))
      (toNat_ofNat (by omega)) (by omega) (by omega) (by omega) (by omega) (by omega) i rest).trans ?_⟩
    rw [hback (by omega)]
  · refine ⟨i + 4, (decodeFrom_four (toNat_ofNat (by omega)) (toNat_ofNat (by omega))
      (toNat_ofNat (by omega)) (toNat_ofNat (by omega)) (by omega) (by omega) (by omega) (by omega)
      (by omega) (by omega) i rest).trans ?_⟩
    rw [hback (by omega)]

theorem decodeFrom_encodeChars (cs : List Char) (i : Nat) : decodeFrom i (encodeChars cs) = .ok cs := by
  induction cs generalizing i with
  | nil => rw [encodeChars, List.flatMap_nil, decodeFrom]
  | cons c rest ih =>
    obtain ⟨j, hj⟩ := decodeFrom_encodeChar c i (encodeChars rest)
    have hcons : encodeChars (c :: rest) = String.utf8EncodeChar c ++ encodeChars rest :=
      List.flatMap_cons
    rw [hcons, hj, ih]
    rfl

/-- **The bytes of a text are read as that text.** -/
theorem decode_encode (s : String) : decode (encode s) = .ok s := by
  rw [decode, encode, decodeFrom_encodeChars]
  simp [Except.map]

/-! ### Texts in a row -/

@[simp] theorem encodeChars_nil : encodeChars [] = [] := rfl

theorem encodeChars_cons (c : Char) (cs : List Char) :
    encodeChars (c :: cs) = String.utf8EncodeChar c ++ encodeChars cs := List.flatMap_cons

theorem encodeChars_append (cs ds : List Char) :
    encodeChars (cs ++ ds) = encodeChars cs ++ encodeChars ds := List.flatMap_append

theorem encode_append (s t : String) : encode (s ++ t) = encode s ++ encode t := by
  rw [encode, String.toList_append, encodeChars_append, encode, encode]

theorem encode_ofList (cs : List Char) : encode (String.ofList cs) = encodeChars cs := by
  rw [encode, String.toList_ofList]

theorem encodeChars_ascii {cs : List Char} (h : ∀ c ∈ cs, c.toNat < 0x80) :
    encodeChars cs = cs.map fun c => UInt8.ofNat c.toNat := by
  induction cs with
  | nil => rfl
  | cons c rest ih =>
    rw [encodeChars_cons, encodeChar_ascii (h c (by simp)), ih fun d hd => h d (by simp [hd])]
    rfl

/-- Characters of ASCII come back from their bytes. -/
theorem map_encodeChars_ascii {cs : List Char} (h : ∀ c ∈ cs, c.toNat < 0x80) :
    ((encodeChars cs).map fun b => Char.ofNat b.toNat) = cs := by
  rw [encodeChars_ascii h, List.map_map]
  refine (List.map_congr_left fun c hc => ?_).trans (List.map_id cs)
  have hb : (UInt8.ofNat c.toNat).toNat = c.toNat := toNat_ofNat (by have := h c hc; omega)
  simp [hb]

theorem toNat_char {n : Nat} (h : n.isValidChar) : (Char.ofNat n).toNat = n := by
  rw [Char.ofNat, dif_pos h]
  rfl

theorem toNat_char_ascii {n : Nat} (h : n < 0x80) : (Char.ofNat n).toNat = n :=
  toNat_char (.inl (by omega))

theorem encodeChars_map_ascii {bytes : List UInt8} (h : ∀ b ∈ bytes, b.toNat < 0x80) :
    encodeChars (bytes.map fun b => Char.ofNat b.toNat) = bytes := by
  rw [encodeChars_ascii, List.map_map]
  · refine (List.map_congr_left fun b hb => ?_).trans (List.map_id bytes)
    simp [toNat_char_ascii (h b hb)]
  · intro c hc
    obtain ⟨b, hb, rfl⟩ := List.mem_map.1 hc
    rw [toNat_char_ascii (h b hb)]
    exact h b hb

/-! ### What was read -/

theorem toNat_of_isContinuation {x : UInt8} (h : isContinuation x = true) :
    ∃ a < 64, x.toNat = a + 0x80 := by
  simp only [isContinuation, Bool.and_eq_true, decide_eq_true_eq, UInt8.le_iff_toNat_le,
    UInt8.reduceToNat] at h
  exact ⟨x.toNat - 0x80, by omega, by omega⟩

theorem toNat_between {x : UInt8} {low high : UInt8} (h : (low ≤ x && x ≤ high) = true) :
    low.toNat ≤ x.toNat ∧ x.toNat ≤ high.toNat := by
  simpa only [Bool.and_eq_true, decide_eq_true_eq, UInt8.le_iff_toNat_le] using h

theorem encodeChar_char2 {x y : UInt8} (hx : (0xC2 ≤ x && x ≤ 0xDF) = true)
    (hy : isContinuation y = true) : String.utf8EncodeChar (char2 x y) = [x, y] := by
  have hx := toNat_between hx
  obtain ⟨b, hb, hy⟩ := toNat_of_isContinuation hy
  simp only [UInt8.reduceToNat] at hx
  have hn : (char2 x y).toNat = (x.toNat - 0xC0) * 64 + b := by
    rw [char2, toNat_char (.inl (by omega)), hy, Nat.add_sub_cancel]
  rcases encodeChar_wide (c := char2 x y) (by omega) with ⟨-, he⟩ | ⟨hle, -⟩ | ⟨hle, -⟩
  · rw [he, hn]
    simp only [List.cons.injEq, and_true, ← UInt8.toNat_inj, UInt8.toNat_ofNat']
    omega
  · omega
  · omega

theorem encodeChar_char3 {x y z : UInt8} (hx : (0xE0 ≤ x && x ≤ 0xEF) = true)
    (hy : fitsThree x y = true) (hz : isContinuation z = true) :
    String.utf8EncodeChar (char3 x y z) = [x, y, z] := by
  have hx := toNat_between hx
  simp only [fitsThree, Bool.and_eq_true, Bool.or_eq_true, bne_iff_ne, ne_eq, decide_eq_true_eq,
    ← UInt8.toNat_inj, UInt8.le_iff_toNat_le] at hy
  obtain ⟨⟨hy, hlow⟩, hgap⟩ := hy
  obtain ⟨b, hb, hy⟩ := toNat_of_isContinuation hy
  obtain ⟨c, hc, hz⟩ := toNat_of_isContinuation hz
  simp only [UInt8.reduceToNat] at hx hlow hgap
  have hn : (char3 x y z).toNat = (x.toNat - 0xE0) * 4096 + b * 64 + c := by
    rw [char3, hy, hz, Nat.add_sub_cancel, Nat.add_sub_cancel]
    exact toNat_char (by simp only [Nat.isValidChar]; omega)
  rcases encodeChar_wide (c := char3 x y z) (by omega) with ⟨hlt, -⟩ | ⟨-, -, he⟩ | ⟨hle, -⟩
  · omega
  · rw [he, hn]
    simp only [List.cons.injEq, and_true, ← UInt8.toNat_inj, UInt8.toNat_ofNat']
    omega
  · omega

theorem encodeChar_char4 {x y z w : UInt8} (hx : (0xF0 ≤ x && x ≤ 0xF4) = true)
    (hy : fitsFour x y = true) (hz : isContinuation z = true) (hw : isContinuation w = true) :
    String.utf8EncodeChar (char4 x y z w) = [x, y, z, w] := by
  have hx := toNat_between hx
  simp only [fitsFour, Bool.and_eq_true, Bool.or_eq_true, bne_iff_ne, ne_eq, decide_eq_true_eq,
    ← UInt8.toNat_inj, UInt8.le_iff_toNat_le] at hy
  obtain ⟨⟨hy, hlow⟩, hhigh⟩ := hy
  obtain ⟨b, hb, hy⟩ := toNat_of_isContinuation hy
  obtain ⟨c, hc, hz⟩ := toNat_of_isContinuation hz
  obtain ⟨d, hd, hw⟩ := toNat_of_isContinuation hw
  simp only [UInt8.reduceToNat] at hx hlow hhigh
  have hn : (char4 x y z w).toNat = (x.toNat - 0xF0) * 262144 + b * 4096 + c * 64 + d := by
    rw [char4, hy, hz, hw, Nat.add_sub_cancel, Nat.add_sub_cancel, Nat.add_sub_cancel]
    exact toNat_char (by simp only [Nat.isValidChar]; omega)
  rcases encodeChar_wide (c := char4 x y z w) (by omega) with ⟨hlt, -⟩ | ⟨-, hlt, -⟩ | ⟨-, he⟩
  · omega
  · omega
  · rw [he, hn]
    simp only [List.cons.injEq, and_true, ← UInt8.toNat_inj, UInt8.toNat_ofNat']
    omega

/-- Whatever is read is read from its own bytes. -/
theorem eq_of_decodeFrom {i : Nat} {bytes : List UInt8} {cs : List Char}
    (h : decodeFrom i bytes = .ok cs) : bytes = encodeChars cs := by
  fun_induction decodeFrom i bytes generalizing cs with
  | case1 => cases h; rfl
  | case2 i x rest hx ih =>
    obtain ⟨more, hmore, rfl⟩ := Results.map_eq_ok_iff.1 h
    have hx : x.toNat < 0x80 := UInt8.lt_iff_toNat_lt.1 hx
    have hn := toNat_char_ascii hx
    rw [encodeChars_cons, encodeChar_ascii (hn.symm ▸ hx), hn, UInt8.ofNat_toNat, ← ih hmore]
    rfl
  | case4 i x hx hlead y rest hy ih =>
    obtain ⟨more, hmore, rfl⟩ := Results.map_eq_ok_iff.1 h
    rw [encodeChars_cons, encodeChar_char2 hlead hy, ← ih hmore]
    rfl
  | case11 i x _ _ hlead y z rest hy hz ih =>
    obtain ⟨more, hmore, rfl⟩ := Results.map_eq_ok_iff.1 h
    rw [encodeChars_cons, encodeChar_char3 hlead (by simpa using hy) (by simpa using hz), ← ih hmore]
    rfl
  | case21 i x _ _ _ hlead y z w rest hy hz hw ih =>
    obtain ⟨more, hmore, rfl⟩ := Results.map_eq_ok_iff.1 h
    rw [encodeChars_cons, encodeChar_char4 hlead (by simpa using hy) (by simpa using hz)
      (by simpa using hw), ← ih hmore]
    rfl
  | _ => cases h

/-- **A text is read from its own bytes and from no others.** -/
theorem decode_eq_ok_iff {bytes : List UInt8} {s : String} : decode bytes = .ok s ↔ bytes = encode s := by
  constructor
  · intro h
    obtain ⟨cs, hcs, rfl⟩ := Results.map_eq_ok_iff.1 h
    rw [encode, String.toList_ofList]
    exact eq_of_decodeFrom hcs
  · rintro rfl
    exact decode_encode s

end WireShapes.Utf8
