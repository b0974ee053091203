import WireShapes.Proofs.Text.Split
import WireShapes.Proofs.Text.Utf8
import WireShapes.Text.Percent

/-!
Percent-encoding, written and read.

* `decode_encode`: what is written for a text is read as that text
* `decode_joinWith`: so are texts with slashes between them, each of which is written on its own
* `Written`: the characters of a written form; none of them separates the parts of a URI
-/

namespace WireShapes.Percent

/-! ### Bytes -/

theorem digitValue?_digitByte : ∀ n < 16,
    digitValue? (digitByte (UInt8.ofNat n)) = some (UInt8.ofNat n) := by decide

theorem toNat_div_sixteen (b : UInt8) : (b / 16).toNat = b.toNat / 16 := UInt8.toNat_div b 16

theorem toNat_mod_sixteen (b : UInt8) : (b % 16).toNat = b.toNat % 16 := UInt8.toNat_mod b 16

theorem digitValue?_half {b : UInt8} (h : b.toNat < 16) : digitValue? (digitByte b) = some b := by
  have := digitValue?_digitByte b.toNat h
  rwa [UInt8.ofNat_toNat] at this

theorem halves (b : UInt8) : b / 16 * 16 + b % 16 = b := by
  rw [← UInt8.toNat_inj, UInt8.toNat_add, UInt8.toNat_mul, toNat_div_sixteen, toNat_mod_sixteen]
  have := b.toNat_lt
  simp only [UInt8.reduceToNat]
  omega

/-- A byte that is no percent sign stands for itself. -/
theorem decodeBytes_cons {b : UInt8} (h : b ≠ 0x25) (rest : List UInt8) :
    decodeBytes (b :: rest) = b :: decodeBytes rest := by
  match rest with
  | [] => rfl
  | [x] => rfl
  | x :: y :: more => rw [decodeBytes, if_neg h]

theorem decodeBytes_escape (b : UInt8) (rest : List UInt8) :
    decodeBytes (0x25 :: digitByte (b / 16) :: digitByte (b % 16) :: rest) = b :: decodeBytes rest := by
  have hlt := b.toNat_lt
  have hhigh : (b / 16).toNat < 16 := by rw [toNat_div_sixteen]; omega
  have hlow : (b % 16).toNat < 16 := by rw [toNat_mod_sixteen]; omega
  rw [decodeBytes, if_pos rfl, digitValue?_half hhigh, digitValue?_half hlow]
  simp only [halves]

theorem ne_percent_of_isUnreserved {b : UInt8} (h : isUnreserved b = true) : b ≠ 0x25 := by
  rintro rfl
  revert h
  decide

theorem decodeBytes_encodeByte (b : UInt8) (rest : List UInt8) :
    decodeBytes (encodeByte b ++ rest) = b :: decodeBytes rest := by
  unfold encodeByte
  split
  · next h => exact decodeBytes_cons (ne_percent_of_isUnreserved h) rest
  · exact decodeBytes_escape b rest

theorem decodeBytes_encodeBytes_append (bytes rest : List UInt8) :
    decodeBytes (encodeBytes bytes ++ rest) = bytes ++ decodeBytes rest := by
  induction bytes with
  | nil => rfl
  | cons b more ih =>
    have hcons : encodeBytes (b :: more) = encodeByte b ++ encodeBytes more := List.flatMap_cons
    rw [hcons, List.append_assoc, decodeBytes_encodeByte, ih, List.cons_append]

theorem decodeBytes_encodeBytes (bytes : List UInt8) : decodeBytes (encodeBytes bytes) = bytes := by
  have h := decodeBytes_encodeBytes_append bytes []
  rwa [List.append_nil, decodeBytes, List.append_nil] at h

/-! ### Texts -/

/-- A byte that stands in a written form. -/
def isWritten (b : UInt8) : Bool := isUnreserved b || b == 0x25

theorem isWritten_digitByte : ∀ n < 16, isWritten (digitByte (UInt8.ofNat n)) = true := by decide

theorem isWritten_half {b : UInt8} (h : b.toNat < 16) : isWritten (digitByte b) = true := by
  have := isWritten_digitByte b.toNat h
  rwa [UInt8.ofNat_toNat] at this

theorem isWritten_of_mem {bytes : List UInt8} {b : UInt8} (h : b ∈ encodeBytes bytes) :
    isWritten b = true := by
  obtain ⟨a, -, hb⟩ := List.mem_flatMap.1 h
  have hlt := a.toNat_lt
  unfold encodeByte at hb
  split at hb
  · next ha =>
    rw [List.mem_singleton.1 hb, isWritten, ha]
    rfl
  · simp only [List.mem_cons, List.not_mem_nil, or_false] at hb
    rcases hb with rfl | rfl | rfl
    · decide
    · exact isWritten_half (by rw [toNat_div_sixteen]; omega)
    · exact isWritten_half (by rw [toNat_mod_sixteen]; omega)

theorem toNat_lt_of_isWritten {b : UInt8} (h : isWritten b = true) : b.toNat < 0x80 := by
  simp only [isWritten, isUnreserved, Bool.or_eq_true, Bool.and_eq_true, decide_eq_true_eq, beq_iff_eq,
    UInt8.le_iff_toNat_le, ← UInt8.toNat_inj, UInt8.reduceToNat] at h
  omega

/-- A character of a written form. -/
def Written (c : Char) : Prop := ∃ b : UInt8, isWritten b = true ∧ c = Char.ofNat b.toNat

theorem written_of_mem {s : String} {c : Char} (h : c ∈ (encode s).toList) : Written c := by
  rw [encode, String.toList_ofList] at h
  obtain ⟨b, hb, rfl⟩ := List.mem_map.1 h
  exact ⟨b, isWritten_of_mem hb, rfl⟩

/-- No character of a written form separates the parts of a URI. -/
theorem Written.ne {c : Char} (h : Written c) {d : Char} (hd : d ∈ ['/', '?', '#', '&', '=']) : c ≠ d := by
  rintro rfl
  obtain ⟨b, hb, hc⟩ := h
  have hn := congrArg Char.toNat hc
  rw [Utf8.toNat_char_ascii (toNat_lt_of_isWritten hb)] at hn
  simp only [List.mem_cons, List.not_mem_nil, or_false] at hd
  have hbyte : b = UInt8.ofNat c.toNat := by rw [hn, UInt8.ofNat_toNat]
  rw [hbyte] at hb
  rcases hd with rfl | rfl | rfl | rfl | rfl <;> revert hb <;> decide

theorem encodeChars_encode (s : String) :
    Utf8.encodeChars (encode s).toList = encodeBytes (Utf8.encode s) := by
  rw [encode, String.toList_ofList, Utf8.encodeChars_map_ascii]
  exact fun b hb => toNat_lt_of_isWritten (isWritten_of_mem hb)

/-- **What is written for a text is read as that text.** -/
theorem decode_encode (s : String) : decode (encode s) = .ok s := by
  rw [decode, Utf8.encode, encodeChars_encode, decodeBytes_encodeBytes, Utf8.decode_encode]

theorem encode_ne_nil {s : String} (h : s ≠ "") : (encode s).toList ≠ [] := by
  intro hnil
  have hempty : encode s = "" := String.toList_eq_nil_iff.1 hnil
  have hback := decode_encode s
  rw [hempty] at hback
  exact h (Except.ok.inj hback).symm

theorem decodeBytes_joinWith (parts : List (List Char)) :
    decodeBytes (Utf8.encodeChars (Text.joinWith ['/'] (parts.map fun p => (encode (String.ofList p)).toList))) =
      Utf8.encodeChars (Text.joinWith ['/'] parts) := by
  have hslash (cs : List Char) : Utf8.encodeChars ('/' :: cs) = 0x2F :: Utf8.encodeChars cs := by
    rw [Utf8.encodeChars_cons]
    rfl
  induction parts with
  | nil => rfl
  | cons part parts ih =>
    cases parts with
    | nil =>
      rw [List.map_cons, List.map_nil, Text.joinWith, Text.joinWith, encodeChars_encode, Utf8.encode_ofList,
        decodeBytes_encodeBytes]
    | cons next parts =>
      rw [List.map_cons] at ih ⊢
      rw [List.map_cons, Text.joinWith_cons_cons, Utf8.encodeChars_append, hslash, encodeChars_encode,
        decodeBytes_encodeBytes_append, decodeBytes_cons (by decide), ih, Text.joinWith_cons_cons,
        Utf8.encodeChars_append, hslash, Utf8.encode_ofList]

/-- **Texts with slashes between them are read as they are,** if each of them is written on its own. -/
theorem decode_joinWith (parts : List (List Char)) :
    decode (String.ofList (Text.joinWith ['/'] (parts.map fun p => (encode (String.ofList p)).toList))) =
      .ok (String.ofList (Text.joinWith ['/'] parts)) := by
  rw [decode, Utf8.encode_ofList, decodeBytes_joinWith, ← Utf8.encode_ofList, Utf8.decode_encode]

end WireShapes.Percent
