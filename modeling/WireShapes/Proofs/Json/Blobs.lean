import WireShapes.Proofs.Json.Readers
import WireShapes.Proofs.Json.Writing
import WireShapes.Proofs.Text.Base64

/-!
Bytes in a document.

* `escape_bare`: a text of characters that stand for themselves is its own literal
* `escape_base64`: base64 is such a text, so that it does not matter to it that its literal is read as it is
  written
* `reads_blob`: the bytes are read from the literal of their base64
* `blob_write`: what is written for bytes is read as these bytes, and their base64 has one form
-/

namespace WireShapes.Json

theorem escapeChar_bare {c : Char} (h : isBare c = true) : escapeChar c = [c] := by
  simp only [isBare, Bool.and_eq_true, bne_iff_ne, decide_eq_true_eq] at h
  obtain ⟨⟨hquote, hslash⟩, hcontrol⟩ := h
  have hne : ∀ d : Char, d.toNat < 0x20 → c ≠ d := by
    rintro d hd rfl
    omega
  unfold escapeChar
  rw [if_neg hquote, if_neg hslash, if_neg (hne _ (by decide)), if_neg (hne _ (by decide)),
    if_neg (hne _ (by decide)), if_neg (hne _ (by decide)), if_neg (hne _ (by decide)),
    if_neg (Nat.not_lt.2 hcontrol)]

theorem escape_bare {s : String} (h : ∀ c ∈ s.toList, isBare c = true) : escape s = s := by
  have hchars : s.toList.flatMap escapeChar = s.toList.flatMap fun c => [c] :=
    List.flatMap_congr fun c hc => escapeChar_bare (h c hc)
  rw [escape, hchars, List.flatMap_singleton', String.ofList_toList]

theorem escape_base64 (bytes : List UInt8) : escape (Base64.encode bytes) = Base64.encode bytes :=
  escape_bare (Base64.forall_mem_encode (by decide) (by decide) bytes)

theorem Reader.reads_blob (bytes : List UInt8) :
    Reader.Reads Reader.blob [.string (Base64.encode bytes)] (some bytes) := by
  intro toks rest hlex
  obtain ⟨t, more, rfl, ht, hmore⟩ := List.map_eq_cons_iff.1 hlex
  rw [List.map_eq_nil_iff.1 hmore]
  unfold Reader.blob
  rw [List.map_cons, List.cons_append, bind_of_ok (rawString_apply ht _)]
  simp only [Base64.decode_encode]
  rfl

/-- **Bytes are read as they were written**, and no token is left; and a text is read as the bytes only if it
is what is written for them, which has the form of the standard alphabet with all pads and with zeros in the
bits to spare. -/
theorem blob_write (bytes : List UInt8) :
    Reader.blob (tokenize (Utf8.encode (Node.blob bytes).write)) = (.ok (some bytes), []) ∧
      (∀ text, Base64.decode text = .ok bytes ↔ text = Base64.encode bytes) ∧
      Base64.Form bytes (Base64.encode bytes) := by
  refine ⟨?_, fun text => Base64.decode_eq_ok_iff, Base64.form_encode bytes⟩
  have hplain : (Node.blob bytes).Plain := .blob
  obtain ⟨toks, hlex, htokens⟩ := tokenize_write hplain (Nat.zero_le _)
  have hlex : toks.map Token.lexeme = [.string (Base64.encode bytes)] := by
    rw [hlex, ← escape_base64 bytes]
    rfl
  have hrun := Reader.reads_blob bytes toks [] hlex
  rwa [List.append_nil, ← htokens] at hrun

end WireShapes.Json
