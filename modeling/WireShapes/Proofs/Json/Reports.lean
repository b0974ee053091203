import WireShapes.Proofs.Json.Offsets

/-!
Where the failure that ends the tokens of a text is reported.

* `ReportedFrom c e`: a failure is reported at one of the bytes from `c` on or at their end; one place behind
  the end just if they end while a backslash waits for the byte that it takes along
* `ReportedFrom.of_at`: what is passed over before the failure changes nothing, if no backslash waits at its end
* one lemma for each function of the tokenizer, on what it reports
* `failure_placed`: the place of the failure of any text
-/

namespace WireShapes.Json

/-- Where a failure is reported that is met from the place `c` on. -/
def ReportedFrom (c : Cursor) (e : ReadError) : Prop :=
  ∃ n, e.offset = some n ∧ n ≤ c.offset + c.rest.length + 1 ∧
    (n = c.offset + c.rest.length + 1 ↔ e.fault = .ended ∧ waiting c.rest = true)

/-- What is passed over before the failure changes nothing, if no backslash waits at its end. -/
theorem ReportedFrom.of_at {c d : Cursor} {text : List UInt8} {e : ReadError} (h : ReportedFrom d e)
    (hat : At c text d) (hwait : waiting text = false) : ReportedFrom c e := by
  obtain ⟨n, hn, hle, hbehind⟩ := h
  rw [hat.end_eq] at hle hbehind
  refine ⟨n, hn, hle, ?_⟩
  have hrest : waiting c.rest = waiting d.rest := by rw [hat.here, waiting_append hwait]
  rw [hrest]
  exact hbehind

/-! ### One failure -/

theorem reported_fail {α : Type} {c : Cursor} {fault : Fault} {e : ReadError} (hfault : fault ≠ .ended)
    (h : (c.fail fault : Except ReadError α) = .error e) : ReportedFrom c e := by
  cases h
  refine ⟨c.offset, rfl, by omega, ?_⟩
  have hne : c.offset ≠ c.offset + c.rest.length + 1 := by omega
  exact ⟨fun h => absurd h hne, fun h => absurd h.1 hfault⟩

theorem reported_unexpected {α : Type} {c : Cursor} {wanted : String} {e : ReadError}
    (h : (c.unexpected wanted : Except ReadError α) = .error e) : ReportedFrom c e := by
  unfold Cursor.unexpected at h
  split at h
  · exact reported_fail (by simp) h
  · next hrest =>
    -- the text ends, but not inside a string
    cases h
    refine ⟨c.offset, rfl, by omega, ?_⟩
    rw [hrest]
    simp [waiting]

/-- **A body that does not close is reported where it ends**, or one place behind that. -/
theorem reported_bodyLength {offset : Nat} {bytes : List UInt8} {e : ReadError}
    (h : bodyLength offset bytes = .error e) : ReportedFrom ⟨offset, bytes⟩ e := by
  fun_induction bodyLength offset bytes with
  | case1 offset =>
    cases h
    exact ⟨offset, rfl, by simp, by simp [waiting]⟩
  | case2 => cases h
  | case3 offset =>
    -- the backslash is the last byte, and the place behind it is passed over
    cases h
    exact ⟨offset + 2, rfl, by simp, by simp [waiting, ReadError.locate]⟩
  | case4 offset c rest _ ih =>
    rw [Results.map_eq_error_iff] at h
    have hat : At ⟨offset, 0x5C :: c :: rest⟩ [0x5C, c] ⟨offset + 2, rest⟩ := ⟨rfl, rfl⟩
    exact (ih h).of_at hat rfl
  | case5 offset b rest _ _ _ =>
    have hfault : Fault.control b ≠ .ended := by simp
    exact reported_fail hfault h
  | case6 offset b rest _ slash _ ih =>
    rw [Results.map_eq_error_iff] at h
    have hat : At ⟨offset, b :: rest⟩ [b] ⟨offset + 1, rest⟩ := ⟨rfl, rfl⟩
    exact (ih h).of_at hat (waiting_of_not_mem (by simpa using Ne.symm slash))

theorem reported_readString {c : Cursor} {rest : List UInt8} {e : ReadError} (here : c.rest = 0x22 :: rest)
    (h : readString c = .error e) : ReportedFrom c e := by
  have hquote : ReportedFrom (c.advance 1) e → ReportedFrom c e := fun h => h.of_at (at_advance here) rfl
  rcases Results.bind_eq_error_iff.1 h with h | ⟨n, -, h⟩
  · exact hquote (reported_bodyLength h)
  · split at h
    · cases h
    · exact hquote (reported_fail (by simp) h)

theorem reported_readWord {c : Cursor} {word : String} {e : ReadError} (h : readWord c word = .error e) :
    ReportedFrom c e := by
  unfold readWord at h
  split at h
  · cases h
  · exact reported_fail (by simp) h

theorem reported_readNumber {c : Cursor} {e : ReadError} (h : readNumber c = .error e) :
    ReportedFrom c e := by
  unfold readNumber at h
  dsimp only at h
  split at h
  · cases h
  · exact reported_fail (by simp) h

/-! ### What is passed over -/

theorem Blank.not_waiting {w : List UInt8} (h : Blank w) : waiting w = false := by
  refine waiting_of_not_mem fun hmem => ?_
  have hblank := h _ hmem
  revert hblank
  decide

theorem ReportedFrom.of_skipBlanks {c : Cursor} {e : ReadError} (h : ReportedFrom c.skipBlanks e) :
    ReportedFrom c e := by
  obtain ⟨lead, hlead, hat⟩ := at_skipBlanks c
  exact h.of_at hat hlead.not_waiting

theorem literal_not_waiting (raw : String) : waiting (literal raw) = false := by
  have hconcat : literal raw = (0x22 :: Utf8.encode raw) ++ [0x22] := rfl
  rw [hconcat, waiting_concat]
  simp

section Text

variable {frames inner after : List Frame} {lead text : List UInt8} {x : Lexeme}

theorem ValueText.not_waiting (h : ValueText inner text x after) : waiting text = false := by
  cases h with
  | object => rfl
  | array => rfl
  | string => exact literal_not_waiting _
  | word named =>
    simp only [List.mem_cons, Prod.mk.injEq, List.not_mem_nil, or_false] at named
    rcases named with ⟨rfl, -⟩ | ⟨rfl, -⟩ | ⟨rfl, -⟩ <;> decide
  | number _ each =>
    refine waiting_of_not_mem fun hmem => ?_
    have hbyte := each _ hmem
    revert hbyte
    decide

/-- At the end of a token no backslash waits. -/
theorem StepText.not_waiting (h : StepText frames lead text x after) : waiting (lead ++ text) = false := by
  have hblanks : ∀ {w}, Blank w → waiting text = false → waiting (w ++ text) = false := by
    intro w hw htext
    rwa [waiting_append hw.not_waiting]
  have hcomma : ∀ {v w}, Blank v → Blank w → waiting text = false →
      waiting ((v ++ 0x2C :: w) ++ text) = false := by
    intro v w hv hw htext
    have hsingle : waiting [0x2C] = false := rfl
    have hfront : waiting (v ++ 0x2C :: w) = false := by
      rw [waiting_append hv.not_waiting, ← List.singleton_append, waiting_append hsingle, hw.not_waiting]
    rwa [waiting_append hfront]
  have hcolon : ∀ raw gap, waiting (literal raw ++ (gap ++ [0x3A])) = false := by
    intro raw gap
    rw [← List.append_assoc, waiting_concat]
    simp
  cases h with
  | top blank value => exact hblanks blank value.not_waiting
  | firstItem blank value => exact hblanks blank value.not_waiting
  | nextItem front blank value => exact hcomma front blank value.not_waiting
  | fieldValue blank value => exact hblanks blank value.not_waiting
  | firstKey blank => exact hblanks blank (hcolon _ _)
  | nextKey front blank => exact hcomma front blank (hcolon _ _)
  | endArray blank => exact hblanks blank rfl
  | endObject blank => exact hblanks blank rfl

end Text

/-! ### A failed step -/

theorem reported_readValue {frames : List Frame} {c : Cursor} {e : ReadError}
    (h : readValue frames c = .error e) : ReportedFrom c e := by
  refine ReportedFrom.of_skipBlanks ?_
  unfold readValue at h
  dsimp only at h
  split at h
  · exact reported_unexpected h
  next b rest here =>
  split at h
  · split at h
    · exact reported_fail (by simp) h
    · cases h
  split at h
  · split at h
    · exact reported_fail (by simp) h
    · cases h
  split at h
  · next hb => exact reported_readString (hb ▸ here) (Results.map_eq_error_iff.1 h)
  split at h
  · exact reported_readWord (Results.map_eq_error_iff.1 h)
  split at h
  · exact reported_readWord (Results.map_eq_error_iff.1 h)
  split at h
  · exact reported_readWord (Results.map_eq_error_iff.1 h)
  split at h
  · exact reported_readNumber (Results.map_eq_error_iff.1 h)
  · exact reported_unexpected h

theorem reported_readKey {outer : List Frame} {c : Cursor} {e : ReadError} (h : readKey outer c = .error e) :
    ReportedFrom c e := by
  unfold readKey at h
  split at h
  · next rest here =>
    rcases Results.bind_eq_error_iff.1 h with h | ⟨r, hr, h⟩
    · exact reported_readString here h
    · obtain ⟨hat, -⟩ := at_readString here hr
      refine ReportedFrom.of_at (ReportedFrom.of_skipBlanks ?_) hat (literal_not_waiting _)
      dsimp only at h
      split at h
      · cases h
      · exact reported_unexpected h
  · exact reported_unexpected h

/-- **A failed step reports one of the bytes that are left or their end**, or one place behind that. -/
theorem reported_step {frames : List Frame} {c : Cursor} {e : ReadError}
    (h : step frames c = some (.error e)) : ReportedFrom c e := by
  refine ReportedFrom.of_skipBlanks ?_
  unfold step at h
  dsimp only at h
  split at h
  · split at h
    · cases h
    · exact reported_readValue (Option.some.inj h)
  · have h := Option.some.inj h
    split at h
    · cases h
    · exact reported_readValue h
  · have h := Option.some.inj h
    split at h
    · cases h
    · next comma => exact (reported_readValue h).of_at (at_advance comma) rfl
    · exact reported_unexpected h
  · have h := Option.some.inj h
    split at h
    · cases h
    · exact reported_readKey h
  · have h := Option.some.inj h
    split at h
    · cases h
    · next comma => exact (reported_readKey h).of_skipBlanks.of_at (at_advance comma) rfl
    · exact reported_unexpected h
  · exact reported_readValue (Option.some.inj h)

/-! ### The failure of a text -/

theorem reported_tokensFrom {rounds : Nat} {frames : List Frame} {c : Cursor} {e : ReadError}
    (h : .error e ∈ tokensFrom rounds frames c) : ReportedFrom c e := by
  induction rounds generalizing frames c with
  | zero => simp [tokensFrom] at h
  | succ rounds ih =>
    rw [tokensFrom] at h
    split at h
    · simp at h
    · next e' hs =>
      obtain rfl : e = e' := by simpa using h
      exact reported_step hs
    · next s hs =>
      -- the tokens before the failure
      obtain ⟨lead, text, hat, -, hstep, -⟩ := step_text hs
      have hrest : .error e ∈ tokensFrom rounds s.frames s.cursor := by simpa using h
      exact (ih hrest).of_at hat hstep.not_waiting

/-- **The failure of any text has a place, and the place is in the text or at its end**, save that a text
which ends inside a string, behind a backslash that nothing follows, is reported one place behind its end. -/
theorem failure_placed {bytes : List UInt8} {e : ReadError} (h : .error e ∈ tokenize bytes) :
    ∃ n, e.offset = some n ∧ n ≤ bytes.length + 1 ∧
      (n = bytes.length + 1 ↔ e.fault = .ended ∧ Odd (slashesBefore bytes bytes.length)) := by
  obtain ⟨n, hn, hle, hbehind⟩ := reported_tokensFrom h
  simp only [Nat.zero_add] at hle hbehind
  refine ⟨n, hn, hle, ?_⟩
  rw [hbehind, odd_slashesBefore_iff, List.take_length]

/-- An array with a string that is cut off behind a backslash. -/
def cutArray : List UInt8 := Utf8.encode "[1,\"a\\"

theorem tokenize_cutArray : tokenize cutArray = [.ok ⟨0, .startArray⟩, .ok ⟨1, .number (.natural 1)⟩,
    .error (.locate 7 .ended)] := by
  decide +kernel

theorem cutArray_placed :
    .error (.locate 7 .ended) ∈ tokenize cutArray ∧ Odd (slashesBefore cutArray cutArray.length) ∧
      7 = cutArray.length + 1 := by
  have hmem : .error (.locate 7 .ended) ∈ tokenize cutArray := by simp [tokenize_cutArray]
  have hodd : Odd (slashesBefore cutArray cutArray.length) := odd_slashesBefore_iff.2 (by decide)
  obtain ⟨n, hn, -, hbehind⟩ := failure_placed hmem
  obtain rfl : 7 = n := Option.some.inj hn
  exact ⟨hmem, hodd, hbehind.2 ⟨rfl, hodd⟩⟩

/-- A quote and a backslash: the failure is reported where no byte is, and not at the end either. -/
theorem cutEscape_beyond :
    tokenize [0x22, 0x5C] = [.error (.locate 3 .ended)] ∧ ([0x22, 0x5C] : List UInt8).length < 3 := by
  decide +kernel

end WireShapes.Json
