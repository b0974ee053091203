import Mathlib.Algebra.Ring.Parity
import Mathlib.Data.List.Induction
import Mathlib.Data.List.Perm.Subperm
import WireShapes.Proofs.Json.Sources

/-!
Where the tokens of a text stand.

* `waiting`: whether a backslash at the end of some bytes waits for the byte that it takes along
* `BareQuote bytes i`: at the place `i` stands a quote without an odd number of backslashes right before it
* `Lexeme.OpensWith`: the byte that a token of a kind starts with
* `Quoted bytes i raw`: `raw` stands between the quote at `i` and the first bare quote after it
* `ordered_of_tokensFrom`: tokens stand one behind the other
* `tokens_placed`: the offsets of tokens increase, and say where they stand
-/

namespace WireShapes.Json

/-! ### Backslashes -/

/-- Whether a backslash at the end of the bytes of a literal waits for the byte that it takes along. -/
def waiting (bytes : List UInt8) : Bool := bytes.foldl (fun waits b => !waits && b == 0x5C) false

theorem waiting_concat (bytes : List UInt8) (b : UInt8) :
    waiting (bytes ++ [b]) = (!waiting bytes && b == 0x5C) := by
  simp [waiting]

/-- Where nothing waits, what comes next is as at the start. -/
theorem waiting_append {front : List UInt8} (h : waiting front = false) (bytes : List UInt8) :
    waiting (front ++ bytes) = waiting bytes := by
  unfold waiting at h ⊢
  rw [List.foldl_append, h]

theorem waiting_of_not_mem {bytes : List UInt8} (h : 0x5C ∉ bytes) : waiting bytes = false := by
  induction bytes using List.reverseRecOn with
  | nil => rfl
  | append_singleton bytes b ih =>
    have hb : b ≠ 0x5C := by
      rintro rfl
      simp at h
    simp [waiting_concat, hb]

/-- How many backslashes in a row stand right before the place. -/
def slashesBefore (bytes : List UInt8) (place : Nat) : Nat :=
  ((bytes.take place).reverse.takeWhile (· == 0x5C)).length

/-- The last backslash waits just if it is the first, the third, … of its row. -/
theorem odd_slashes_iff (bytes : List UInt8) :
    Odd (bytes.reverse.takeWhile (· == 0x5C)).length ↔ waiting bytes = true := by
  induction bytes using List.reverseRecOn with
  | nil => simp [waiting]
  | append_singleton bytes b ih =>
    rw [waiting_concat, List.reverse_concat]
    by_cases hb : b = 0x5C
    · subst hb
      rw [List.takeWhile_cons_of_pos (by simp), List.length_cons, Nat.odd_add_one, ih]
      simp
    · rw [List.takeWhile_cons_of_neg (by simpa using hb)]
      simp [hb]

theorem odd_slashesBefore_iff {bytes : List UInt8} {place : Nat} :
    Odd (slashesBefore bytes place) ↔ waiting (bytes.take place) = true :=
  odd_slashes_iff _

/-! ### Bare quotes -/

/-- At the place stands a quote, and no odd number of backslashes right before it. -/
def BareQuote (bytes : List UInt8) (place : Nat) : Prop :=
  bytes[place]? = some 0x22 ∧ ¬Odd (slashesBefore bytes place)

theorem bareQuote_iff {bytes : List UInt8} {place : Nat} :
    BareQuote bytes place ↔ bytes[place]? = some 0x22 ∧ waiting (bytes.take place) = false := by
  rw [BareQuote, odd_slashesBefore_iff, Bool.not_eq_true]

/-- Behind bytes where nothing waits, the same quotes are bare. -/
theorem bareQuote_append {front : List UInt8} (h : waiting front = false) (bytes : List UInt8) (i : Nat) :
    BareQuote (front ++ bytes) (front.length + i) ↔ BareQuote bytes i := by
  rw [bareQuote_iff, bareQuote_iff, List.getElem?_append_right (Nat.le_add_right ..), Nat.add_sub_cancel_left,
    List.take_append, List.take_of_length_le (Nat.le_add_right ..), Nat.add_sub_cancel_left,
    waiting_append h]

def FirstBareQuote (bytes : List UInt8) (place : Nat) : Prop :=
  BareQuote bytes place ∧ ∀ i < place, ¬BareQuote bytes i

/-- Behind bytes where nothing waits and no quote is bare, the same quote is the first. -/
theorem FirstBareQuote.append {front bytes : List UInt8} {n : Nat} (hn : FirstBareQuote bytes n)
    (hwait : waiting front = false) (hfront : ∀ i < front.length, ¬BareQuote (front ++ bytes) i) :
    FirstBareQuote (front ++ bytes) (front.length + n) := by
  refine ⟨(bareQuote_append hwait bytes n).2 hn.1, fun i hi => ?_⟩
  by_cases hlt : i < front.length
  · exact hfront i hlt
  · obtain ⟨j, rfl⟩ := Nat.exists_eq_add_of_le (Nat.le_of_not_lt hlt)
    rw [bareQuote_append hwait]
    exact hn.2 j (by omega)

theorem not_bareQuote_zero {b : UInt8} (h : b ≠ 0x22) (bytes : List UInt8) : ¬BareQuote (b :: bytes) 0 := by
  rintro ⟨hb, -⟩
  exact h (Option.some.inj hb)

/-- What a backslash takes along is not bare. -/
theorem not_bareQuote_one (bytes : List UInt8) : ¬BareQuote (0x5C :: bytes) 1 := by
  rw [bareQuote_iff]
  rintro ⟨-, h⟩
  cases h

/-- **A body goes up to the first bare quote.** -/
theorem firstBareQuote_of_bodyLength {offset n : Nat} {bytes : List UInt8}
    (h : bodyLength offset bytes = .ok n) : FirstBareQuote bytes n := by
  fun_induction bodyLength offset bytes generalizing n with
  | case2 offset rest =>
    cases h
    exact ⟨bareQuote_iff.2 ⟨rfl, rfl⟩, by simp⟩
  | case4 offset c rest _ ih =>
    obtain ⟨m, hm, rfl⟩ := Results.map_eq_ok_iff.1 h
    rw [Nat.add_comm]
    have hpair : waiting [0x5C, c] = false := rfl
    refine (ih hm).append hpair fun i hi => ?_
    rcases i with _ | _ | i
    · exact not_bareQuote_zero (by decide) _
    · exact not_bareQuote_one _
    · exact absurd hi (by simp)
  | case6 offset b rest quote slash _ ih =>
    obtain ⟨m, hm, rfl⟩ := Results.map_eq_ok_iff.1 h
    rw [Nat.add_comm]
    have hsingle : waiting [b] = false := waiting_of_not_mem (by simpa using Ne.symm slash)
    refine (ih hm).append hsingle fun i hi => ?_
    obtain rfl := Nat.lt_one_iff.1 hi
    exact not_bareQuote_zero quote _
  | _ => cases h

/-! ### The text of a token -/

/-- The byte that a token of a kind starts with. -/
def Lexeme.OpensWith (x : Lexeme) (b : UInt8) : Prop :=
  match x with
  | .startObject => b = 0x7B
  | .endObject => b = 0x7D
  | .startArray => b = 0x5B
  | .endArray => b = 0x5D
  | .key _ | .string _ => b = 0x22
  | .bool value => b = if value then 0x74 else 0x66
  | .null => b = 0x6E
  | .number _ => b = 0x2D ∨ 0x30 ≤ b ∧ b ≤ 0x39

section Text

variable {frames inner after : List Frame} {lead text : List UInt8} {x : Lexeme}

theorem ValueText.opens (h : ValueText inner text x after) : ∃ b more, text = b :: more ∧ x.OpensWith b := by
  cases h with
  | object => exact ⟨_, _, rfl, rfl⟩
  | array => exact ⟨_, _, rfl, rfl⟩
  | string => exact ⟨_, _, rfl, rfl⟩
  | word named =>
    simp only [List.mem_cons, Prod.mk.injEq, List.not_mem_nil, or_false] at named
    rcases named with ⟨rfl, rfl⟩ | ⟨rfl, rfl⟩ | ⟨rfl, rfl⟩ <;> exact ⟨_, _, rfl, rfl⟩
  | number start => exact ⟨_, _, rfl, start⟩

theorem StepText.opens (h : StepText frames lead text x after) :
    ∃ b more, text = b :: more ∧ x.OpensWith b := by
  cases h with
  | top _ value => exact value.opens
  | firstItem _ value => exact value.opens
  | nextItem _ _ value => exact value.opens
  | fieldValue _ value => exact value.opens
  | firstKey => exact ⟨_, _, rfl, rfl⟩
  | nextKey => exact ⟨_, _, rfl, rfl⟩
  | endArray => exact ⟨_, _, rfl, rfl⟩
  | endObject => exact ⟨_, _, rfl, rfl⟩

end Text

/-- Between the quote at `place` and the first bare quote after it stands `raw`. -/
structure Quoted (bytes : List UInt8) (place : Nat) (raw : String) : Prop where
  opening : bytes[place]? = some 0x22
  slice : (bytes.drop (place + 1)).take (Utf8.encode raw).length = Utf8.encode raw
  closing : BareQuote bytes (place + 1 + (Utf8.encode raw).length)
  first : ∀ i, place < i → i < place + 1 + (Utf8.encode raw).length → ¬BareQuote bytes i

/-- **A literal is quoted**, wherever it stands. -/
theorem quoted_literal {raw : String} (h : Body raw.toList) (front rest : List UInt8) :
    Quoted (front ++ (literal raw ++ rest)) front.length raw := by
  have hsplit : front ++ (literal raw ++ rest) = (front ++ [0x22]) ++ (Utf8.encode raw ++ 0x22 :: rest) := by
    simp [literal]
  have hplace : (front ++ [(0x22 : UInt8)]).length = front.length + 1 := by simp
  have hwait : waiting (front ++ [0x22]) = false := by simp [waiting_concat]
  obtain ⟨hquote, hfirst⟩ := firstBareQuote_of_bodyLength (h.bodyLength 0 rest)
  rw [hsplit]
  refine ⟨by simp, ?_, ?_, fun i hlow hhigh hi => ?_⟩
  · rw [← hplace, List.drop_left, List.take_left]
  · rw [← hplace, bareQuote_append hwait]
    exact hquote
  · obtain ⟨j, rfl⟩ := Nat.exists_eq_add_of_le (Nat.succ_le_of_lt hlow)
    rw [Nat.succ_eq_add_one, ← hplace, bareQuote_append hwait] at hi
    exact hfirst j (show j < (Utf8.encode raw).length by omega) hi

/-! ### Tokens in a row -/

theorem step_passes {frames : List Frame} {c : Cursor} {s : Step} (h : step frames c = some (.ok s)) :
    c.offset ≤ s.token.offset ∧ s.token.offset < s.cursor.offset ∧
      s.cursor.offset + s.cursor.rest.length = c.offset + c.rest.length := by
  obtain ⟨lead, text, hat, hoffset, hstep, -⟩ := step_text h
  have hpos := hstep.length_pos
  have hplace := hat.place
  rw [List.length_append] at hplace
  exact ⟨by omega, by omega, hat.end_eq⟩

/-- **Tokens stand one behind the other** in the text that is left. -/
theorem ordered_of_tokensFrom {rounds : Nat} {frames : List Frame} {c : Cursor} {toks : List Token}
    {tail : Tokens} (h : tokensFrom rounds frames c = toks.map .ok ++ tail) :
    toks.Pairwise (fun t u => t.offset < u.offset) ∧
      ∀ t ∈ toks, c.offset ≤ t.offset ∧ t.offset < c.offset + c.rest.length := by
  induction toks generalizing rounds frames c with
  | nil => simp
  | cons t toks ih =>
    cases rounds with
    | zero => cases h
    | succ rounds =>
      rw [tokensFrom] at h
      split at h
      · cases h
      · cases h
      · next s hs =>
        obtain ⟨ht, hrest⟩ := List.cons.inj h
        obtain rfl := Except.ok.inj ht
        obtain ⟨hfrom, hpast, hend⟩ := step_passes hs
        obtain ⟨hpairwise, hwithin⟩ := ih hrest
        refine ⟨List.pairwise_cons.2 ⟨fun u hu => ?_, hpairwise⟩, fun u hu => ?_⟩
        · have hlow := (hwithin u hu).1
          omega
        · rcases List.mem_cons.1 hu with rfl | hu
          · omega
          · have hu := hwithin u hu
            omega

theorem length_le_of_increasing {ks : List Nat} {n : Nat} (h : ks.Pairwise (· < ·)) (hn : ∀ k ∈ ks, k < n) :
    ks.length ≤ n := by
  have hnodup : ks.Nodup := h.imp Nat.ne_of_lt
  have hsub := hnodup.subperm fun k hk => List.mem_range.2 (hn k hk)
  simpa using hsub.length_le

/-- **Every token stands where its offset says.** -/
theorem stands_of_mem {bytes : List UInt8} {t : Token} (h : .ok t ∈ tokenize bytes) :
    (∃ b, bytes[t.offset]? = some b ∧ t.lexeme.OpensWith b) ∧
      ∀ raw, t.lexeme = .string raw ∨ t.lexeme = .key raw → Quoted bytes t.offset raw := by
  obtain ⟨front, text, rest, hsplit, hoffset, ⟨_, _, _, hstep⟩, -⟩ := source_of_mem h
  obtain rfl : bytes = front ++ (text ++ rest) := hsplit
  have hoffset : t.offset = front.length := hoffset.trans (Nat.zero_add _)
  rw [hoffset]
  refine ⟨?_, fun raw hraw => ?_⟩
  · obtain ⟨b, more, rfl, hb⟩ := hstep.opens
    exact ⟨b, by simp, hb⟩
  · obtain ⟨more, rfl, hbody⟩ := hstep.literal_inv hraw
    rw [List.append_assoc]
    exact quoted_literal hbody front (more ++ rest)

/-- **The offsets of the tokens of any text increase, and every token stands where its offset says**: the
byte there is one that starts a token of its kind, and what a string or a key says is what stands there
between the quotes. So there are no more tokens than bytes. -/
theorem tokens_placed (bytes : List UInt8) :
    ∃ (toks : List Token) (tail : Tokens), tokenize bytes = toks.map .ok ++ tail ∧
      (tail = [] ∨ ∃ e, tail = [.error e]) ∧ toks.Pairwise (fun t u => t.offset < u.offset) ∧
      (∀ t ∈ toks, t.offset < bytes.length ∧ (∃ b, bytes[t.offset]? = some b ∧ t.lexeme.OpensWith b) ∧
        ∀ raw, t.lexeme = .string raw ∨ t.lexeme = .key raw → Quoted bytes t.offset raw) ∧
      toks.length ≤ bytes.length := by
  obtain ⟨toks, tail, htokens, hnested⟩ := tokenize_nested bytes
  obtain ⟨hordered, hwithin⟩ := ordered_of_tokensFrom htokens
  have hbelow : ∀ t ∈ toks, t.offset < bytes.length := fun t ht => by simpa using (hwithin t ht).2
  refine ⟨toks, tail, htokens, hnested.ends, hordered, fun t ht => ⟨hbelow t ht, ?_⟩, ?_⟩
  · exact stands_of_mem (by simp [htokens, ht])
  · have hoffsets : (toks.map Token.offset).Pairwise (· < ·) := List.pairwise_map.2 hordered
    have hall : ∀ k ∈ toks.map Token.offset, k < bytes.length := by
      intro k hk
      obtain ⟨t, ht, rfl⟩ := List.mem_map.1 hk
      exact hbelow t ht
    simpa using length_le_of_increasing hoffsets hall

/-- An object whose key has a quote and a backslash in it. -/
def escapedKey : List UInt8 := Utf8.encode "\x7b\"a\\\"\\\\\": -1\x7d"

theorem tokenize_escapedKey : tokenize escapedKey = [.ok ⟨0, .startObject⟩, .ok ⟨1, .key "a\\\"\\\\"⟩,
    .ok ⟨10, .number (.negative (-1))⟩, .ok ⟨12, .endObject⟩] := by
  decide +kernel

theorem escapedKey_placed : escapedKey.length = 13 ∧ Quoted escapedKey 1 "a\\\"\\\\" := by
  obtain ⟨toks, tail, htokens, hends, -, hplaced, -⟩ := tokens_placed escapedKey
  have hmem : .ok ⟨1, .key "a\\\"\\\\"⟩ ∈ toks.map Except.ok ++ tail := by
    simp [← htokens, tokenize_escapedKey]
  have htoks : (⟨1, .key "a\\\"\\\\"⟩ : Token) ∈ toks := by
    rcases hends with rfl | ⟨e, rfl⟩ <;> simpa using hmem
  exact ⟨by decide, (hplaced _ htoks).2.2 _ (.inr rfl)⟩

end WireShapes.Json
