import WireShapes.Proofs.Json.Skipping

/-!
Places among the tokens of a text.

* `nested_of_suffix`: wherever one is among the tokens of a text, those that follow are nested in some
  containers
* `OneValue ts rest`: from `ts` to `rest` there is exactly one value
* `Cut xs ys`: a container cut in two between its entries
* `itemLexemes_split`, `entryLexemes_split`: whole entries in front of a container are its first ones
* `skipToEnd_iff`: from between two entries, all up to the end of the same container is skipped
-/

namespace WireShapes.Json

open Reader

/-! ### Tokens from a place on -/

theorem nested_of_tokensFrom {rounds : Nat} {frames : List Frame} {c : Cursor} {before ts : Tokens}
    (hrounds : c.rest.length < rounds) (hframes : frames.length ≤ maxDepth)
    (h : before ++ ts = tokensFrom rounds frames c) :
    ∃ (inner : List Frame) (toks : List Token) (tail : Tokens), ts = toks.map .ok ++ tail ∧
      Nested inner toks tail := by
  induction before generalizing rounds frames c with
  | nil =>
    obtain ⟨toks, tail, htokens, hnested⟩ := tokensFrom_nested hrounds hframes
    exact ⟨frames, toks, tail, h.trans htokens, hnested⟩
  | cons first before ih =>
    cases rounds with
    | zero => exact absurd hrounds (Nat.not_lt_zero _)
    | succ rounds =>
      rw [tokensFrom] at h
      split at h
      · cases h
      · next e hstep =>
        -- after a failure there is nothing, and nothing is open
        obtain ⟨-, rfl⟩ := List.append_eq_nil_iff.1 (List.cons.inj h).2
        exact ⟨[], [], [], rfl, nested_nil (Nat.zero_le _) (.inl ⟨rfl, rfl⟩)⟩
      · next s hstep =>
        have hshorter := step_shorter hstep
        exact ih (c := s.cursor) (by omega) ((step_transition hstep).length_le hframes)
          (List.cons.inj h).2

/-- **From any place on, the tokens of a text are nested in the containers that are open there.** -/
theorem nested_of_suffix {text : List UInt8} {ts : Tokens} (h : ts <:+ tokenize text) :
    ∃ (frames : List Frame) (toks : List Token) (tail : Tokens), ts = toks.map .ok ++ tail ∧
      Nested frames toks tail := by
  obtain ⟨before, hbefore⟩ := h
  exact nested_of_tokensFrom (Nat.lt_succ_self _) (Nat.zero_le _) hbefore

/-! ### One value -/

/-- From the tokens `ts` to the tokens `rest` there is exactly one value: it is what is skipped, and what
stands there are the lexemes of a value. -/
def OneValue (ts rest : Tokens) : Prop :=
  skipValue ts = (.ok (), rest) ∧
    ∃ (t : Tree) (toks : List Token), ts = toks.map .ok ++ rest ∧ toks.map Token.lexeme = t.lexemes

theorem oneValue_of_skipValue {text : List UInt8} {ts rest : Tokens} (position : ts <:+ tokenize text)
    (h : skipValue ts = (.ok (), rest)) : OneValue ts rest := by
  obtain ⟨frames, toks, tail, rfl, hnested⟩ := nested_of_suffix position
  exact ⟨h, hnested.value_of_skipValue h⟩

/-! ### The rest of a container -/

/-- A container cut in two between its entries: `xs` starts it and ends with a whole entry, `ys` has the
other entries and the end. -/
inductive Cut : List Lexeme → List Lexeme → Prop
  | array (done left : List Tree) :
      Cut (.startArray :: itemLexemes done) (itemLexemes left ++ [.endArray])
  | object (done left : List (String × Tree)) :
      Cut (.startObject :: entryLexemes done) (entryLexemes left ++ [.endObject])

/-- Whole items in front of the end of an array are its first items. -/
theorem itemLexemes_split {done items : List Tree} {xs ys : List Lexeme}
    (h : itemLexemes done ++ xs = itemLexemes items ++ .endArray :: ys) :
    ∃ left, items = done ++ left ∧ xs = itemLexemes left ++ .endArray :: ys := by
  induction done generalizing items with
  | nil => exact ⟨items, rfl, h⟩
  | cons t done ih =>
    cases items with
    | nil =>
      obtain ⟨x, more, hx, hend, -⟩ := t.lexemes_start
      simp only [itemLexemes, hx, List.cons_append, List.nil_append, List.cons.injEq] at h
      exact absurd h.1 hend
    | cons u items =>
      simp only [itemLexemes, List.append_assoc] at h
      obtain ⟨rfl, hrest⟩ := t.lexemes_append_inj u _ _ h
      obtain ⟨left, rfl, hleft⟩ := ih hrest
      exact ⟨left, rfl, hleft⟩

theorem entryLexemes_split {done entries : List (String × Tree)} {xs ys : List Lexeme}
    (h : entryLexemes done ++ xs = entryLexemes entries ++ .endObject :: ys) :
    ∃ left, entries = done ++ left ∧ xs = entryLexemes left ++ .endObject :: ys := by
  induction done generalizing entries with
  | nil => exact ⟨entries, rfl, h⟩
  | cons e done ih =>
    obtain ⟨raw, t⟩ := e
    cases entries with
    | nil => simp [entryLexemes] at h
    | cons e' entries =>
      obtain ⟨raw', u⟩ := e'
      simp only [entryLexemes, List.cons_append, List.append_assoc, List.cons.injEq,
        Lexeme.key.injEq] at h
      obtain ⟨rfl, h⟩ := h
      obtain ⟨rfl, hrest⟩ := t.lexemes_append_inj u _ _ h
      obtain ⟨left, rfl, hleft⟩ := ih hrest
      exact ⟨left, rfl, hleft⟩

theorem Cut.reads_skipToEnd {xs ys : List Lexeme} (h : Cut xs ys) : skipToEnd.Reads ys () := by
  cases h with
  | array done left => exact Json.reads_skipToEnd rfl (passed_items fun u _ => u.passed)
  | object done left => exact Json.reads_skipToEnd rfl (passed_entries fun u _ => u.passed)

/-- With the start of a container in front, what is skipped up to its end is a value. -/
theorem skipValue_of_skipToEnd {closing : List Token}
    (h : ∀ k more, skipTokens (1 + k) (closing.map .ok ++ more) = skipTokens k more) {start : Token}
    (hstart : start.lexeme = .startArray ∨ start.lexeme = .startObject) (more : Tokens) :
    skipValue ((start :: closing).map .ok ++ more) = (.ok (), more) := by
  have hclose : skipTokens 1 (closing.map .ok ++ more) = (.ok (), more) :=
    (h 0 more).trans (skipTokens_zero more)
  rw [List.map_cons, List.cons_append, skipValue, bind_of_ok (token_apply start _)]
  rcases hstart with hx | hx <;> rw [hx] <;> exact hclose

theorem lexemes_of_cons {t : Tree} {x : Lexeme} {xs more : List Lexeme} (h : x :: xs = t.lexemes ++ more) :
    ∃ zs, t.lexemes = x :: zs ∧ xs = zs ++ more := by
  obtain ⟨y, zs, hy, -⟩ := t.lexemes_start
  rw [hy, List.cons_append, List.cons.injEq] at h
  exact ⟨zs, by rw [hy, h.1], h.2⟩

/-- What is skipped from between two entries of a container is the rest of that container: the kinds of
the brackets, which are not looked at, match. -/
theorem Nested.cut_of_skipToEnd {frames : List Frame} {opened closing left : List Token} {tail : Tokens}
    (hnested : Nested frames (opened ++ (closing ++ left)) tail) {ys : List Lexeme}
    (hopened : Cut (opened.map Token.lexeme) ys)
    (hskip : ∀ k more, skipTokens (1 + k) (closing.map .ok ++ more) = skipTokens k more) :
    Cut (opened.map Token.lexeme) (closing.map Token.lexeme) := by
  obtain ⟨more, hmore⟩ := hnested.continues
  rw [List.map_append, List.map_append, List.append_assoc, List.append_assoc] at hmore
  generalize opened.map Token.lexeme = xs at hopened hmore
  cases hopened with
  | array done =>
    obtain ⟨t, after, ht⟩ := hmore.value ⟨by simp, by simp, by simp⟩
    obtain ⟨zs, hzs, hafter⟩ := lexemes_of_cons ht
    obtain ⟨items, rfl, rfl⟩ := Tree.array_of_lexemes hzs
    rw [List.append_assoc] at hafter
    obtain ⟨rest, -, hrest⟩ := itemLexemes_split hafter
    -- the items that are left and the end, read as an array of their own
    have hvalue : ((⟨0, .startArray⟩ :: closing : List Token).map Token.lexeme) ++
        (left.map Token.lexeme ++ more) = (Tree.array rest).lexemes ++ after := by
      simp [Tree.lexemes, hrest]
    have hlex := lexemes_of_skips (skipValue_of_skipToEnd hskip (.inl rfl)) hvalue
    rw [List.map_cons, Tree.lexemes, List.cons.injEq] at hlex
    rw [hlex.2]
    exact .array done rest
  | object done =>
    obtain ⟨t, after, ht⟩ := hmore.value ⟨by simp, by simp, by simp⟩
    obtain ⟨zs, hzs, hafter⟩ := lexemes_of_cons ht
    obtain ⟨entries, rfl, rfl⟩ := Tree.object_of_lexemes hzs
    rw [List.append_assoc] at hafter
    obtain ⟨rest, -, hrest⟩ := entryLexemes_split hafter
    have hvalue : ((⟨0, .startObject⟩ :: closing : List Token).map Token.lexeme) ++
        (left.map Token.lexeme ++ more) = (Tree.object rest).lexemes ++ after := by
      simp [Tree.lexemes, hrest]
    have hlex := lexemes_of_skips (skipValue_of_skipToEnd hskip (.inr rfl)) hvalue
    rw [List.map_cons, Tree.lexemes, List.cons.injEq] at hlex
    rw [hlex.2]
    exact .object done rest

/-- **From between two entries of a container, all up to the end of that container is skipped**, and
nothing else: wherever the container stands in the text and whatever lies in it. -/
theorem skipToEnd_iff {text : List UInt8} {opened : List Token} {inner : Tokens}
    (position : opened.map .ok ++ inner <:+ tokenize text) {ys : List Lexeme}
    (hopened : Cut (opened.map Token.lexeme) ys) (rest : Tokens) :
    skipToEnd inner = (.ok (), rest) ↔ ∃ closing : List Token,
      inner = closing.map .ok ++ rest ∧ Cut (opened.map Token.lexeme) (closing.map Token.lexeme) := by
  constructor
  · intro h
    obtain ⟨frames, toks, tail, htoks, hnested⟩ := nested_of_suffix position
    obtain ⟨closing, rfl, hskip⟩ := skipTokens_eq_ok h
    have hfront : toks.map .ok ++ tail = (opened ++ closing).map .ok ++ rest := by
      rw [← htoks, List.map_append, List.append_assoc]
    obtain ⟨left, rfl, -⟩ := hnested.front hfront
    rw [List.append_assoc] at hnested
    exact ⟨closing, rfl, hnested.cut_of_skipToEnd hopened hskip⟩
  · rintro ⟨closing, rfl, hcut⟩
    exact hcut.reads_skipToEnd closing rest rfl

end WireShapes.Json
