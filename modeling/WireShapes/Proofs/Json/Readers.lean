import WireShapes.Json.Reader
import WireShapes.Proofs.Json.Literals

/-!
How readers run.

* `Reader.bind_apply`, `pure_apply`: one reader after the other
* `Reader.Yields x P`: whatever `x` reads without a failure has the property `P`
* `Reader.Yields.bind` and its companions: the property of what readers in a row yield
* `Reader.Reads x xs a`: from tokens that say `xs`, `x` reads `a` and leaves what comes after them
* `Reader.Reads.bind` and its companions: what readers in a row read
* `IntWidth.fits_of_ofNumber`: a number that is narrowed to a width fits into it
-/

namespace WireShapes

theorem IntWidth.bound_pos (w : IntWidth) : 0 < w.bound := Nat.pow_pos (by decide)

theorem IntWidth.fits_of_ofNumber {w : IntWidth} {x : Number} {k : Int} (h : w.ofNumber x = .ok k) :
    w.fits k = true := by
  have hb := w.bound_pos
  have check : ∀ {j : Int}, (if w.fits j then Except.ok j else
      Except.error (.outOfRange x.text w.typeName) : Except NarrowError Int) = .ok k →
      w.fits k = true := by
    intro j hj
    split at hj
    · next hf => exact Except.ok.inj hj ▸ hf
    · cases hj
  unfold IntWidth.ofNumber at h
  cases x with
  | natural n => exact check h
  | negative n => exact check h
  | real x =>
    dsimp only at h
    split at h
    · cases h
    split at h
    · cases h
    have hk := Except.ok.inj h
    subst hk
    unfold Double.truncate IntWidth.fits
    simp only [Bool.and_eq_true, decide_eq_true_eq]
    split
    · omega
    · split
      · split <;> omega
      · omega

namespace Json.Reader

variable {α β : Type}

/-! ### One reader after the other -/

theorem bind_apply (x : Reader α) (f : α → Reader β) (ts : Tokens) :
    (x >>= f) ts = match x ts with
      | (.ok a, rest) => f a rest
      | (.error e, rest) => (.error e, rest) := by
  simp only [bind, ExceptT.bind, ExceptT.mk, StateT.bind, ExceptT.bindCont]
  rcases x ts with ⟨_ | _, _⟩ <;> rfl

@[simp] theorem pure_apply (a : α) (ts : Tokens) : (pure a : Reader α) ts = (.ok a, ts) := rfl

@[simp] theorem failWith_apply (e : ReadError) (ts : Tokens) :
    (failWith e : Reader α) ts = (.error e, ts) := rfl

theorem bind_of_ok {x : Reader α} {ts rest : Tokens} {a : α} (h : x ts = (.ok a, rest))
    (f : α → Reader β) : (x >>= f) ts = f a rest := by
  rw [bind_apply, h]

theorem bind_eq_ok {x : Reader α} {f : α → Reader β} {ts rest : Tokens} {b : β}
    (h : (x >>= f) ts = (.ok b, rest)) :
    ∃ a more, x ts = (.ok a, more) ∧ f a more = (.ok b, rest) := by
  rw [bind_apply] at h
  split at h
  · next a more hx => exact ⟨a, more, hx, h⟩
  · cases h

/-! ### What readers yield -/

/-- Whatever the reader reads without a failure has the property. -/
def Yields (x : Reader α) (P : α → Prop) : Prop := ∀ ts a rest, x ts = (.ok a, rest) → P a

theorem Yields.bind {x : Reader α} {f : α → Reader β} {Q : α → Prop} {P : β → Prop}
    (hx : Yields x Q) (hf : ∀ a, Q a → Yields (f a) P) : Yields (x >>= f) P := by
  intro ts b rest h
  obtain ⟨a, more, ha, hb⟩ := bind_eq_ok h
  exact hf a (hx ts a more ha) more b rest hb

theorem Yields.of_all {x : Reader α} : Yields x fun _ => True := fun _ _ _ _ => trivial

/-- Nothing is asked of what the first reader reads. -/
theorem Yields.seq {x : Reader α} {f : α → Reader β} {P : β → Prop} (hf : ∀ a, Yields (f a) P) :
    Yields (x >>= f) P :=
  Yields.of_all.bind fun a _ => hf a

theorem yields_pure {a : α} {P : α → Prop} (h : P a) : Yields (pure a : Reader α) P := by
  intro ts b rest hb
  rw [pure_apply] at hb
  cases hb
  exact h

theorem yields_failWith {e : ReadError} {P : α → Prop} : Yields (failWith e : Reader α) P := by
  intro ts b rest hb
  rw [failWith_apply] at hb
  cases hb

theorem yields_failContent {fault : ContentFault} {P : α → Prop} :
    Yields (failContent fault : Reader α) P := yields_failWith

theorem yields_notWanted {t : Token} {what : Wanted} {P : α → Prop} :
    Yields (notWanted t what : Reader α) P := yields_failWith

/-! ### What readers read -/

/-- From tokens that say `xs` the reader reads `a`, and it leaves what comes after them. -/
def Reads (x : Reader α) (xs : List Lexeme) (a : α) : Prop :=
  ∀ (toks : List Token) (rest : Tokens), toks.map Token.lexeme = xs →
    x (toks.map .ok ++ rest) = (.ok a, rest)

theorem reads_pure (a : α) : Reads (pure a) [] a := by
  intro toks rest h
  rw [List.map_eq_nil_iff.1 h]
  rfl

theorem Reads.bind {x : Reader α} {f : α → Reader β} {xs ys : List Lexeme} {a : α} {b : β}
    (hx : Reads x xs a) (hf : Reads (f a) ys b) : Reads (x >>= f) (xs ++ ys) b := by
  intro toks rest h
  obtain ⟨toks₁, toks₂, rfl, h₁, h₂⟩ := List.map_eq_append_iff.1 h
  rw [List.map_append, List.append_assoc, bind_of_ok (hx toks₁ _ h₁)]
  exact hf toks₂ rest h₂

theorem Reads.map {x : Reader α} {xs : List Lexeme} {a : α} (h : Reads x xs a) (f : α → β) :
    Reads (do return f (← x)) xs (f a) := by
  have := h.bind (f := fun x => pure (f x)) (reads_pure (f a))
  rwa [List.append_nil] at this

theorem Reads.token {f : Token → Reader β} {x : Lexeme} {xs : List Lexeme} {b : β}
    (h : ∀ t : Token, t.lexeme = x → Reads (f t) xs b) : Reads (Reader.token >>= f) (x :: xs) b := by
  intro toks rest hlex
  obtain ⟨t, more, rfl, ht, hmore⟩ := List.map_eq_cons_iff.1 hlex
  have htoken : Reader.token (.ok t :: (more.map .ok ++ rest)) = (.ok t, more.map .ok ++ rest) := rfl
  rw [List.map_cons, List.cons_append, bind_of_ok htoken]
  exact h t ht more rest hmore

theorem Reads.next {f : Option Token → Reader β} {x : Lexeme} {xs : List Lexeme} {b : β}
    (h : ∀ t : Token, t.lexeme = x → Reads (f (some t)) xs b) :
    Reads (Reader.next >>= f) (x :: xs) b := by
  intro toks rest hlex
  obtain ⟨t, more, rfl, ht, hmore⟩ := List.map_eq_cons_iff.1 hlex
  have hnext : Reader.next (.ok t :: (more.map .ok ++ rest)) = (.ok (some t), more.map .ok ++ rest) := rfl
  rw [List.map_cons, List.cons_append, bind_of_ok hnext]
  exact h t ht more rest hmore

theorem Reads.peek {f : Option Lexeme → Reader β} {x : Lexeme} {xs : List Lexeme} {b : β}
    (h : Reads (f (some x)) (x :: xs) b) : Reads (Reader.peek >>= f) (x :: xs) b := by
  intro toks rest hlex
  have := h toks rest hlex
  obtain ⟨t, more, rfl, rfl, hmore⟩ := List.map_eq_cons_iff.1 hlex
  rw [bind_apply]
  exact this

/-- A reader of nested values has as many rounds as the tokens that it reads can need. -/
theorem Reads.rounds {f : Nat → Reader β} {xs : List Lexeme} {b : β}
    (h : ∀ rounds, 2 * xs.length + 2 ≤ rounds → Reads (f rounds) xs b) :
    Reads (Reader.rounds >>= f) xs b := by
  intro toks rest hlex
  rw [bind_apply]
  refine h _ ?_ toks rest hlex
  rw [← hlex]
  simp only [List.length_map, List.length_append]
  omega

theorem reads_unescaped_ok {raw s : String} (h : unescape raw = .ok s) : Reads (unescaped raw) [] s := by
  unfold unescaped
  rw [h]
  exact reads_pure s

theorem reads_unescaped (s : String) : Reads (unescaped (escape s)) [] s :=
  reads_unescaped_ok (unescape_escape s)

theorem rawString_apply {t : Token} {raw : String} (h : t.lexeme = .string raw) (rest : Tokens) :
    rawString (.ok t :: rest) = (.ok (some (t.offset, raw)), rest) := by
  have htoken : Reader.token (.ok t :: rest) = (.ok t, rest) := rfl
  unfold rawString
  rw [bind_of_ok htoken, h]
  rfl

theorem reads_string_ok {raw s : String} (h : unescape raw = .ok s) :
    Reads Reader.string [.string raw] (some s) := by
  intro toks rest hlex
  obtain ⟨t, more, rfl, ht, hmore⟩ := List.map_eq_cons_iff.1 hlex
  rw [List.map_eq_nil_iff.1 hmore]
  unfold Reader.string
  rw [List.map_cons, List.cons_append, bind_of_ok (rawString_apply ht _)]
  exact ((reads_unescaped_ok h).map some) [] rest rfl

theorem reads_string (s : String) : Reads Reader.string [.string (escape s)] (some s) :=
  reads_string_ok (unescape_escape s)

theorem reads_number (n : Number) : Reads Reader.number [.number n] (some n) := by
  refine Reads.token fun t ht => ?_
  rw [ht]
  exact reads_pure (some n)

theorem reads_bool (b : Bool) : Reads Reader.bool [.bool b] (some b) := by
  refine Reads.token fun t ht => ?_
  rw [ht]
  exact reads_pure (some b)

end Json.Reader

end WireShapes
