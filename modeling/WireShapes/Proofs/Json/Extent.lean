import WireShapes.Proofs.Json.Skipping

/-!
How far readers read.

* `Reader.Stays`, `Skips`, `Passes`, `Closes`: a reader takes no token, one value, whole values, or the
  rest of the container that is open
* `Reader.Skips.bind` and its companions: how far readers in a row read
* `Reader.skips_string` and its companions: readers of simple values read one value
* `Reader.Steady`: what a reader reads depends on what the tokens that it takes say, and on nothing else;
  `Reader.steady_string` and its companions: so it is with simple values
-/

namespace WireShapes.Json.Reader

variable {α β : Type}

/-- The reader takes no token. -/
def Stays (x : Reader α) : Prop := ∀ ts a rest, x ts = (.ok a, rest) → rest = ts

/-- What the reader reads is one value: it takes the tokens that would be skipped. -/
def Skips (x : Reader α) : Prop := ∀ ts a rest, x ts = (.ok a, rest) → skipValue ts = (.ok (), rest)

/-- What the reader reads leaves the container open that is open. -/
def Passes (x : Reader α) : Prop := ∀ ts a rest, x ts = (.ok a, rest) → skipTokens 1 ts = skipTokens 1 rest

/-- The reader takes the rest of the container that is open. -/
def Closes (x : Reader α) : Prop := ∀ ts a rest, x ts = (.ok a, rest) → skipTokens 1 ts = (.ok (), rest)

theorem stays_pure (a : α) : Stays (pure a : Reader α) := by
  intro ts b rest h
  cases h
  rfl

theorem stays_failWith (e : ReadError) : Stays (failWith e : Reader α) := by
  intro ts b rest h
  cases h

theorem Stays.bind {x : Reader α} {f : α → Reader β} (hx : Stays x) (hf : ∀ a, Stays (f a)) :
    Stays (x >>= f) := by
  intro ts b rest h
  obtain ⟨a, more, ha, hb⟩ := bind_eq_ok h
  rw [hf a more b rest hb, hx ts a more ha]

theorem Skips.bind {x : Reader α} {f : α → Reader β} (hx : Skips x) (hf : ∀ a, Stays (f a)) :
    Skips (x >>= f) := by
  intro ts b rest h
  obtain ⟨a, more, ha, hb⟩ := bind_eq_ok h
  rw [hf a more b rest hb, hx ts a more ha]

theorem Closes.bind {x : Reader α} {f : α → Reader β} (hx : Closes x) (hf : ∀ a, Stays (f a)) :
    Closes (x >>= f) := by
  intro ts b rest h
  obtain ⟨a, more, ha, hb⟩ := bind_eq_ok h
  rw [hf a more b rest hb, hx ts a more ha]

theorem Passes.closes {x : Reader α} {f : α → Reader β} (hx : Passes x) (hf : ∀ a, Closes (f a)) :
    Closes (x >>= f) := by
  intro ts b rest h
  obtain ⟨a, more, ha, hb⟩ := bind_eq_ok h
  rw [hx ts a more ha, hf a more b rest hb]

theorem Stays.passes {x : Reader α} (h : Stays x) : Passes x := by
  intro ts a rest ha
  rw [h ts a rest ha]

theorem Skips.passes {x : Reader α} (h : Skips x) : Passes x :=
  fun ts a rest ha => skipTokens_of_skipValue (h ts a rest ha) 0

theorem skips_skipValue : Skips skipValue := fun _ _ _ h => h

theorem closes_failWith (e : ReadError) : Closes (failWith e : Reader α) := by
  intro ts b rest h
  cases h

/-! ### After a token -/

/-- With the token in front, the reader reads one value. -/
def SkipsAfter (t : Token) (x : Reader α) : Prop :=
  ∀ ts a rest, x ts = (.ok a, rest) → skipValue (.ok t :: ts) = (.ok (), rest)

/-- With the token in front, the reader takes the rest of the container that is open. -/
def ClosesAfter (t : Token) (x : Reader α) : Prop :=
  ∀ ts a rest, x ts = (.ok a, rest) → skipTokens 1 (.ok t :: ts) = (.ok (), rest)

theorem skips_token {f : Token → Reader α} (h : ∀ t, SkipsAfter t (f t)) : Skips (token >>= f) := by
  intro ts a rest ha
  obtain ⟨t, more, ht, hf⟩ := bind_eq_ok ha
  obtain rfl := token_eq_ok ht
  exact h t more a rest hf

theorem closes_token {f : Token → Reader α} (h : ∀ t, ClosesAfter t (f t)) : Closes (token >>= f) := by
  intro ts a rest ha
  obtain ⟨t, more, ht, hf⟩ := bind_eq_ok ha
  obtain rfl := token_eq_ok ht
  exact h t more a rest hf

/-- The token is a whole value. -/
theorem Stays.skipsAfter {x : Reader α} (hx : Stays x) (tree : Tree) {t : Token}
    (ht : tree.lexemes = [t.lexeme]) : SkipsAfter t x := by
  intro ts a rest h
  rw [hx ts a rest h]
  exact tree.reads_skipValue [t] ts ht.symm

/-- The token starts a container, which the reader takes the rest of. -/
theorem Closes.skipsAfter {x : Reader α} (hx : Closes x) {t : Token}
    (ht : t.lexeme = .startArray ∨ t.lexeme = .startObject) : SkipsAfter t x := by
  intro ts a rest h
  have hclose := hx ts a rest h
  unfold skipValue
  rw [bind_of_ok (token_apply t ts)]
  rcases ht with ht | ht <;> rw [ht] <;> exact hclose

theorem skipsAfter_failWith (t : Token) (e : ReadError) : SkipsAfter t (failWith e : Reader α) := by
  intro ts a rest h
  cases h

theorem Stays.closesAfter {x : Reader α} (hx : Stays x) {t : Token} (ht : t.lexeme.delta = -1) :
    ClosesAfter t x := by
  intro ts a rest h
  rw [hx ts a rest h, skipTokens_token (k := 0) (by rw [ht]; rfl), skipTokens_zero]

theorem Closes.closesAfter {x : Reader α} (hx : Closes x) {t : Token} (ht : t.lexeme.delta = 0) :
    ClosesAfter t x := by
  intro ts a rest h
  rw [skipTokens_token (k := 1) (by rw [ht]; rfl)]
  exact hx ts a rest h

theorem closesAfter_failWith (t : Token) (e : ReadError) : ClosesAfter t (failWith e : Reader α) := by
  intro ts a rest h
  cases h

/-- A look at what comes next takes nothing away and does not fail. -/
theorem peek_eq_ok (ts : Tokens) : ∃ x, peek ts = (.ok x, ts) := by
  unfold peek
  split <;> exact ⟨_, rfl⟩

theorem peek_eq_some {ts : Tokens} {x : Lexeme} (h : peek ts = (.ok (some x), ts)) :
    ∃ t more, ts = .ok t :: more ∧ t.lexeme = x := by
  unfold peek at h
  split at h
  · next t more => exact ⟨t, more, rfl, by simpa using congrArg Prod.fst h⟩
  · cases h

theorem next_apply (t : Token) (rest : Tokens) : next (.ok t :: rest) = (.ok (some t), rest) := rfl

/-- Where the given lexeme comes next, the reader takes the rest of the container that is open. -/
def ClosesAhead (x : Option Lexeme) (r : Reader α) : Prop :=
  ∀ ts a rest, peek ts = (.ok x, ts) → r ts = (.ok a, rest) → skipTokens 1 ts = (.ok (), rest)

theorem Closes.closesAhead {r : Reader α} (hr : Closes r) (x : Option Lexeme) : ClosesAhead x r :=
  fun ts a rest _ h => hr ts a rest h

theorem closes_peek {f : Option Lexeme → Reader α} (h : ∀ x, ClosesAhead x (f x)) :
    Closes (peek >>= f) := by
  intro ts a rest ha
  obtain ⟨x, hpeek⟩ := peek_eq_ok ts
  rw [bind_of_ok hpeek] at ha
  exact h x ts a rest hpeek ha

theorem closesAhead_next {x : Lexeme} {f : Option Token → Reader α}
    (h : ∀ t, t.lexeme = x → ClosesAfter t (f (some t))) : ClosesAhead (some x) (next >>= f) := by
  intro ts a rest hpeek ha
  obtain ⟨t, more, rfl, ht⟩ := peek_eq_some hpeek
  rw [bind_of_ok (next_apply t more)] at ha
  exact h t ht more a rest ha

/-! ### Simple values -/

theorem stays_unescaped (raw : String) : Stays (unescaped raw) := by
  unfold unescaped
  split
  · exact stays_pure _
  · exact stays_failWith _

theorem skips_rawString : Skips rawString := by
  refine skips_token fun t => ?_
  split
  · next hx => exact (stays_pure _).skipsAfter .null (by rw [hx]; rfl)
  · next raw hx => exact (stays_pure _).skipsAfter (.string raw) (by rw [hx]; rfl)
  · exact skipsAfter_failWith _ _

theorem skips_string : Skips Reader.string := by
  refine skips_rawString.bind fun r => ?_
  split
  · exact stays_pure _
  · exact (stays_unescaped _).bind fun _ => stays_pure _

theorem skips_blob : Skips blob := by
  refine skips_rawString.bind fun r => ?_
  split
  · exact stays_pure _
  · split
    · exact stays_pure _
    · exact stays_failWith _

theorem skips_number : Skips number := by
  refine skips_token fun t => ?_
  split
  · next hx => exact (stays_pure _).skipsAfter .null (by rw [hx]; rfl)
  · next n hx => exact (stays_pure _).skipsAfter (.number n) (by rw [hx]; rfl)
  · next raw hx =>
    split
    · exact (stays_pure _).skipsAfter (.string raw) (by rw [hx]; rfl)
    · exact skipsAfter_failWith _ _
  · exact skipsAfter_failWith _ _

theorem skips_bool : Skips bool := by
  refine skips_token fun t => ?_
  split
  · next hx => exact (stays_pure _).skipsAfter .null (by rw [hx]; rfl)
  · next b hx => exact (stays_pure _).skipsAfter (.bool b) (by rw [hx]; rfl)
  · exact skipsAfter_failWith _ _

/-! ### What counts of the tokens -/

/-- What the reader reads, it reads of all tokens that say the same as those it takes, wherever these
stand and whatever comes after them. -/
def Steady (x : Reader α) : Prop :=
  ∀ ts a rest, x ts = (.ok a, rest) →
    ∃ toks : List Token, ts = toks.map .ok ++ rest ∧ x.Reads (toks.map Token.lexeme) a

theorem steady_pure (a : α) : Steady (pure a : Reader α) := by
  intro ts b rest h
  cases h
  exact ⟨[], rfl, reads_pure a⟩

theorem steady_failWith (e : ReadError) : Steady (failWith e : Reader α) := by
  intro ts b rest h
  cases h

theorem Steady.bind {x : Reader α} {f : α → Reader β} (hx : Steady x) (hf : ∀ a, Steady (f a)) :
    Steady (x >>= f) := by
  intro ts b rest h
  obtain ⟨a, more, ha, hb⟩ := bind_eq_ok h
  obtain ⟨first, rfl, hfirst⟩ := hx ts a more ha
  obtain ⟨last, rfl, hlast⟩ := hf a more b rest hb
  refine ⟨first ++ last, by rw [List.map_append, List.append_assoc], ?_⟩
  rw [List.map_append]
  exact hfirst.bind hlast

/-- What is read of no token at all, is read everywhere. -/
theorem Steady.reads_nil {x : Reader α} (hx : Steady x) (hs : Stays x) {ts rest : Tokens} {a : α}
    (h : x ts = (.ok a, rest)) : x.Reads [] a := by
  obtain ⟨toks, htoks, hread⟩ := hx ts a rest h
  rw [hs ts a rest h, List.self_eq_append_left, List.map_eq_nil_iff] at htoks
  rwa [htoks] at hread

/-- After a token of which only the lexeme counts. -/
theorem steady_token {f : Token → Reader α} (hf : ∀ t, Steady (f t))
    (same : ∀ t t' : Token, t.lexeme = t'.lexeme → ∀ xs a, (f t).Reads xs a → (f t').Reads xs a) :
    Steady (token >>= f) := by
  intro ts a rest h
  obtain ⟨t, more, ht, ha⟩ := bind_eq_ok h
  obtain rfl := token_eq_ok ht
  obtain ⟨toks, rfl, hread⟩ := hf t more a rest ha
  exact ⟨t :: toks, rfl, Reads.token fun t' ht' => same t t' ht'.symm _ _ hread⟩

theorem not_reads_failWith {e : ReadError} {xs : List Lexeme} {a : α} :
    ¬(failWith e : Reader α).Reads xs a := by
  intro h
  cases h (xs.map (Token.mk 0)) [] (by simp [Function.comp_def])

theorem steady_unescaped (raw : String) : Steady (unescaped raw) := by
  unfold unescaped
  split
  · exact steady_pure _
  · exact steady_failWith _

theorem string_eq : Reader.string = (do
    let t ← token
    match t.lexeme with
    | .null => return none
    | .string raw => return some (← unescaped raw)
    | _ => notWanted t .string) := by
  unfold Reader.string rawString
  rw [bind_assoc]
  refine bind_congr fun t => ?_
  cases t.lexeme <;> rfl

theorem steady_string : Steady Reader.string := by
  rw [string_eq]
  refine steady_token (fun t => ?_) fun t t' h xs a => ?_
  · split
    · exact steady_pure _
    · exact (steady_unescaped _).bind fun _ => steady_pure _
    · exact steady_failWith _
  · rw [h]
    split
    · exact id
    · exact id
    · exact fun hread => absurd hread not_reads_failWith

theorem steady_number : Steady number := by
  refine steady_token (fun t => ?_) fun t t' h xs a => ?_
  · split
    · exact steady_pure _
    · exact steady_pure _
    · split
      · exact steady_pure _
      · exact steady_failWith _
    · exact steady_failWith _
  · rw [h]
    split
    · exact id
    · exact id
    · split
      · exact id
      · exact fun hread => absurd hread not_reads_failWith
    · exact fun hread => absurd hread not_reads_failWith

theorem steady_bool : Steady bool := by
  refine steady_token (fun t => ?_) fun t t' h xs a => ?_
  · split
    · exact steady_pure _
    · exact steady_pure _
    · exact steady_failWith _
  · rw [h]
    split
    · exact id
    · exact id
    · exact fun hread => absurd hread not_reads_failWith

end WireShapes.Json.Reader
