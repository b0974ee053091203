import WireShapes.Proofs.Json.Nesting
import WireShapes.Proofs.Json.Readers

/-!
Which tokens are passed over when a value is skipped.

* `Tree.children`, `Tree.induct`: induction over values by what lies in them
* `Tree.DistinctKeys`: no object in the value repeats a key
* `Tree.lexemes_append_inj`: the lexemes of a value tell the value and where it ends
* `Passed`, `Tree.passed`: the lexemes of a value leave the number of open containers as it is
* `skipTokens_eq_ok`, `skipValue_eq_ok`: what was skipped is skipped whatever comes after it
* `Tree.reads_skipValue`: from the lexemes of a value exactly these are skipped
* `Nested.value_of_skipValue`: what is skipped among the tokens of a text is a value
* `StartsWith`, `startsWith_of_skipValue`: and so is what is skipped at the start of a text
-/

namespace WireShapes.Json

/-! ### Values and what lies in them -/

/-- What lies directly in a value. -/
def Tree.children : Tree → List Tree
  | .array items => items
  | .object entries => entries.map Prod.snd
  | _ => []

mutual

/-- What passes from all that lies in a value to the value holds of all values. -/
theorem Tree.induct {P : Tree → Prop} (step : ∀ t : Tree, (∀ u ∈ t.children, P u) → P t) :
    ∀ t : Tree, P t
  | .string _ => step _ fun _ h => by simp [Tree.children] at h
  | .number _ => step _ fun _ h => by simp [Tree.children] at h
  | .bool _ => step _ fun _ h => by simp [Tree.children] at h
  | .null => step _ fun _ h => by simp [Tree.children] at h
  | .array items => step _ (Tree.induct_items step items)
  | .object entries => step _ (Tree.induct_entries step entries)

theorem Tree.induct_items {P : Tree → Prop} (step : ∀ t : Tree, (∀ u ∈ t.children, P u) → P t) :
    ∀ items : List Tree, ∀ u ∈ items, P u
  | [] => fun _ h => by simp at h
  | t :: rest => List.forall_mem_cons.2 ⟨Tree.induct step t, Tree.induct_items step rest⟩

theorem Tree.induct_entries {P : Tree → Prop} (step : ∀ t : Tree, (∀ u ∈ t.children, P u) → P t) :
    ∀ entries : List (String × Tree), ∀ u ∈ entries.map Prod.snd, P u
  | [] => fun _ h => by simp at h
  | (_, t) :: rest => List.forall_mem_cons.2 ⟨Tree.induct step t, Tree.induct_entries step rest⟩

end

/-- No two keys of the object denote the same text. -/
def Tree.FreshKeys : Tree → Prop
  | .object entries => entries.Pairwise fun a b => ∀ key, unescape a.1 = .ok key → unescape b.1 ≠ .ok key
  | _ => True

/-- No object in the value repeats a key. -/
inductive Tree.DistinctKeys : Tree → Prop
  | intro {t : Tree} (own : t.FreshKeys) (each : ∀ u ∈ t.children, DistinctKeys u) : DistinctKeys t

/-! ### Where a value ends -/

/-- Items up to the end of an array are told by their lexemes if each of them is. -/
theorem itemLexemes_append_inj {items items' : List Tree} {xs ys : List Lexeme}
    (each : ∀ t ∈ items, ∀ u xs ys, t.lexemes ++ xs = u.lexemes ++ ys → t = u ∧ xs = ys)
    (h : itemLexemes items ++ .endArray :: xs = itemLexemes items' ++ .endArray :: ys) :
    items = items' ∧ xs = ys := by
  induction items generalizing items' with
  | nil =>
    cases items' with
    | nil => simpa [itemLexemes] using h
    | cons u rest =>
      obtain ⟨x, more, hx, hend, -⟩ := u.lexemes_start
      simp only [itemLexemes, hx, List.nil_append, List.cons_append, List.cons.injEq] at h
      exact absurd h.1.symm hend
  | cons t rest ih =>
    cases items' with
    | nil =>
      obtain ⟨x, more, hx, hend, -⟩ := t.lexemes_start
      simp only [itemLexemes, hx, List.nil_append, List.cons_append, List.cons.injEq] at h
      exact absurd h.1 hend
    | cons u rest' =>
      simp only [itemLexemes, List.append_assoc] at h
      obtain ⟨rfl, hrest⟩ := each t (by simp) u _ _ h
      obtain ⟨rfl, hxs⟩ := ih (fun v hv => each v (by simp [hv])) hrest
      exact ⟨rfl, hxs⟩

theorem entryLexemes_append_inj {entries entries' : List (String × Tree)} {xs ys : List Lexeme}
    (each : ∀ t ∈ entries.map Prod.snd, ∀ u xs ys, t.lexemes ++ xs = u.lexemes ++ ys → t = u ∧ xs = ys)
    (h : entryLexemes entries ++ .endObject :: xs = entryLexemes entries' ++ .endObject :: ys) :
    entries = entries' ∧ xs = ys := by
  induction entries generalizing entries' with
  | nil =>
    cases entries' with
    | nil => simpa [entryLexemes] using h
    | cons e rest => simp [entryLexemes] at h
  | cons e rest ih =>
    obtain ⟨raw, t⟩ := e
    cases entries' with
    | nil => simp [entryLexemes] at h
    | cons e' rest' =>
      obtain ⟨raw', u⟩ := e'
      simp only [entryLexemes, List.cons_append, List.append_assoc, List.cons.injEq,
        Lexeme.key.injEq] at h
      obtain ⟨rfl, h⟩ := h
      obtain ⟨rfl, hrest⟩ := each t (by simp) u _ _ h
      obtain ⟨rfl, hxs⟩ := ih (fun v hv => each v (by simp at hv ⊢; exact .inr hv)) hrest
      exact ⟨rfl, hxs⟩

/-- **The lexemes of a value tell the value and where it ends.** -/
theorem Tree.lexemes_append_inj (t : Tree) :
    ∀ (u : Tree) (xs ys : List Lexeme), t.lexemes ++ xs = u.lexemes ++ ys → t = u ∧ xs = ys := by
  induction t using Tree.induct with
  | step t ih =>
    intro u xs ys h
    cases t with
    | array items =>
      cases u with
      | array items' =>
        simp only [Tree.lexemes, List.cons_append, List.append_assoc, List.cons.injEq, true_and,
          List.nil_append] at h
        obtain ⟨rfl, hxs⟩ := itemLexemes_append_inj ih h
        exact ⟨rfl, hxs⟩
      | _ => simp [Tree.lexemes] at h
    | object entries =>
      cases u with
      | object entries' =>
        simp only [Tree.lexemes, List.cons_append, List.append_assoc, List.cons.injEq, true_and,
          List.nil_append] at h
        obtain ⟨rfl, hxs⟩ := entryLexemes_append_inj ih h
        exact ⟨rfl, hxs⟩
      | _ => simp [Tree.lexemes] at h
    | _ => cases u <;> simp_all [Tree.lexemes]

/-! ### Open containers -/

open Reader

/-- The lexemes are passed over and leave the number of open containers as it is. -/
def Passed (xs : List Lexeme) : Prop :=
  ∀ (n : Nat) (toks : List Token) (rest : Tokens), toks.map Token.lexeme = xs →
    skipTokens (n + 1) (toks.map .ok ++ rest) = skipTokens (n + 1) rest

attribute [grind =] skipTokens

theorem skipTokens_zero (ts : Tokens) : skipTokens 0 ts = (.ok (), ts) := by rw [skipTokens]

theorem skipTokens_token {n k : Nat} {t : Token} (h : (k : Int) = n + 1 + t.lexeme.delta) (rest : Tokens) :
    skipTokens (n + 1) (.ok t :: rest) = skipTokens k rest := by
  rw [skipTokens]
  cases hx : t.lexeme <;> rw [hx] at h <;> simp only [Lexeme.delta] at h <;>
    exact congrArg (skipTokens · rest) (by omega)

theorem passed_nil : Passed [] := by
  intro n toks rest h
  rw [List.map_eq_nil_iff.1 h]
  rfl

theorem Passed.append {xs ys : List Lexeme} (hx : Passed xs) (hy : Passed ys) : Passed (xs ++ ys) := by
  intro n toks rest h
  obtain ⟨toks₁, toks₂, rfl, h₁, h₂⟩ := List.map_eq_append_iff.1 h
  rw [List.map_append, List.append_assoc, hx n toks₁ _ h₁, hy n toks₂ _ h₂]

theorem passed_cons {x : Lexeme} (hx : x.delta = 0) {xs : List Lexeme} (hxs : Passed xs) :
    Passed (x :: xs) := by
  intro n toks rest h
  obtain ⟨t, more, rfl, rfl, hmore⟩ := List.map_eq_cons_iff.1 h
  rw [List.map_cons, List.cons_append, skipTokens_token (k := n + 1) (by rw [hx]; rfl)]
  exact hxs n more rest hmore

/-- What stands between the start and the end of a container is passed over together with them. -/
theorem Passed.enclosed {first last : Lexeme} (hfirst : first.delta = 1) (hlast : last.delta = -1)
    {xs : List Lexeme} (hxs : Passed xs) : Passed (first :: (xs ++ [last])) := by
  intro n toks rest h
  obtain ⟨t, more, rfl, rfl, hmore⟩ := List.map_eq_cons_iff.1 h
  obtain ⟨inner, tail, rfl, hinner, htail⟩ := List.map_eq_append_iff.1 hmore
  obtain ⟨e, none, rfl, rfl, hnone⟩ := List.map_eq_cons_iff.1 htail
  obtain rfl := List.map_eq_nil_iff.1 hnone
  rw [List.map_cons, List.cons_append, skipTokens_token (k := n + 2) (by rw [hfirst]; rfl),
    List.map_append, List.append_assoc, hxs (n + 1) inner _ hinner, List.map_cons, List.cons_append,
    skipTokens_token (k := n + 1) (by rw [hlast]; omega)]
  rfl

theorem passed_items {items : List Tree} (each : ∀ t ∈ items, Passed t.lexemes) :
    Passed (itemLexemes items) := by
  induction items with
  | nil => exact passed_nil
  | cons t rest ih => exact (each t (by simp)).append (ih fun u hu => each u (by simp [hu]))

theorem passed_entries {entries : List (String × Tree)}
    (each : ∀ t ∈ entries.map Prod.snd, Passed t.lexemes) : Passed (entryLexemes entries) := by
  induction entries with
  | nil => exact passed_nil
  | cons e rest ih =>
    rw [List.map_cons, List.forall_mem_cons] at each
    exact passed_cons rfl (each.1.append (ih each.2))

theorem Tree.passed (t : Tree) : Passed t.lexemes := by
  induction t using Tree.induct with
  | step t ih =>
    cases t with
    | array items => exact (passed_items ih).enclosed rfl rfl
    | object entries => exact (passed_entries ih).enclosed rfl rfl
    | _ => exact passed_cons rfl passed_nil

/-! ### What was skipped -/

/-- **What was skipped is skipped whatever comes after it**, also with more containers open. -/
theorem skipTokens_eq_ok {n : Nat} {ts rest : Tokens} (h : skipTokens n ts = (.ok (), rest)) :
    ∃ toks : List Token, ts = toks.map .ok ++ rest ∧
      ∀ k more, skipTokens (n + k) (toks.map .ok ++ more) = skipTokens k more := by
  induction ts generalizing n with
  | nil =>
    cases n with
    | zero =>
      cases h
      exact ⟨[], rfl, fun k more => by rw [Nat.zero_add]; rfl⟩
    | succ n => cases h
  | cons first ts ih =>
    cases n with
    | zero =>
      cases h
      exact ⟨[], rfl, fun k more => by rw [Nat.zero_add]; rfl⟩
    | succ n =>
      cases first with
      | error e => cases h
      | ok t =>
        have hdelta : 0 ≤ (n : Int) + 1 + t.lexeme.delta := by
          cases t.lexeme <;> simp only [Lexeme.delta] <;> omega
        obtain ⟨m, hm⟩ := Int.eq_ofNat_of_zero_le hdelta
        rw [skipTokens_token hm.symm] at h
        obtain ⟨toks, hts, hrun⟩ := ih h
        refine ⟨t :: toks, by rw [hts]; rfl, fun k more => ?_⟩
        rw [List.map_cons, List.cons_append, Nat.add_right_comm,
          skipTokens_token (k := m + k) (by omega)]
        exact hrun k more

theorem token_apply (t : Token) (rest : Tokens) : token (.ok t :: rest) = (.ok t, rest) := rfl

theorem token_eq_ok {ts rest : Tokens} {t : Token} (h : token ts = (.ok t, rest)) : ts = .ok t :: rest := by
  cases ts with
  | nil => cases h
  | cons first ts =>
    cases first with
    | error e => cases h
    | ok t' => cases h; rfl

/-- The value that starts with a token is that token alone, or a container. -/
theorem skipValue_token {t : Token} {rest rest' : Tokens} (h : skipValue (.ok t :: rest) = (.ok (), rest')) :
    (t.lexeme.delta = 0 ∧ rest' = rest ∧ ∀ more, skipValue (.ok t :: more) = (.ok (), more)) ∨
      (t.lexeme.delta = 1 ∧ skipTokens 1 rest = (.ok (), rest') ∧
        ∀ more, skipValue (.ok t :: more) = skipTokens 1 more) := by
  have hrun : ∀ more, skipValue (.ok t :: more) = _ := fun more => bind_of_ok (token_apply t more) _
  rw [hrun] at h
  simp only [hrun]
  cases hx : t.lexeme with
  | startArray => rw [hx] at h; exact .inr ⟨rfl, h, fun _ => rfl⟩
  | startObject => rw [hx] at h; exact .inr ⟨rfl, h, fun _ => rfl⟩
  | string => rw [hx] at h; cases h; exact .inl ⟨rfl, rfl, fun _ => rfl⟩
  | number => rw [hx] at h; cases h; exact .inl ⟨rfl, rfl, fun _ => rfl⟩
  | bool => rw [hx] at h; cases h; exact .inl ⟨rfl, rfl, fun _ => rfl⟩
  | null => rw [hx] at h; cases h; exact .inl ⟨rfl, rfl, fun _ => rfl⟩
  | _ => rw [hx] at h; cases h

/-- **The value that was skipped is skipped whatever comes after it**, and it leaves the number of open
containers as it is. -/
theorem skipValue_eq_ok {ts rest : Tokens} (h : skipValue ts = (.ok (), rest)) :
    ∃ toks : List Token, ts = toks.map .ok ++ rest ∧
      (∀ more, skipValue (toks.map .ok ++ more) = (.ok (), more)) ∧
      ∀ n more, skipTokens (n + 1) (toks.map .ok ++ more) = skipTokens (n + 1) more := by
  obtain ⟨t, more, htoken, -⟩ := bind_eq_ok h
  obtain rfl := token_eq_ok htoken
  obtain ⟨hdelta, rfl, hskip⟩ | ⟨hdelta, hopen, hskip⟩ := skipValue_token h
  · refine ⟨[t], rfl, hskip, fun n more => skipTokens_token ?_ more⟩
    rw [hdelta]
    rfl
  · obtain ⟨toks, rfl, hrun⟩ := skipTokens_eq_ok hopen
    refine ⟨t :: toks, rfl, fun more => ?_, fun n more => ?_⟩
    · rw [List.map_cons, List.cons_append, hskip]
      exact (hrun 0 more).trans (skipTokens_zero more)
    · rw [List.map_cons, List.cons_append, skipTokens_token (k := 1 + (n + 1)) (by rw [hdelta]; omega)]
      exact hrun (n + 1) more

theorem skipTokens_of_skipValue {ts rest : Tokens} (h : skipValue ts = (.ok (), rest)) (n : Nat) :
    skipTokens (n + 1) ts = skipTokens (n + 1) rest := by
  obtain ⟨toks, rfl, -, hpass⟩ := skipValue_eq_ok h
  exact hpass n rest

theorem reads_skipToEnd {last : Lexeme} (hlast : last.delta = -1) {xs : List Lexeme} (hxs : Passed xs) :
    skipToEnd.Reads (xs ++ [last]) () := by
  intro toks rest htoks
  obtain ⟨inner, tail, rfl, hinner, htail⟩ := List.map_eq_append_iff.1 htoks
  obtain ⟨e, none, rfl, rfl, hnone⟩ := List.map_eq_cons_iff.1 htail
  obtain rfl := List.map_eq_nil_iff.1 hnone
  show skipTokens 1 _ = _
  rw [List.map_append, List.append_assoc, hxs 0 inner _ hinner, List.map_cons, List.cons_append,
    skipTokens_token (k := 0) (by rw [hlast]; rfl)]
  exact skipTokens_zero rest

theorem reads_skipContainer {first last : Lexeme} (hfirst : first = .startArray ∨ first = .startObject)
    (hlast : last.delta = -1) {xs : List Lexeme} (hxs : Passed xs) :
    skipValue.Reads (first :: (xs ++ [last])) () := by
  refine Reads.token fun t ht => ?_
  rw [ht]
  rcases hfirst with rfl | rfl <;> exact reads_skipToEnd hlast hxs

/-- **From the lexemes of a value exactly these are skipped.** -/
theorem Tree.reads_skipValue (t : Tree) : skipValue.Reads t.lexemes () := by
  cases t with
  | array items =>
    exact reads_skipContainer (.inl rfl) rfl (passed_items fun u _ => u.passed)
  | object entries =>
    exact reads_skipContainer (.inr rfl) rfl (passed_entries fun u _ => u.passed)
  | _ =>
    refine Reads.token fun t ht => ?_
    rw [ht]
    exact reads_pure ()

/-! ### Texts -/

/-- The tokens of the text start with those of the value. -/
def StartsWith (text : List UInt8) (t : Tree) : Prop :=
  ∃ (toks : List Token) (rest : Tokens), tokenize text = toks.map .ok ++ rest ∧
    toks.map Token.lexeme = t.lexemes

theorem map_ok_inj {toks toks' : List Token} :
    (toks.map .ok : Tokens) = toks'.map .ok ↔ toks = toks' :=
  List.map_inj_right fun _ _ => Except.ok.inj

theorem StartsWith.unique {text : List UInt8} {t u : Tree} (ht : StartsWith text t)
    (hu : StartsWith text u) : t = u := by
  obtain ⟨toks, rest, htoks, hlex⟩ := ht
  obtain ⟨toks', rest', htoks', hlex'⟩ := hu
  have hskip := t.reads_skipValue toks rest hlex
  have hskip' := u.reads_skipValue toks' rest' hlex'
  rw [← htoks] at hskip
  rw [← htoks', hskip, Prod.mk.injEq] at hskip'
  obtain rfl := hskip'.2
  obtain rfl := map_ok_inj.1 (List.append_cancel_right (htoks.symm.trans htoks'))
  refine (t.lexemes_append_inj u [] [] ?_).1
  rw [← hlex, ← hlex']

/-- Tokens that are skipped together, in front of which a value stands, are those of the value. -/
theorem lexemes_of_skips {toks : List Token} {t : Tree} {xs ys : List Lexeme}
    (hskip : ∀ more, skipValue (toks.map .ok ++ more) = (.ok (), more))
    (h : toks.map Token.lexeme ++ xs = t.lexemes ++ ys) : toks.map Token.lexeme = t.lexemes := by
  rcases List.append_eq_append_iff.1 h with ⟨zs, hlex, -⟩ | ⟨zs, hlex, -⟩
  · -- the value would go on after what was skipped
    let extra := zs.map (Token.mk 0)
    have hextra : extra.map Token.lexeme = zs := by simp [extra, Function.comp_def]
    have hread := t.reads_skipValue (toks ++ extra) [] (by rw [List.map_append, hextra, hlex])
    rw [List.map_append, List.append_assoc, hskip] at hread
    have hnil : zs = [] := by simpa [extra] using (Prod.mk.inj hread).2
    rw [hlex, hnil, List.append_nil]
  · obtain ⟨first, more, rfl, hfirst, hmore⟩ := List.map_eq_append_iff.1 hlex
    have hread := t.reads_skipValue first (more.map .ok ++ []) hfirst
    rw [← List.append_assoc, ← List.map_append, hskip] at hread
    have hnil : more = [] := by simpa using (Prod.mk.inj hread).2.symm
    rw [hnil, List.append_nil, hfirst]

/-- A token at which a value can be skipped neither is a key nor ends a container. -/
theorem lexeme_of_skipValue {t : Token} {more rest : Tokens}
    (h : skipValue (.ok t :: more) = (.ok (), rest)) :
    t.lexeme ≠ .endArray ∧ t.lexeme ≠ .endObject ∧ ∀ raw, t.lexeme ≠ .key raw := by
  have hrun : skipValue (.ok t :: more) = _ := bind_of_ok (token_apply t more) _
  rw [hrun] at h
  refine ⟨fun hx => ?_, fun hx => ?_, fun raw hx => ?_⟩ <;> rw [hx] at h <;> cases h

/-- Where the containers that are open can be closed, and the next lexeme neither is a key nor ends a
container, a whole value comes next. -/
theorem Completes.value {frames : List Frame} {x : Lexeme} {xs : List Lexeme}
    (h : Completes frames (x :: xs)) (hx : x ≠ .endArray ∧ x ≠ .endObject ∧ ∀ raw, x ≠ .key raw) :
    ∃ (t : Tree) (more : List Lexeme), x :: xs = t.lexemes ++ more := by
  generalize hys : x :: xs = ys at h
  cases h with
  | top trees =>
    cases trees with
    | nil => cases hys
    | cons t trees => exact ⟨t, _, rfl⟩
  | array array items rest =>
    cases items with
    | nil => exact absurd (List.cons.inj hys).1 hx.1
    | cons t items => exact ⟨t, _, List.append_assoc ..⟩
  | object object entries rest =>
    cases entries with
    | nil => exact absurd (List.cons.inj hys).1 hx.2.1
    | cons e entries => exact absurd (List.cons.inj hys).1 (hx.2.2 e.1)
  | fieldValue value rest => exact ⟨value, _, rfl⟩

/-- What comes after the tokens is no token, so that tokens at the front are among them. -/
theorem Nested.front {frames : List Frame} {toks front : List Token} {tail rest : Tokens}
    (hnested : Nested frames toks tail) (h : toks.map .ok ++ tail = front.map .ok ++ rest) :
    ∃ left, toks = front ++ left ∧ rest = left.map .ok ++ tail := by
  rcases List.append_eq_append_iff.1 h with ⟨as, hmap, htail⟩ | ⟨as, hmap, hrest⟩
  · obtain ⟨first, left, rfl, hfirst, rfl⟩ := List.map_eq_append_iff.1 hmap
    obtain rfl := map_ok_inj.1 hfirst
    cases left with
    | nil => exact ⟨[], by simp, by simpa using htail.symm⟩
    | cons t left => rcases hnested.ends with h | ⟨e, h⟩ <;> rw [h] at htail <;> cases htail
  · obtain ⟨first, left, rfl, hfirst, rfl⟩ := List.map_eq_append_iff.1 hmap
    obtain rfl := map_ok_inj.1 hfirst
    exact ⟨left, rfl, hrest⟩

/-- **What is skipped among the tokens of a text is a value.** -/
theorem Nested.value_of_skipValue {frames : List Frame} {toks : List Token} {tail rest : Tokens}
    (hnested : Nested frames toks tail) (h : skipValue (toks.map .ok ++ tail) = (.ok (), rest)) :
    ∃ (t : Tree) (skipped : List Token), toks.map .ok ++ tail = skipped.map .ok ++ rest ∧
      skipped.map Token.lexeme = t.lexemes := by
  obtain ⟨skipped, hskipped, hskip, -⟩ := skipValue_eq_ok h
  obtain ⟨left, rfl, -⟩ := hnested.front hskipped
  obtain ⟨more, hmore⟩ := hnested.continues
  cases skipped with
  | nil => cases hskip []
  | cons first skipped =>
    have hfirst := lexeme_of_skipValue (hskip [])
    rw [List.map_append, List.append_assoc, List.map_cons, List.cons_append] at hmore
    obtain ⟨t, after, ht⟩ := hmore.value hfirst
    exact ⟨t, first :: skipped, hskipped, lexemes_of_skips hskip ht⟩

/-- **What is skipped at the start of a text is a value.** -/
theorem startsWith_of_skipValue {text : List UInt8} {rest : Tokens}
    (h : skipValue (tokenize text) = (.ok (), rest)) :
    ∃ (t : Tree) (toks : List Token), tokenize text = toks.map .ok ++ rest ∧
      toks.map Token.lexeme = t.lexemes := by
  obtain ⟨toks, tail, htokens, hnested⟩ := tokenize_nested text
  rw [htokens] at h ⊢
  exact hnested.value_of_skipValue h

end WireShapes.Json
