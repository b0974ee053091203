import WireShapes.Proofs.Json.Extent
import WireShapes.Proofs.Json.Legal
import WireShapes.Proofs.Json.Sources

/-!
Texts in which one literal is written in another way, and readers that do not tell them apart.

* `Corresponds R ts ts'`: token by token the two rows say what `R` relates, or both fail
* `tokensFrom_shift`: what the tokens say does not depend on the place where their text starts
* `tokenize_respelled`: with another literal in the place of one, all other tokens say the same
* `Twins R x y`: from corresponding tokens both readers read the same, or both fail; one lemma for each way
  to take tokens
* `Respelled names`: lexemes that are the same but for a literal
* `twins_skipTokens`, `twins_skipValue`, `twins_string`: readers that do not tell literals of one text apart
-/

namespace WireShapes.Json

/-! ### Corresponding tokens -/

/-- Token by token the two rows say what `R` relates, or both fail. -/
def Corresponds (R : Lexeme → Lexeme → Prop) : Tokens → Tokens → Prop :=
  List.Forall₂ (Results.Agree fun t t' => R t.lexeme t'.lexeme)

theorem Corresponds.imp {R S : Lexeme → Lexeme → Prop} (hRS : ∀ x y, R x y → S x y) {ts ts' : Tokens}
    (h : Corresponds R ts ts') : Corresponds S ts ts' :=
  List.Forall₂.imp (fun _ _ h => h.imp fun _ _ => hRS _ _) h

/-- With rounds enough, a token takes one of them. -/
theorem StepText.tokens {frames after : List Frame} {lead text : List UInt8} {x : Lexeme}
    (h : StepText frames lead text x after) {tail : List UInt8} (hends : Ends x tail) {rounds : Nat}
    (hrounds : (lead ++ (text ++ tail)).length < rounds) (offset : Nat) :
    ∃ t offset' k, t.lexeme = x ∧ tail.length < k ∧
      tokensFrom rounds frames ⟨offset, lead ++ (text ++ tail)⟩ = .ok t :: tokensFrom k after ⟨offset', tail⟩ := by
  obtain ⟨toks, offset', hlex, hrun⟩ := h.emits hends offset
  obtain ⟨t, rfl, rfl⟩ := List.map_eq_singleton_iff.1 hlex
  have hpos := h.length_pos
  rw [List.length_append, List.length_append] at hrounds
  refine ⟨t, offset', rounds - 1, rfl, by omega, ?_⟩
  have hrun := hrun (rounds - 1)
  rwa [List.length_singleton, Nat.add_sub_cancel' (by omega)] at hrun

theorem skipBlanks_rest (o o' : Nat) (rest : List UInt8) :
    (Cursor.skipBlanks ⟨o, rest⟩).rest = (Cursor.skipBlanks ⟨o', rest⟩).rest := rfl

/-- Where no token is read at one offset, none is read at another. -/
theorem tokensFrom_stuck {rounds : Nat} {frames : List Frame} {o : Nat} {rest : List UInt8}
    (hrounds : rest.length < rounds) (h : ∀ s, step frames ⟨o, rest⟩ ≠ some (.ok s)) (o' : Nat) :
    ∀ s, step frames ⟨o', rest⟩ ≠ some (.ok s) := by
  intro s hs
  obtain ⟨lead, text, hat, -, hstep, hends⟩ := step_text hs
  obtain rfl : rest = lead ++ text ++ s.cursor.rest := hat.here
  rw [List.append_assoc] at h hrounds
  obtain ⟨t, o'', k, -, -, hrun⟩ := hstep.tokens hends hrounds o
  obtain ⟨rounds, rfl⟩ := Nat.exists_eq_add_one_of_ne_zero (by omega : rounds ≠ 0)
  rw [tokensFrom] at hrun
  split at hrun
  · cases hrun
  · cases hrun
  · next s' hs' => exact h s' hs'

/-- **What the tokens say does not depend on the place where their text starts**, nor on the rounds if these
are enough. -/
theorem tokensFrom_shift {rounds rounds' : Nat} {frames : List Frame} {rest : List UInt8}
    (hrounds : rest.length < rounds) (hrounds' : rest.length < rounds') (o o' : Nat) :
    Corresponds Eq (tokensFrom rounds frames ⟨o, rest⟩) (tokensFrom rounds' frames ⟨o', rest⟩) := by
  induction rounds generalizing rounds' frames rest o o' with
  | zero => exact absurd hrounds (Nat.not_lt_zero _)
  | succ rounds ih =>
    by_cases hok : ∃ s, step frames ⟨o, rest⟩ = some (.ok s)
    · obtain ⟨s, hs⟩ := hok
      obtain ⟨lead, text, hat, hplace, hstep, hends⟩ := step_text hs
      obtain rfl : rest = lead ++ text ++ s.cursor.rest := hat.here
      have hshorter := step_shorter hs
      have hfirst : tokensFrom (rounds + 1) frames ⟨o, lead ++ text ++ s.cursor.rest⟩ =
          .ok s.token :: tokensFrom rounds s.frames s.cursor := by
        rw [tokensFrom, hs]
      rw [hfirst]
      rw [List.append_assoc] at hrounds hrounds' ⊢
      obtain ⟨t, o'', k, ht, hk, hrun⟩ := hstep.tokens hends hrounds' o'
      rw [hrun]
      exact .cons (.ok ht.symm) (ih (by dsimp only at hshorter; rw [List.append_assoc] at hshorter; omega) hk _ _)
    · have hno : ∀ s, step frames ⟨o, rest⟩ ≠ some (.ok s) := fun s hs => hok ⟨s, hs⟩
      have hno' := tokensFrom_stuck hrounds hno o'
      obtain ⟨rounds', rfl⟩ := Nat.exists_eq_add_one_of_ne_zero (by omega : rounds' ≠ 0)
      have hnone : step frames ⟨o, rest⟩ = none ↔ step frames ⟨o', rest⟩ = none := by
        rw [step_eq_none_iff, step_eq_none_iff, skipBlanks_rest o o']
      rw [tokensFrom, tokensFrom]
      split
      · next hs =>
        rw [hnone.1 hs]
        exact .nil
      · next e hs =>
        split
        · next hs' => rw [hnone.2 hs'] at hs; cases hs
        · exact .cons .error .nil
        · next s' hs' => exact absurd hs' (hno' s')
      · next s hs => exact absurd hs (hno s)

/-! ### Another literal -/

/-- A literal as a value or as a key. -/
inductive IsLiteral : (String → Lexeme) → Prop
  | string : IsLiteral .string
  | key : IsLiteral .key

theorem ValueText.respell {inner after : List Frame} {text : List UInt8} {raw : String}
    (h : ValueText inner text (.string raw) after) {raw' : String} (body : Body raw'.toList) :
    text = literal raw ∧ ValueText inner (literal raw') (.string raw') after := by
  cases h with
  | string => exact ⟨rfl, .string body⟩
  | word named => simp at named

/-- Another literal may stand in the place of one. -/
theorem StepText.respell {frames after : List Frame} {lead text : List UInt8} {raw : String}
    {kind : String → Lexeme} (hkind : IsLiteral kind) (h : StepText frames lead text (kind raw) after)
    {raw' : String} (body : Body raw'.toList) :
    ∃ more, text = literal raw ++ more ∧ StepText frames lead (literal raw' ++ more) (kind raw') after := by
  cases hkind with
  | string =>
    cases h with
    | top blank value =>
      obtain ⟨rfl, hvalue⟩ := value.respell body
      exact ⟨[], by simp, by simpa using .top blank hvalue⟩
    | firstItem blank value =>
      obtain ⟨rfl, hvalue⟩ := value.respell body
      exact ⟨[], by simp, by simpa using .firstItem blank hvalue⟩
    | nextItem front blank value =>
      obtain ⟨rfl, hvalue⟩ := value.respell body
      exact ⟨[], by simp, by simpa using .nextItem front blank hvalue⟩
    | fieldValue blank value =>
      obtain ⟨rfl, hvalue⟩ := value.respell body
      exact ⟨[], by simp, by simpa using .fieldValue blank hvalue⟩
  | key =>
    cases h with
    | top _ value => exact absurd value not_valueText_key
    | firstItem _ value => exact absurd value not_valueText_key
    | nextItem _ _ value => exact absurd value not_valueText_key
    | fieldValue _ value => exact absurd value not_valueText_key
    | firstKey blank _ between => exact ⟨_, rfl, .firstKey blank body between⟩
    | nextKey front blank _ between => exact ⟨_, rfl, .nextKey front blank body between⟩

/-- What ends a number in front of one literal ends it in front of another. -/
theorem stops_respell {front more : List UInt8} {raw : String} (h : Stops (front ++ (literal raw ++ more)))
    (raw' : String) : Stops (front ++ (literal raw' ++ more)) := by
  cases front with
  | nil => exact stops_cons (by decide) _
  | cons b front => exact stops_cons (h b _ rfl) _

section Respell

variable {R : Lexeme → Lexeme → Prop} {kind : String → Lexeme} {raw raw' : String} {after : List UInt8}

/-- With another literal in the place of one, the tokens from a place before it on say the same, up to what
the literals say. The induction is on the tokens that stand before the literal; after it the two texts are the
same. -/
theorem tokensFrom_respelled (hkind : IsLiteral kind) (body : Body raw'.toList) (hrefl : ∀ x, R x x)
    (hR : R (kind raw) (kind raw')) {rounds : Nat} {frames : List Frame} {o : Nat} {front : List UInt8}
    (hmem : .ok ⟨o + front.length, kind raw⟩ ∈ tokensFrom rounds frames ⟨o, front ++ (literal raw ++ after)⟩)
    (hrounds : (front ++ (literal raw ++ after)).length < rounds) {rounds' : Nat}
    (hrounds' : (front ++ (literal raw' ++ after)).length < rounds') (o' : Nat) :
    Corresponds R (tokensFrom rounds frames ⟨o, front ++ (literal raw ++ after)⟩)
      (tokensFrom rounds' frames ⟨o', front ++ (literal raw' ++ after)⟩) := by
  induction rounds generalizing frames o front rounds' o' with
  | zero => exact absurd hrounds (Nat.not_lt_zero _)
  | succ rounds ih =>
    obtain ⟨s, hs, k, hk, hrest⟩ := mem_tokensFrom hmem
    obtain rfl := Nat.succ.inj hk
    obtain ⟨lead, text, hat, hplace, hstep, hends⟩ := step_text hs
    have hfirst : tokensFrom (rounds + 1) frames ⟨o, front ++ (literal raw ++ after)⟩ =
        .ok s.token :: tokensFrom rounds s.frames s.cursor := by
      rw [tokensFrom, hs]
    have hleft : s.cursor.rest.length < rounds := by
      have hshorter := step_shorter hs
      dsimp only at hshorter
      omega
    have hhere : front ++ (literal raw ++ after) = lead ++ text ++ s.cursor.rest := hat.here
    rcases hrest with htoken | hmore
    · -- the token is that of the literal, and the texts after it are the same
      rw [← htoken] at hplace hstep
      rw [List.append_assoc] at hhere
      obtain ⟨rfl, htail⟩ := List.append_inj hhere (Nat.add_left_cancel hplace)
      obtain ⟨more, rfl, hstep'⟩ := hstep.respell hkind body
      obtain rfl : after = more ++ s.cursor.rest := by
        rw [List.append_assoc] at htail
        exact List.append_cancel_left htail
      have hends' : Ends (kind raw') s.cursor.rest := by cases hkind <;> exact ends_of_ne (by simp) _
      rw [← List.append_assoc (literal raw')] at hrounds' ⊢
      obtain ⟨t, o'', k, ht, hk, hrun⟩ := hstep'.tokens hends' hrounds' o'
      rw [hfirst, hrun, ← htoken]
      have hsame : Corresponds Eq (tokensFrom rounds s.frames s.cursor) _ :=
        tokensFrom_shift hleft hk s.cursor.offset o''
      exact .cons (.ok (ht ▸ hR)) (hsame.imp fun x y h => h ▸ hrefl x)
    · -- the token stands before the literal
      obtain ⟨before, text', tail, -, hoffset, -⟩ := source_of_mem hmore
      have hle : (lead ++ text).length ≤ front.length := by
        rw [hat.place] at hoffset
        dsimp only at hoffset
        omega
      obtain ⟨between, rfl, htail⟩ : ∃ between, front = lead ++ text ++ between ∧
          s.cursor.rest = between ++ (literal raw ++ after) := by
        rcases List.append_eq_append_iff.1 hhere with ⟨bs, hlead, htail⟩ | ⟨bs, hfront, htail⟩
        · have hnil : bs = [] := by
            rw [hlead, List.length_append] at hle
            exact List.length_eq_zero_iff.1 (by omega)
          exact ⟨[], by rw [hlead, hnil, List.append_nil, List.append_nil], by
            rw [htail, hnil, List.nil_append, List.nil_append]⟩
        · exact ⟨bs, hfront, htail⟩
      have hcursor : s.cursor = ⟨s.cursor.offset, between ++ (literal raw ++ after)⟩ := by
        rw [← htail]
      have hends' : Ends s.token.lexeme (between ++ (literal raw' ++ after)) := fun value hvalue =>
        stops_respell (htail ▸ hends value hvalue) raw'
      have hassoc : lead ++ text ++ between ++ (literal raw' ++ after) =
          lead ++ (text ++ (between ++ (literal raw' ++ after))) := by
        rw [List.append_assoc, List.append_assoc]
      rw [hassoc] at hrounds'
      obtain ⟨t, o'', k, ht, hk, hrun⟩ := hstep.tokens hends' hrounds' o'
      have hplace' : s.cursor.offset + between.length = o + (lead ++ text ++ between).length := by
        simp only [hat.place, List.length_append, Nat.add_assoc]
      rw [hfirst, hassoc, hrun, hcursor]
      refine .cons (.ok (ht ▸ hrefl _)) (ih ?_ (htail ▸ hleft) hk o'')
      rw [hplace', ← hcursor]
      exact hmore

end Respell

/-- **With another literal in the place of one, the tokens of a text say the same**, up to what the literals
say. -/
theorem tokenize_respelled {R : Lexeme → Lexeme → Prop} {kind : String → Lexeme} (hkind : IsLiteral kind)
    {raw raw' : String} (body : Body raw'.toList) (hrefl : ∀ x, R x x) (hR : R (kind raw) (kind raw'))
    {before after : List UInt8}
    (hmem : .ok ⟨before.length, kind raw⟩ ∈ tokenize (before ++ (literal raw ++ after))) :
    Corresponds R (tokenize (before ++ (literal raw ++ after)))
      (tokenize (before ++ (literal raw' ++ after))) :=
  tokensFrom_respelled hkind body hrefl hR (by rwa [Nat.zero_add]) (Nat.lt_succ_self _) (Nat.lt_succ_self _) 0

/-! ### Readers -/

namespace Reader

variable {α β : Type} {R : Lexeme → Lexeme → Prop}

/-- Both runs read the same and leave corresponding tokens, or both fail. -/
inductive SameRun (R : Lexeme → Lexeme → Prop) : Except ReadError α × Tokens → Except ReadError α × Tokens → Prop
  | ok {a : α} {ts ts' : Tokens} (left : Corresponds R ts ts') : SameRun R (.ok a, ts) (.ok a, ts')
  | error {e e' : ReadError} {ts ts' : Tokens} : SameRun R (.error e, ts) (.error e', ts')

theorem SameRun.agree {r r' : Except ReadError α × Tokens} (h : SameRun R r r') : Results.Agree Eq r.1 r'.1 := by
  cases h with
  | ok => exact .ok rfl
  | error => exact .error

/-- From corresponding tokens both readers read the same and leave corresponding tokens, or both fail. -/
def Twins (R : Lexeme → Lexeme → Prop) (x y : Reader α) : Prop :=
  ∀ ts ts', Corresponds R ts ts' → SameRun R (x ts) (y ts')

theorem twins_pure (a : α) : Twins R (pure a) (pure a) := fun _ _ h => .ok h

theorem twins_failWith (e e' : ReadError) : Twins R (failWith e : Reader α) (failWith e') := fun _ _ _ => .error

theorem Twins.bind {x y : Reader α} {f g : α → Reader β} (hx : Twins R x y) (hf : ∀ a, Twins R (f a) (g a)) :
    Twins R (x >>= f) (y >>= g) := by
  intro ts ts' h
  have hrun := hx ts ts' h
  rw [bind_apply, bind_apply]
  generalize x ts = r at hrun ⊢
  generalize y ts' = r' at hrun ⊢
  cases hrun with
  | ok left => exact hf _ _ _ left
  | error => exact .error

theorem Twins.next {f g : Option Token → Reader β} (hnone : Twins R (f none) (g none))
    (hsome : ∀ t t' : Token, R t.lexeme t'.lexeme → Twins R (f (some t)) (g (some t'))) :
    Twins R (next >>= f) (next >>= g) := by
  intro ts ts' h
  rw [bind_apply, bind_apply]
  cases h with
  | nil => exact hnone _ _ .nil
  | cons hfirst hrest =>
    cases hfirst with
    | ok ht => exact hsome _ _ ht _ _ hrest
    | error => exact .error

theorem Twins.token {f g : Token → Reader β}
    (h : ∀ t t' : Token, R t.lexeme t'.lexeme → Twins R (f t) (g t')) : Twins R (token >>= f) (token >>= g) := by
  unfold Reader.token
  rw [bind_assoc, bind_assoc]
  exact Twins.next (fun _ _ _ => .error) h

theorem Twins.peek {f g : Option Lexeme → Reader β} (hnone : Twins R (f none) (g none))
    (hsome : ∀ x y : Lexeme, R x y → Twins R (f (some x)) (g (some y))) : Twins R (peek >>= f) (peek >>= g) := by
  intro ts ts' h
  rw [bind_apply, bind_apply]
  cases h with
  | nil => exact hnone _ _ .nil
  | cons hfirst hrest =>
    cases hfirst with
    | ok ht => exact hsome _ _ ht _ _ (.cons (.ok ht) hrest)
    | error => exact hnone _ _ (.cons .error hrest)

theorem Twins.rounds {f g : Nat → Reader β} (h : ∀ rounds, Twins R (f rounds) (g rounds)) :
    Twins R (rounds >>= f) (rounds >>= g) := by
  intro ts ts' hts
  have hlength : ts.length = ts'.length := hts.length_eq
  rw [bind_apply, bind_apply]
  show SameRun R (f (2 * ts.length + 2) ts) (g (2 * ts'.length + 2) ts')
  rw [hlength]
  exact h _ _ _ hts

/-! ### Readers that do not tell literals apart -/

/-- The lexemes are the same but for a literal: a key that is none of the names, or a string of the same
text. -/
inductive Respelled (names : List String) : Lexeme → Lexeme → Prop
  | same (x : Lexeme) : Respelled names x x
  | string {raw raw' text : String} (reads : unescape raw = .ok text) (reads' : unescape raw' = .ok text) :
      Respelled names (.string raw) (.string raw')
  | key {raw raw' : String} (strange : raw ∉ names) (strange' : raw' ∉ names) :
      Respelled names (.key raw) (.key raw')

variable {names : List String}

theorem Respelled.delta {x y : Lexeme} (h : Respelled names x y) : x.delta = y.delta := by
  cases h <;> rfl

theorem twins_skipTokens (n : Nat) : Twins (Respelled names) (skipOpen n) (skipOpen n) := by
  intro ts ts' h
  show SameRun _ (skipTokens n ts) (skipTokens n ts')
  induction h generalizing n with
  | nil =>
    cases n with
    | zero => exact .ok .nil
    | succ n => exact .error
  | @cons t t' ts ts' hfirst hrest ih =>
    cases n with
    | zero =>
      rw [skipTokens_zero, skipTokens_zero]
      exact .ok (.cons hfirst hrest)
    | succ n =>
      cases hfirst with
      | error => exact .error
      | @ok t t' ht =>
        have hdelta : 0 ≤ (n : Int) + 1 + t.lexeme.delta := by
          cases t.lexeme <;> simp only [Lexeme.delta] <;> omega
        obtain ⟨m, hm⟩ := Int.eq_ofNat_of_zero_le hdelta
        rw [skipTokens_token hm.symm, skipTokens_token (k := m) (by rw [← ht.delta]; exact hm.symm)]
        exact ih m

theorem twins_notWanted (t t' : Token) (what : Wanted) :
    Twins R (notWanted t what : Reader α) (notWanted t' what) := twins_failWith _ _

theorem twins_skipValue : Twins (Respelled names) skipValue skipValue := by
  refine Twins.token fun t t' h => ?_
  obtain ⟨o, x⟩ := t
  obtain ⟨o', y⟩ := t'
  cases h with
  | same =>
    cases x with
    | startArray => exact twins_skipTokens 1
    | startObject => exact twins_skipTokens 1
    | string => exact twins_pure ()
    | number => exact twins_pure ()
    | bool => exact twins_pure ()
    | null => exact twins_pure ()
    | _ => exact twins_notWanted _ _ _
  | string => exact twins_pure ()
  | key => exact twins_notWanted _ _ _

theorem twins_unescaped (raw : String) : Twins R (unescaped raw) (unescaped raw) := by
  unfold unescaped
  split
  · exact twins_pure _
  · exact twins_failWith _ _

theorem twins_string : Twins (Respelled names) Reader.string Reader.string := by
  rw [string_eq]
  refine Twins.token fun t t' h => ?_
  obtain ⟨o, x⟩ := t
  obtain ⟨o', y⟩ := t'
  cases h with
  | same =>
    cases x with
    | null => exact twins_pure none
    | string raw => exact (twins_unescaped raw).bind fun text => twins_pure (some text)
    | _ => exact twins_notWanted _ _ _
  | @string raw raw' text reads reads' =>
    have hsame : unescaped raw = unescaped raw' := by
      unfold unescaped
      rw [reads, reads']
    dsimp only
    rw [hsame]
    exact (twins_unescaped raw').bind fun text => twins_pure (some text)
  | key => exact twins_notWanted _ _ _

end Reader

end WireShapes.Json
