import WireShapes.Proofs.Schema.Drafts
import WireShapes.Proofs.Schema.Extent

/-!
Readers of containers, one item and one entry at a time.

* `opening_of_lexemes`: the container that opens is the one of the value
* `readItems_item`, `readItems_item_eq_ok`: an item of a list and what comes after it
* `readMembers_known`, `readMembers_unknown`, `readMembers_entry_eq_ok`: an entry of an object
* `readMembers_keeps`: entries of other keys leave a field as it is
* `readVariant_null`, `readVariant_known`, `readVariant_unknown`, `readVariant_entry_eq_ok`: an entry of
  a union
* `readVariant_found`: once a variant is found, entries are passed over
-/

namespace WireShapes.Schema

open Json Reader

variable {ν : Type} {S : Schema ν} {F : Flavour} {rounds : Nat} {t : Token} {toks : List Token}
  {u : Tree} {after rest : Tokens}

theorem opening_of_lexemes {start : Lexeme} {what : Wanted} {more : Tokens}
    (htoks : toks.map Token.lexeme = u.lexemes)
    (h : readOpening start what (toks.map .ok ++ after) = (.ok true, more)) :
    ∃ inner : List Token, u.lexemes = start :: inner.map Token.lexeme ∧ more = inner.map .ok ++ after := by
  obtain ⟨x, xs, hx, -⟩ := u.lexemes_start
  obtain ⟨t, inner, rfl, rfl, hinner⟩ := List.map_eq_cons_iff.1 (htoks.trans hx)
  obtain ⟨t', heq, ⟨-, hstart⟩ | ⟨hfalse, -⟩⟩ := readOpening_eq_ok h
  · obtain ⟨ht, hmore⟩ := List.cons.inj heq
    obtain rfl := Except.ok.inj ht
    exact ⟨inner, by rw [← htoks, List.map_cons, hstart], hmore.symm⟩
  · cases hfalse

/-! ### Items -/

theorem peek_apply (t : Token) (rest : Tokens) :
    peek (.ok t :: rest) = (.ok (some t.lexeme), .ok t :: rest) := rfl

theorem readItems_end (ht : t.lexeme = .endArray) (item : ν) :
    S.readItems F (rounds + 1) item (.ok t :: after) = (.ok [], after) := by
  rw [readItems, bind_of_ok (peek_apply t after), ht]
  rfl

theorem readItems_more (htoks : toks.map Token.lexeme = u.lexemes) (item : ν) (after : Tokens) :
    S.readItems F (rounds + 1) item (toks.map .ok ++ after) = (do
      let d ← S.readAt F rounds item
      passAbsent F d
      return keepItem d (← S.readItems F rounds item) : Reader (List Draft)) (toks.map .ok ++ after) := by
  obtain ⟨x, xs, hx, hend, -⟩ := u.lexemes_start
  obtain ⟨t, more, rfl, rfl, -⟩ := List.map_eq_cons_iff.1 (htoks.trans hx)
  rw [readItems, List.map_cons, List.cons_append, bind_of_ok (peek_apply t _)]
  cases ht : t.lexeme with
  | endArray => exact absurd ht hend
  | _ => rfl

theorem passAbsent_eq_ok {o : Option Draft} {ts more : Tokens} (h : passAbsent F o ts = (.ok (), more)) :
    more = ts ∧ (o = none → F = .client) := by
  cases o with
  | some d => cases F <;> cases h <;> exact ⟨rfl, by simp⟩
  | none => cases F <;> cases h; exact ⟨rfl, fun _ => rfl⟩

theorem passAbsent_apply {o : Option Draft} (h : o = none → F = .client) (ts : Tokens) :
    passAbsent F o ts = (.ok (), ts) := by
  cases o with
  | some d => cases F <;> rfl
  | none => rw [h rfl]; rfl

theorem readItems_item (htoks : toks.map Token.lexeme = u.lexemes) {item : ν} {o : Option Draft}
    (hread : S.readAt F rounds item (toks.map .ok ++ after) = (.ok o, after)) (habsent : o = none → F = .client)
    {ds : List Draft} (hrest : S.readItems F rounds item after = (.ok ds, rest)) :
    S.readItems F (rounds + 1) item (toks.map .ok ++ after) = (.ok (keepItem o ds), rest) := by
  rw [readItems_more htoks, bind_of_ok hread, bind_of_ok (passAbsent_apply habsent after), bind_of_ok hrest]
  rfl

theorem readItems_item_eq_ok (htoks : toks.map Token.lexeme = u.lexemes) {item : ν}
    (solid : S.shape item ≠ .stream) {ds : List Draft}
    (h : S.readItems F (rounds + 1) item (toks.map .ok ++ after) = (.ok ds, rest)) :
    ∃ o ds', S.readAt F rounds item (toks.map .ok ++ after) = (.ok o, after) ∧ (o = none → F = .client) ∧
      S.readItems F rounds item after = (.ok ds', rest) ∧ ds = keepItem o ds' := by
  rw [readItems_more htoks] at h
  obtain ⟨o, more, hread, hgo⟩ := bind_eq_ok h
  obtain rfl := rest_of_readAt solid htoks hread
  obtain ⟨_, more', habsent, hitems⟩ := bind_eq_ok hgo
  obtain ⟨rfl, hnone⟩ := passAbsent_eq_ok habsent
  obtain ⟨ds', more, hrest, hend⟩ := bind_eq_ok hitems
  cases hend
  exact ⟨o, ds', hread, hnone, hrest, rfl⟩

/-! ### Entries of an object -/

theorem tokens_of_entry {raw : String} {entries : List (String × Tree)}
    (h : toks.map Token.lexeme = entryLexemes ((raw, u) :: entries) ++ [.endObject]) :
    ∃ t first more, toks = t :: (first ++ more) ∧ t.lexeme = .key raw ∧
      first.map Token.lexeme = u.lexemes ∧
      more.map Token.lexeme = entryLexemes entries ++ [.endObject] := by
  rw [entryLexemes, List.cons_append, List.append_assoc] at h
  obtain ⟨t, tail, rfl, ht, htail⟩ := List.map_eq_cons_iff.1 h
  obtain ⟨first, more, rfl, hfirst, hmore⟩ := List.map_eq_append_iff.1 htail
  exact ⟨t, first, more, rfl, ht, hfirst, hmore⟩

theorem tokens_of_end {x : Lexeme} (h : toks.map Token.lexeme = [x]) : ∃ t, toks = [t] ∧ t.lexeme = x := by
  obtain ⟨t, tail, rfl, ht, htail⟩ := List.map_eq_cons_iff.1 h
  exact ⟨t, by rw [List.map_eq_nil_iff.1 htail], ht⟩

variable {ms : List (Member ν)} {fields all : List (String × Draft)} {raw key : String}

theorem readMembers_end (ht : t.lexeme = .endObject) (ms : List (Member ν))
    (fields : List (String × Draft)) (after : Tokens) :
    S.readMembers F (rounds + 1) ms fields (.ok t :: after) = (.ok fields, after) := by
  rw [readMembers, bind_of_ok (token_apply t after), ht]
  rfl

theorem unescaped_apply (hkey : unescape raw = .ok key) (ts : Tokens) :
    unescaped raw ts = (.ok key, ts) := by
  unfold unescaped
  rw [hkey]
  rfl

theorem unescaped_eq_ok {ts more : Tokens} (h : unescaped raw ts = (.ok key, more)) :
    unescape raw = .ok key ∧ more = ts := by
  unfold unescaped at h
  cases hkey : unescape raw with
  | ok text => rw [hkey] at h; cases h; exact ⟨rfl, rfl⟩
  | error e => rw [hkey] at h; cases h

theorem readMembers_key (ht : t.lexeme = .key raw) (ms : List (Member ν))
    (fields : List (String × Draft)) (after : Tokens) :
    S.readMembers F (rounds + 1) ms fields (.ok t :: after) = (do
      let key ← unescaped raw
      match memberOf? ms key with
      | some m =>
        let d ← S.readAt F rounds m.target
        S.readMembers F rounds ms (setField fields key d)
      | none =>
        skipValue
        S.readMembers F rounds ms fields : Reader (List (String × Draft))) after := by
  rw [readMembers, bind_of_ok (token_apply t after)]
  cases t
  cases ht
  rfl

theorem readMembers_known (ht : t.lexeme = .key raw) (hkey : unescape raw = .ok key) {m : Member ν}
    (hm : memberOf? ms key = some m) {o : Option Draft} {ts : Tokens}
    (hread : S.readAt F rounds m.target ts = (.ok o, after)) (fields : List (String × Draft)) :
    S.readMembers F (rounds + 1) ms fields (.ok t :: ts) =
      S.readMembers F rounds ms (setField fields key o) after := by
  rw [readMembers_key ht, bind_of_ok (unescaped_apply hkey _), hm]
  exact bind_of_ok hread _

theorem readMembers_unknown (ht : t.lexeme = .key raw) (hkey : unescape raw = .ok key)
    (hm : memberOf? ms key = none) (htoks : toks.map Token.lexeme = u.lexemes)
    (fields : List (String × Draft)) (after : Tokens) :
    S.readMembers F (rounds + 1) ms fields (.ok t :: (toks.map .ok ++ after)) =
      S.readMembers F rounds ms fields after := by
  rw [readMembers_key ht, bind_of_ok (unescaped_apply hkey _), hm]
  exact bind_of_ok (u.reads_skipValue toks after htoks) _

theorem readMembers_entry_eq_ok (ht : t.lexeme = .key raw) (htoks : toks.map Token.lexeme = u.lexemes)
    (solid : ∀ m ∈ ms, S.shape m.target ≠ .stream)
    (h : S.readMembers F (rounds + 1) ms fields (.ok t :: (toks.map .ok ++ after)) = (.ok all, rest)) :
    ∃ key, unescape raw = .ok key ∧
      ((∃ m o, memberOf? ms key = some m ∧
        S.readAt F rounds m.target (toks.map .ok ++ after) = (.ok o, after) ∧
        S.readMembers F rounds ms (setField fields key o) after = (.ok all, rest)) ∨
      (memberOf? ms key = none ∧ S.readMembers F rounds ms fields after = (.ok all, rest))) := by
  rw [readMembers_key ht] at h
  obtain ⟨key, more, hunescaped, h⟩ := bind_eq_ok h
  obtain ⟨hkey, rfl⟩ := unescaped_eq_ok hunescaped
  refine ⟨key, hkey, ?_⟩
  cases hm : memberOf? ms key with
  | some m =>
    rw [hm] at h
    dsimp only at h
    obtain ⟨o, more, hread, hmembers⟩ := bind_eq_ok h
    obtain rfl := rest_of_readAt (solid m (memberOf?_eq_some hm).1) htoks hread
    exact .inl ⟨m, o, rfl, hread, hmembers⟩
  | none =>
    rw [hm] at h
    dsimp only at h
    rw [bind_of_ok (u.reads_skipValue toks _ htoks)] at h
    exact .inr ⟨rfl, h⟩

/-- A field stays as it is where no key that comes denotes its name. -/
theorem readMembers_keeps (solid : ∀ m ∈ ms, S.shape m.target ≠ .stream)
    {entries : List (String × Tree)} (fresh : ∀ e ∈ entries, unescape e.1 ≠ .ok key)
    (htoks : toks.map Token.lexeme = entryLexemes entries ++ [.endObject])
    (h : S.readMembers F rounds ms fields (toks.map .ok ++ after) = (.ok all, rest)) :
    Entries.get? key all = Entries.get? key fields := by
  induction entries generalizing rounds toks fields with
  | nil =>
    obtain ⟨t, rfl, ht⟩ := tokens_of_end htoks
    cases rounds with
    | zero => rw [readMembers] at h; cases h
    | succ rounds =>
      rw [List.map_cons, List.cons_append, readMembers_end ht] at h
      cases h
      rfl
  | cons e entries ih =>
    obtain ⟨raw, u⟩ := e
    obtain ⟨t, first, more, rfl, ht, hfirst, hmore⟩ := tokens_of_entry htoks
    have hentries := fun e he => fresh e (List.mem_cons_of_mem _ he)
    cases rounds with
    | zero => rw [readMembers] at h; cases h
    | succ rounds =>
      rw [List.map_cons, List.cons_append, List.map_append, List.append_assoc] at h
      obtain ⟨key', hkey, ⟨m, o, -, -, hrest⟩ | ⟨-, hrest⟩⟩ := readMembers_entry_eq_ok ht hfirst solid h
      · have hne : key' ≠ key := fun heq => fresh (raw, u) (by simp) (heq ▸ hkey)
        rw [ih hentries hmore hrest, get?_setField, if_neg hne]
      · exact ih hentries hmore hrest

/-! ### Entries of a union -/

variable {found result : Option (String × Draft)}

theorem readVariant_end (ht : t.lexeme = .endObject) (ms : List (Member ν))
    (found : Option (String × Draft)) (after : Tokens) :
    S.readVariant F (rounds + 1) ms found (.ok t :: after) = (.ok found, after) := by
  rw [readVariant, bind_of_ok (token_apply t after), ht]
  rfl

/-- An entry whose value is `null` is passed over, whatever its key. -/
theorem readVariant_null (ht : t.lexeme = .key raw) {t' : Token} (ht' : t'.lexeme = .null)
    (ms : List (Member ν)) (found : Option (String × Draft)) (after : Tokens) :
    S.readVariant F (rounds + 1) ms found (.ok t :: .ok t' :: after) =
      S.readVariant F rounds ms found after := by
  rw [readVariant, bind_of_ok (token_apply t _), ht]
  dsimp only
  rw [bind_of_ok (peek_apply t' after), ht']
  rfl

/-- Any other entry counts by what its key denotes. -/
theorem readVariant_key (ht : t.lexeme = .key raw) (htoks : toks.map Token.lexeme = u.lexemes)
    (hu : u ≠ .null) (ms : List (Member ν)) (found : Option (String × Draft)) (after : Tokens) :
    S.readVariant F (rounds + 1) ms found (.ok t :: (toks.map .ok ++ after)) = (do
      let key ← unescaped raw
      match memberOf? ms key with
      | some m =>
        if found.isSome then failContent .mixedVariants
        match ← S.readAt F rounds m.target with
        | some d => S.readVariant F rounds ms (some (key, d))
        | none => failContent (.nullVariant key)
      | none =>
        skipValue
        S.readVariant F rounds ms found : Reader (Option (String × Draft))) (toks.map .ok ++ after) := by
  obtain ⟨x, xs, hx, -, hnull⟩ := u.lexemes_start
  obtain ⟨t', more, rfl, rfl, -⟩ := List.map_eq_cons_iff.1 (htoks.trans hx)
  rw [readVariant, bind_of_ok (token_apply t _), ht, List.map_cons, List.cons_append]
  dsimp only
  rw [bind_of_ok (peek_apply t' _)]
  cases ht' : t'.lexeme with
  | null => exact absurd (hnull ht') hu
  | _ => rfl

theorem readVariant_known (ht : t.lexeme = .key raw) (hkey : unescape raw = .ok key) {m : Member ν}
    (hm : memberOf? ms key = some m) (htoks : toks.map Token.lexeme = u.lexemes) (hu : u ≠ .null) {d : Draft}
    (hread : S.readAt F rounds m.target (toks.map .ok ++ after) = (.ok (some d), after)) :
    S.readVariant F (rounds + 1) ms none (.ok t :: (toks.map .ok ++ after)) =
      S.readVariant F rounds ms (some (key, d)) after := by
  rw [readVariant_key ht htoks hu, bind_of_ok (unescaped_apply hkey _), hm]
  exact bind_of_ok hread _

theorem readVariant_unknown (ht : t.lexeme = .key raw) (hkey : unescape raw = .ok key)
    (hm : memberOf? ms key = none) (htoks : toks.map Token.lexeme = u.lexemes) (hu : u ≠ .null)
    (found : Option (String × Draft)) (after : Tokens) :
    S.readVariant F (rounds + 1) ms found (.ok t :: (toks.map .ok ++ after)) =
      S.readVariant F rounds ms found after := by
  rw [readVariant_key ht htoks hu, bind_of_ok (unescaped_apply hkey _), hm]
  exact bind_of_ok (u.reads_skipValue toks after htoks) _

theorem readVariant_entry_eq_ok (ht : t.lexeme = .key raw) (htoks : toks.map Token.lexeme = u.lexemes)
    (hu : u ≠ .null) (solid : ∀ m ∈ ms, S.shape m.target ≠ .stream)
    (h : S.readVariant F (rounds + 1) ms found (.ok t :: (toks.map .ok ++ after)) = (.ok result, rest)) :
    ∃ key, unescape raw = .ok key ∧
      ((∃ m d, memberOf? ms key = some m ∧ found = none ∧
        S.readAt F rounds m.target (toks.map .ok ++ after) = (.ok (some d), after) ∧
        S.readVariant F rounds ms (some (key, d)) after = (.ok result, rest)) ∨
      (memberOf? ms key = none ∧ S.readVariant F rounds ms found after = (.ok result, rest))) := by
  rw [readVariant_key ht htoks hu] at h
  obtain ⟨key, more, hunescaped, h⟩ := bind_eq_ok h
  obtain ⟨hkey, rfl⟩ := unescaped_eq_ok hunescaped
  refine ⟨key, hkey, ?_⟩
  cases hm : memberOf? ms key with
  | some m =>
    rw [hm] at h
    dsimp only at h
    cases found with
    | some x => cases h
    | none =>
      obtain ⟨o, more, hread, hvariant⟩ := bind_eq_ok h
      obtain rfl := rest_of_readAt (solid m (memberOf?_eq_some hm).1) htoks hread
      cases o with
      | none => cases hvariant
      | some d => exact .inl ⟨m, d, rfl, rfl, hread, hvariant⟩
  | none =>
    rw [hm] at h
    dsimp only at h
    rw [bind_of_ok (u.reads_skipValue toks _ htoks)] at h
    exact .inr ⟨rfl, h⟩

/-- Once a variant is found, entries are passed over, whatever the draft of the variant and the side. -/
theorem readVariant_found (solid : ∀ m ∈ ms, S.shape m.target ≠ .stream)
    {entries : List (String × Tree)} {x : String × Draft}
    (htoks : toks.map Token.lexeme = entryLexemes entries ++ [.endObject])
    (h : S.readVariant F rounds ms (some x) (toks.map .ok ++ after) = (.ok result, rest)) :
    result = some x ∧ ∀ G y, S.readVariant G rounds ms (some y) (toks.map .ok ++ after) = (.ok (some y), rest) := by
  induction entries generalizing rounds toks with
  | nil =>
    obtain ⟨t, rfl, ht⟩ := tokens_of_end htoks
    cases rounds with
    | zero => rw [readVariant] at h; cases h
    | succ rounds =>
      rw [List.map_cons, List.cons_append, readVariant_end ht] at h
      cases h
      exact ⟨rfl, fun G y => readVariant_end ht ms (some y) after⟩
  | cons e entries ih =>
    obtain ⟨raw, u⟩ := e
    obtain ⟨t, first, more, rfl, ht, hfirst, hmore⟩ := tokens_of_entry htoks
    cases rounds with
    | zero => rw [readVariant] at h; cases h
    | succ rounds =>
      rw [List.map_cons, List.cons_append, List.map_append, List.append_assoc] at h ⊢
      by_cases hu : u = .null
      · subst hu
        obtain ⟨t', rfl, ht'⟩ := tokens_of_end hfirst
        rw [List.map_cons, List.map_nil, List.cons_append, List.nil_append] at h ⊢
        rw [readVariant_null ht ht'] at h
        obtain ⟨hresult, hall⟩ := ih hmore h
        exact ⟨hresult, fun G y => (readVariant_null ht ht' ms (some y) _).trans (hall G y)⟩
      · obtain ⟨key, hkey, ⟨m, d, -, hfound, -⟩ | ⟨hm, hrest⟩⟩ :=
          readVariant_entry_eq_ok ht hfirst hu solid h
        · cases hfound
        · obtain ⟨hresult, hall⟩ := ih hmore hrest
          exact ⟨hresult, fun G y =>
            (readVariant_unknown ht hkey hm hfirst hu (some y) _).trans (hall G y)⟩

end WireShapes.Schema
