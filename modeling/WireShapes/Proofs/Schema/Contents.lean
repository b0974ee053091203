import WireShapes.Proofs.Schema.Leniency

/-!
What is read of a value, told by what lies in it.

* `ReadsAs S F n t o`: the lexemes of `t` are read as `o` in all rounds that they can need
* `Listed`, `Filled`, `Found`: what the items of a list, the entries of a structure and those of a union
  are read as, one after the other
* `Listed.readsAs`, `Filled.readsAs`, `Found.readsAs`: and what the container is read as
* `listed_of_readItems`, `filled_of_readMembers`, `found_of_readVariant`: nothing else is read of them
* `settles`: what is read of a value once, is read of it always
* `ReadsAs.listed`, `ReadsAs.filled`, `ReadsAs.found`: so all that is read of a container is what lies in it
-/

namespace WireShapes.Schema

open Json Reader

variable {ν : Type} {S : Schema ν} {F : Flavour}

/-- The lexemes of the value are read as `o`, in all rounds that they can need. -/
def ReadsAs (S : Schema ν) (F : Flavour) (n : ν) (t : Tree) (o : Option Draft) : Prop :=
  ∀ rounds, 2 * t.lexemes.length ≤ rounds + 1 → (S.readAt F rounds n).Reads t.lexemes o

/-- What is read of the value once, is read of it always. -/
def Settles (S : Schema ν) (F : Flavour) (n : ν) (t : Tree) : Prop :=
  ∀ (rounds : Nat) (toks : List Token) (rest : Tokens) (o : Option Draft),
    toks.map Token.lexeme = t.lexemes → S.readAt F rounds n (toks.map .ok ++ rest) = (.ok o, rest) →
    ReadsAs S F n t o

theorem exists_tokens (xs : List Lexeme) : ∃ toks : List Token, toks.map Token.lexeme = xs :=
  ⟨xs.map (Token.mk 0), by simp [Function.comp_def]⟩

/-- Where something is read, there is a run that reads it. -/
theorem ReadsAs.run {n : ν} {t : Tree} {o : Option Draft} (h : ReadsAs S F n t o) :
    ∃ (rounds : Nat) (toks : List Token), toks.map Token.lexeme = t.lexemes ∧
      S.readAt F rounds n (toks.map .ok ++ []) = (.ok o, []) := by
  obtain ⟨toks, htoks⟩ := exists_tokens t.lexemes
  exact ⟨2 * t.lexemes.length, toks, htoks, h _ (by omega) toks [] htoks⟩

theorem ReadsAs.unique {n : ν} {t : Tree} {o o' : Option Draft} (h : ReadsAs S F n t o)
    (h' : ReadsAs S F n t o') : o = o' := by
  obtain ⟨toks, htoks⟩ := exists_tokens t.lexemes
  have hrun := h (2 * t.lexemes.length) (by omega) toks [] htoks
  rw [h' (2 * t.lexemes.length) (by omega) toks [] htoks] at hrun
  exact (Except.ok.inj (Prod.mk.inj hrun).1).symm

/-! ### Items -/

/-- What the items of a list are read as. -/
inductive Listed (S : Schema ν) (F : Flavour) (item : ν) : List Tree → List Draft → Prop
  | nil : Listed S F item [] []
  | cons {u : Tree} {items : List Tree} {o : Option Draft} {ds : List Draft} (value : ReadsAs S F item u o)
      (absent : o = none → F = .client) (rest : Listed S F item items ds) :
      Listed S F item (u :: items) (keepItem o ds)

theorem Listed.reads {item : ν} {items : List Tree} {ds : List Draft} (h : Listed S F item items ds)
    (rounds : Nat) (hrounds : 2 * ((itemLexemes items).length + 1) ≤ rounds) :
    (S.readItems F rounds item).Reads (itemLexemes items ++ [.endArray]) ds := by
  induction h generalizing rounds with
  | nil =>
    obtain ⟨rounds, rfl⟩ := Nat.exists_eq_add_one_of_ne_zero (by omega : rounds ≠ 0)
    intro toks rest htoks
    obtain ⟨t, rfl, ht⟩ := tokens_of_end htoks
    exact readItems_end ht item
  | @cons u items o ds value absent _ ih =>
    obtain ⟨x, xs, hx, -⟩ := u.lexemes_start
    have hpos : 0 < u.lexemes.length := by simp [hx]
    rw [itemLexemes, List.length_append] at hrounds
    obtain ⟨rounds, rfl⟩ := Nat.exists_eq_add_one_of_ne_zero (by omega : rounds ≠ 0)
    intro toks rest htoks
    rw [itemLexemes, List.append_assoc] at htoks
    obtain ⟨first, more, rfl, hfirst, hmore⟩ := List.map_eq_append_iff.1 htoks
    rw [List.map_append, List.append_assoc]
    exact readItems_item hfirst (value rounds (by omega) first _ hfirst) absent
      (ih rounds (by omega) more rest hmore)

theorem listed_of_readItems {item : ν} (solid : S.shape item ≠ .stream) {items : List Tree}
    (each : ∀ u ∈ items, Settles S F item u) {rounds : Nat} {toks : List Token} {after rest : Tokens}
    {ds : List Draft} (htoks : toks.map Token.lexeme = itemLexemes items ++ [.endArray])
    (hread : S.readItems F rounds item (toks.map .ok ++ after) = (.ok ds, rest)) :
    Listed S F item items ds := by
  induction items generalizing rounds toks ds with
  | nil =>
    obtain ⟨t, rfl, ht⟩ := tokens_of_end htoks
    cases rounds with
    | zero => rw [readItems] at hread; cases hread
    | succ rounds =>
      rw [List.map_cons, List.cons_append, readItems_end ht] at hread
      cases hread
      exact .nil
  | cons u items ih =>
    rw [itemLexemes, List.append_assoc] at htoks
    obtain ⟨first, more, rfl, hfirst, hmore⟩ := List.map_eq_append_iff.1 htoks
    cases rounds with
    | zero => rw [readItems] at hread; cases hread
    | succ rounds =>
      rw [List.map_append, List.append_assoc] at hread
      obtain ⟨o, ds, hitem, habsent, hitems, rfl⟩ := readItems_item_eq_ok hfirst solid hread
      exact .cons (each u (by simp) rounds first _ o hfirst hitem) habsent
        (ih (fun v hv => each v (by simp [hv])) hmore hitems)

/-! ### Entries of a structure -/

/-- An entry takes a round, and leaves those that its value and the entries after it can need. -/
theorem rounds_of_entry {raw : String} {u : Tree} {entries : List (String × Tree)} {rounds : Nat}
    (h : 2 * ((entryLexemes ((raw, u) :: entries)).length + 1) ≤ rounds) :
    ∃ more, rounds = more + 1 ∧ 2 * u.lexemes.length ≤ more + 1 ∧
      2 * ((entryLexemes entries).length + 1) ≤ more := by
  rw [entryLexemes, List.length_cons, List.length_append] at h
  obtain ⟨more, rfl⟩ := Nat.exists_eq_add_one_of_ne_zero (by omega : rounds ≠ 0)
  exact ⟨more, rfl, by omega, by omega⟩

theorem reads_entry {α : Type} {x y : Reader α} {raw : String} {u : Tree} {entries : List (String × Tree)}
    {a : α} (step : ∀ (t : Token) (first : List Token) (after : Tokens), t.lexeme = .key raw →
      first.map Token.lexeme = u.lexemes → x (.ok t :: (first.map .ok ++ after)) = y after)
    (h : y.Reads (entryLexemes entries ++ [.endObject]) a) :
    x.Reads (entryLexemes ((raw, u) :: entries) ++ [.endObject]) a := by
  intro toks rest htoks
  obtain ⟨t, first, more, rfl, ht, hfirst, hmore⟩ := tokens_of_entry htoks
  rw [List.map_cons, List.cons_append, List.map_append, List.append_assoc, step t first _ ht hfirst]
  exact h more rest hmore

/-- The fields after the entries of a structure are read, from those in hand before. -/
inductive Filled (S : Schema ν) (F : Flavour) (ms : List (Member ν)) :
    List (String × Draft) → List (String × Tree) → List (String × Draft) → Prop
  | nil {fields : List (String × Draft)} : Filled S F ms fields [] fields
  | known {raw name : String} {u : Tree} {entries : List (String × Tree)}
      {fields all : List (String × Draft)} {m : Member ν} {o : Option Draft}
      (key : unescape raw = .ok name) (member : memberOf? ms name = some m)
      (value : ReadsAs S F m.target u o) (rest : Filled S F ms (setField fields name o) entries all) :
      Filled S F ms fields ((raw, u) :: entries) all
  | unknown {raw name : String} {u : Tree} {entries : List (String × Tree)}
      {fields all : List (String × Draft)} (key : unescape raw = .ok name)
      (member : memberOf? ms name = none) (rest : Filled S F ms fields entries all) :
      Filled S F ms fields ((raw, u) :: entries) all

theorem Filled.reads {ms : List (Member ν)} {entries : List (String × Tree)}
    {fields all : List (String × Draft)} (h : Filled S F ms fields entries all) (rounds : Nat)
    (hrounds : 2 * ((entryLexemes entries).length + 1) ≤ rounds) :
    (S.readMembers F rounds ms fields).Reads (entryLexemes entries ++ [.endObject]) all := by
  induction h generalizing rounds with
  | nil =>
    obtain ⟨rounds, rfl⟩ := Nat.exists_eq_add_one_of_ne_zero (by omega : rounds ≠ 0)
    intro toks rest htoks
    obtain ⟨t, rfl, ht⟩ := tokens_of_end htoks
    exact readMembers_end ht ms _ rest
  | known key member value _ ih =>
    obtain ⟨rounds, rfl, hvalue, hrest⟩ := rounds_of_entry hrounds
    refine reads_entry (fun t first after ht hfirst => ?_) (ih rounds hrest)
    exact readMembers_known ht key member (value rounds hvalue first after hfirst) _
  | unknown key member _ ih =>
    obtain ⟨rounds, rfl, -, hrest⟩ := rounds_of_entry hrounds
    refine reads_entry (fun t first after ht hfirst => ?_) (ih rounds hrest)
    exact readMembers_unknown ht key member hfirst _ after

theorem filled_of_readMembers {ms : List (Member ν)} (solid : ∀ m ∈ ms, S.shape m.target ≠ .stream)
    {entries : List (String × Tree)}
    (each : ∀ u ∈ entries.map Prod.snd, ∀ m ∈ ms, Settles S F m.target u) {rounds : Nat}
    {toks : List Token} {after rest : Tokens} {fields all : List (String × Draft)}
    (htoks : toks.map Token.lexeme = entryLexemes entries ++ [.endObject])
    (hread : S.readMembers F rounds ms fields (toks.map .ok ++ after) = (.ok all, rest)) :
    Filled S F ms fields entries all := by
  induction entries generalizing rounds toks fields with
  | nil =>
    obtain ⟨t, rfl, ht⟩ := tokens_of_end htoks
    cases rounds with
    | zero => rw [readMembers] at hread; cases hread
    | succ rounds =>
      rw [List.map_cons, List.cons_append, readMembers_end ht] at hread
      cases hread
      exact .nil
  | cons e entries ih =>
    obtain ⟨raw, u⟩ := e
    obtain ⟨t, first, more, rfl, ht, hfirst, hmore⟩ := tokens_of_entry htoks
    rw [List.map_cons, List.forall_mem_cons] at each
    cases rounds with
    | zero => rw [readMembers] at hread; cases hread
    | succ rounds =>
      rw [List.map_cons, List.cons_append, List.map_append, List.append_assoc] at hread
      obtain ⟨name, hname, ⟨m, o, hm, hvalue, hrest⟩ | ⟨hm, hrest⟩⟩ :=
        readMembers_entry_eq_ok ht hfirst solid hread
      · exact .known hname hm (each.1 m (memberOf?_eq_some hm).1 rounds first _ o hfirst hvalue)
          (ih each.2 hmore hrest)
      · exact .unknown hname hm (ih each.2 hmore hrest)

/-! ### Entries of a union -/

/-- The variant after the entries of a union are read, from the one in hand before. -/
inductive Found (S : Schema ν) (F : Flavour) (ms : List (Member ν)) :
    Option (String × Draft) → List (String × Tree) → Option (String × Draft) → Prop
  | nil {found : Option (String × Draft)} : Found S F ms found [] found
  | null {raw : String} {entries : List (String × Tree)} {found result : Option (String × Draft)}
      (rest : Found S F ms found entries result) : Found S F ms found ((raw, .null) :: entries) result
  | known {raw name : String} {u : Tree} {entries : List (String × Tree)} {m : Member ν} {d : Draft}
      {result : Option (String × Draft)} (present : u ≠ .null) (key : unescape raw = .ok name)
      (member : memberOf? ms name = some m) (value : ReadsAs S F m.target u (some d))
      (rest : Found S F ms (some (name, d)) entries result) :
      Found S F ms none ((raw, u) :: entries) result
  | unknown {raw name : String} {u : Tree} {entries : List (String × Tree)}
      {found result : Option (String × Draft)} (present : u ≠ .null) (key : unescape raw = .ok name)
      (member : memberOf? ms name = none) (rest : Found S F ms found entries result) :
      Found S F ms found ((raw, u) :: entries) result

theorem Found.reads {ms : List (Member ν)} {entries : List (String × Tree)}
    {found result : Option (String × Draft)} (h : Found S F ms found entries result) (rounds : Nat)
    (hrounds : 2 * ((entryLexemes entries).length + 1) ≤ rounds) :
    (S.readVariant F rounds ms found).Reads (entryLexemes entries ++ [.endObject]) result := by
  induction h generalizing rounds with
  | nil =>
    obtain ⟨rounds, rfl⟩ := Nat.exists_eq_add_one_of_ne_zero (by omega : rounds ≠ 0)
    intro toks rest htoks
    obtain ⟨t, rfl, ht⟩ := tokens_of_end htoks
    exact readVariant_end ht ms _ rest
  | null _ ih =>
    obtain ⟨rounds, rfl, -, hrest⟩ := rounds_of_entry hrounds
    refine reads_entry (fun t first after ht hfirst => ?_) (ih rounds hrest)
    obtain ⟨t', rfl, ht'⟩ := tokens_of_end hfirst
    exact readVariant_null ht ht' ms _ after
  | known present key member value _ ih =>
    obtain ⟨rounds, rfl, hvalue, hrest⟩ := rounds_of_entry hrounds
    refine reads_entry (fun t first after ht hfirst => ?_) (ih rounds hrest)
    exact readVariant_known ht key member hfirst present (value rounds hvalue first after hfirst)
  | unknown present key member _ ih =>
    obtain ⟨rounds, rfl, -, hrest⟩ := rounds_of_entry hrounds
    refine reads_entry (fun t first after ht hfirst => ?_) (ih rounds hrest)
    exact readVariant_unknown ht key member hfirst present _ after

theorem found_of_readVariant {ms : List (Member ν)} (solid : ∀ m ∈ ms, S.shape m.target ≠ .stream)
    {entries : List (String × Tree)}
    (each : ∀ u ∈ entries.map Prod.snd, ∀ m ∈ ms, Settles S F m.target u) {rounds : Nat}
    {toks : List Token} {after rest : Tokens} {found result : Option (String × Draft)}
    (htoks : toks.map Token.lexeme = entryLexemes entries ++ [.endObject])
    (hread : S.readVariant F rounds ms found (toks.map .ok ++ after) = (.ok result, rest)) :
    Found S F ms found entries result := by
  induction entries generalizing rounds toks found with
  | nil =>
    obtain ⟨t, rfl, ht⟩ := tokens_of_end htoks
    cases rounds with
    | zero => rw [readVariant] at hread; cases hread
    | succ rounds =>
      rw [List.map_cons, List.cons_append, readVariant_end ht] at hread
      cases hread
      exact .nil
  | cons e entries ih =>
    obtain ⟨raw, u⟩ := e
    obtain ⟨t, first, more, rfl, ht, hfirst, hmore⟩ := tokens_of_entry htoks
    rw [List.map_cons, List.forall_mem_cons] at each
    cases rounds with
    | zero => rw [readVariant] at hread; cases hread
    | succ rounds =>
      rw [List.map_cons, List.cons_append, List.map_append, List.append_assoc] at hread
      by_cases hu : u = .null
      · subst hu
        obtain ⟨t', rfl, ht'⟩ := tokens_of_end hfirst
        rw [List.map_cons, List.map_nil, List.cons_append, List.nil_append, readVariant_null ht ht'] at hread
        exact .null (ih each.2 hmore hread)
      · obtain ⟨name, hname, ⟨m, d, hm, rfl, hvalue, hrest⟩ | ⟨hm, hrest⟩⟩ :=
          readVariant_entry_eq_ok ht hfirst hu solid hread
        · exact .known hu hname hm (each.1 m (memberOf?_eq_some hm).1 rounds first _ _ hfirst hvalue)
            (ih each.2 hmore hrest)
        · exact .unknown hu hname hm (ih each.2 hmore hrest)

/-! ### Simple values -/

theorem steady_readInteger : Steady readInteger := by
  refine steady_number.bind fun r => ?_
  split
  · exact steady_pure _
  · split
    · exact steady_pure _
    · exact steady_failWith _

theorem settles_simple {α : Type} {n : ν} {r : Reader (Option α)} {f : α → Draft} (hr : Steady r)
    (reader : ∀ rounds, S.readAt F (rounds + 1) n = do return (← r).map f) (t : Tree) : Settles S F n t := by
  intro rounds toks rest o htoks hread
  have hsteady : Steady (do return (← r).map f : Reader (Option Draft)) := hr.bind fun _ => steady_pure _
  cases rounds with
  | zero => rw [readAt] at hread; cases hread
  | succ rounds =>
    rw [reader] at hread
    obtain ⟨toks', heq, hreads⟩ := hsteady _ _ _ hread
    obtain rfl := map_ok_inj.1 (List.append_cancel_right heq)
    intro rounds' hrounds
    obtain ⟨x, xs, hx, -⟩ := t.lexemes_start
    rw [hx, List.length_cons] at hrounds
    obtain ⟨rounds', rfl⟩ := Nat.exists_eq_add_one_of_ne_zero (by omega : rounds' ≠ 0)
    rw [reader, ← htoks]
    exact hreads

/-! ### Containers -/

theorem reads_readOpening_null {start : Lexeme} (hstart : start ≠ .null) (what : Wanted) :
    (readOpening start what).Reads [.null] false := by
  refine Reads.token fun t ht => ?_
  rw [if_neg fun hc => hstart (hc.symm.trans ht), if_pos ht]
  exact reads_pure false

section Container

variable {n : ν} {start : Lexeme} {what : Wanted} {body : Nat → Reader (Option Draft)}
  (reader : ∀ rounds, S.readAt F (rounds + 1) n =
    do if ← readOpening start what then body rounds else return none)

include reader

/-- A container is read as what its contents are read as. -/
theorem readsAs_of_body {t : Tree} {xs : List Lexeme} {o : Option Draft} (ht : t.lexemes = start :: xs)
    (h : ∀ rounds, 2 * xs.length ≤ rounds → (body rounds).Reads xs o) : ReadsAs S F n t o := by
  intro rounds hrounds
  rw [ht, List.length_cons] at hrounds
  obtain ⟨rounds, rfl⟩ := Nat.exists_eq_add_one_of_ne_zero (by omega : rounds ≠ 0)
  rw [reader, ht]
  refine (reads_readOpening start what).bind ?_
  rw [if_pos rfl]
  exact h rounds (by omega)

theorem readsAs_null (hstart : start ≠ .null) : ReadsAs S F n .null none := by
  intro rounds hrounds
  rw [Tree.lexemes, List.length_singleton] at hrounds
  obtain ⟨rounds, rfl⟩ := Nat.exists_eq_add_one_of_ne_zero (by omega : rounds ≠ 0)
  rw [reader, Tree.lexemes]
  exact (reads_readOpening_null hstart what).bind (reads_pure none)

/-- What is read is `null`, or a container and what lies in it. -/
theorem body_of_readAt {t : Tree} {rounds : Nat} {toks : List Token} {rest : Tokens} {o : Option Draft}
    (htoks : toks.map Token.lexeme = t.lexemes)
    (hread : S.readAt F rounds n (toks.map .ok ++ rest) = (.ok o, rest)) :
    (t = .null ∧ o = none) ∨ ∃ (rounds : Nat) (inner : List Token),
      t.lexemes = start :: inner.map Token.lexeme ∧ body rounds (inner.map .ok ++ rest) = (.ok o, rest) := by
  cases rounds with
  | zero => rw [readAt] at hread; cases hread
  | succ rounds =>
    rw [reader] at hread
    obtain ⟨opens, more, hopen, hgo⟩ := bind_eq_ok hread
    cases opens with
    | true =>
      obtain ⟨inner, hlex, rfl⟩ := opening_of_lexemes htoks hopen
      exact .inr ⟨rounds, inner, hlex, hgo⟩
    | false =>
      cases hgo
      obtain ⟨x, xs, hx, -, hnull⟩ := t.lexemes_start
      obtain ⟨u, inner, rfl, rfl, -⟩ := List.map_eq_cons_iff.1 (htoks.trans hx)
      obtain ⟨u', heq, ⟨hc, -⟩ | ⟨-, hu⟩⟩ := readOpening_eq_ok hopen
      · cases hc
      · obtain rfl := Except.ok.inj (List.cons.inj heq).1
        exact .inl ⟨hnull hu, rfl⟩

end Container

/-! ### Lists -/

theorem readAt_list {n item : ν} (shape : S.shape n = .list item) (rounds : Nat) :
    S.readAt F (rounds + 1) n = (do
      if ← readOpening .startArray .arrayOrNull then
        return some (.list (← S.readItems F rounds item))
      else return none) := by
  rw [readAt, shape]

theorem Listed.readsAs {n item : ν} (shape : S.shape n = .list item) {items : List Tree} {ds : List Draft}
    (h : Listed S F item items ds) : ReadsAs S F n (.array items) (some (.list ds)) := by
  refine readsAs_of_body (readAt_list shape) (by rw [Tree.lexemes]) fun rounds hrounds => ?_
  rw [List.length_append, List.length_singleton] at hrounds
  exact (h.reads rounds hrounds).map fun ds => some (Draft.list ds)

theorem listed_of_readAt {n item : ν} (shape : S.shape n = .list item) (solid : S.shape item ≠ .stream)
    {t : Tree} (each : ∀ u ∈ t.children, Settles S F item u) {rounds : Nat} {toks : List Token}
    {rest : Tokens} {o : Option Draft} (htoks : toks.map Token.lexeme = t.lexemes)
    (hread : S.readAt F rounds n (toks.map .ok ++ rest) = (.ok o, rest)) :
    (t = .null ∧ o = none) ∨
      ∃ items ds, t = .array items ∧ o = some (.list ds) ∧ Listed S F item items ds := by
  refine (body_of_readAt (readAt_list shape) htoks hread).imp_right ?_
  rintro ⟨rounds, inner, hlex, hbody⟩
  obtain ⟨items, rfl, hinner⟩ := Tree.array_of_lexemes hlex
  obtain ⟨ds, more, hitems, hend⟩ := bind_eq_ok hbody
  cases hend
  exact ⟨items, ds, rfl, rfl, listed_of_readItems solid each hinner hitems⟩

/-! ### Structures -/

theorem steady_finish (n : ν) (d : Draft) : Steady (S.finish F n d) := by
  unfold finish
  split
  · split
    · exact steady_pure _
    · exact steady_failWith _
  · exact steady_pure _

theorem steady_noVariant : Steady (noVariant F) := by
  unfold noVariant
  split
  · exact steady_pure _
  · exact steady_failWith _

theorem readAt_struct {n : ν} {ms : List (Member ν)} (shape : S.shape n = .struct ms)
    (placed : ∀ m ∈ ms, m.place ≠ .stream) (rounds : Nat) :
    S.readAt F (rounds + 1) n = (do
      if ← readOpening .startObject .objectOrNull then
        let fields ← S.readMembers F rounds ms []
        return some (← S.finish F n (.struct fields))
      else return none) := by
  have hms := members_of_struct shape
  have hdoc : S.documentMembers n = ms := (documentMembers_eq (hms ▸ placed)).trans hms
  rw [readAt, shape, hdoc]

theorem Filled.readsAs {n : ν} {ms : List (Member ν)} (shape : S.shape n = .struct ms)
    (placed : ∀ m ∈ ms, m.place ≠ .stream) {entries : List (String × Tree)} {all : List (String × Draft)}
    (h : Filled S F ms [] entries all) {d : Draft} (hd : (S.finish F n (.struct all)).Reads [] d) :
    ReadsAs S F n (.object entries) (some d) := by
  refine readsAs_of_body (readAt_struct shape placed) (by rw [Tree.lexemes]) fun rounds hrounds => ?_
  rw [List.length_append, List.length_singleton] at hrounds
  rw [← List.append_nil (entryLexemes entries ++ _)]
  exact (h.reads rounds hrounds).bind (hd.map some)

theorem filled_of_readAt {n : ν} {ms : List (Member ν)} (shape : S.shape n = .struct ms)
    (placed : ∀ m ∈ ms, m.place ≠ .stream) (solid : ∀ m ∈ ms, S.shape m.target ≠ .stream) {t : Tree}
    (each : ∀ u ∈ t.children, ∀ m ∈ ms, Settles S F m.target u) {rounds : Nat} {toks : List Token}
    {rest : Tokens} {o : Option Draft} (htoks : toks.map Token.lexeme = t.lexemes)
    (hread : S.readAt F rounds n (toks.map .ok ++ rest) = (.ok o, rest)) :
    (t = .null ∧ o = none) ∨ ∃ entries all d, t = .object entries ∧ o = some d ∧
      Filled S F ms [] entries all ∧ (S.finish F n (.struct all)).Reads [] d := by
  refine (body_of_readAt (readAt_struct shape placed) htoks hread).imp_right ?_
  rintro ⟨rounds, inner, hlex, hbody⟩
  obtain ⟨entries, rfl, hinner⟩ := Tree.object_of_lexemes hlex
  obtain ⟨all, more, hmembers, hgo⟩ := bind_eq_ok hbody
  obtain ⟨d, more', hfinish, hend⟩ := bind_eq_ok hgo
  cases hend
  exact ⟨entries, all, d, rfl, rfl, filled_of_readMembers solid each hinner hmembers,
    (steady_finish n _).reads_nil (stays_finish n _) hfinish⟩

/-! ### Unions -/

/-- A union after all its entries. -/
def finishVariant (S : Schema ν) (F : Flavour) (n : ν) (found : Option (String × Draft)) : Reader Draft :=
  found.elim (noVariant F) fun x => S.finish F n (.variant x.1 x.2)

theorem steady_finishVariant (n : ν) (found : Option (String × Draft)) :
    Steady (finishVariant S F n found) := by
  cases found with
  | none => exact steady_noVariant
  | some x => exact steady_finish n _

theorem stays_finishVariant (n : ν) (found : Option (String × Draft)) :
    Stays (finishVariant S F n found) := by
  cases found with
  | none => exact stays_noVariant
  | some x => exact stays_finish n _

theorem readAt_variant {n : ν} {ms : List (Member ν)} (shape : S.shape n = .union ms) (rounds : Nat) :
    S.readAt F (rounds + 1) n = (do
      if ← readOpening .startObject .objectOrNull then
        let found ← S.readVariant F rounds ms none
        return some (← finishVariant S F n found)
      else return none) := by
  rw [readAt_union shape]
  refine bind_congr fun opens => ?_
  cases opens with
  | false => rfl
  | true => exact bind_congr fun found => by cases found <;> rfl

theorem Found.readsAs {n : ν} {ms : List (Member ν)} (shape : S.shape n = .union ms)
    {entries : List (String × Tree)} {found : Option (String × Draft)} (h : Found S F ms none entries found)
    {d : Draft} (hd : (finishVariant S F n found).Reads [] d) :
    ReadsAs S F n (.object entries) (some d) := by
  refine readsAs_of_body (readAt_variant shape) (by rw [Tree.lexemes]) fun rounds hrounds => ?_
  rw [List.length_append, List.length_singleton] at hrounds
  rw [← List.append_nil (entryLexemes entries ++ _)]
  exact (h.reads rounds hrounds).bind (hd.map some)

theorem found_of_readAt {n : ν} {ms : List (Member ν)} (shape : S.shape n = .union ms)
    (solid : ∀ m ∈ ms, S.shape m.target ≠ .stream) {t : Tree}
    (each : ∀ u ∈ t.children, ∀ m ∈ ms, Settles S F m.target u) {rounds : Nat} {toks : List Token}
    {rest : Tokens} {o : Option Draft} (htoks : toks.map Token.lexeme = t.lexemes)
    (hread : S.readAt F rounds n (toks.map .ok ++ rest) = (.ok o, rest)) :
    (t = .null ∧ o = none) ∨ ∃ entries found d, t = .object entries ∧ o = some d ∧
      Found S F ms none entries found ∧ (finishVariant S F n found).Reads [] d := by
  refine (body_of_readAt (readAt_variant shape) htoks hread).imp_right ?_
  rintro ⟨rounds, inner, hlex, hbody⟩
  obtain ⟨entries, rfl, hinner⟩ := Tree.object_of_lexemes hlex
  obtain ⟨found, more, hvariant, hgo⟩ := bind_eq_ok hbody
  obtain ⟨d, more', hfinish, hend⟩ := bind_eq_ok hgo
  cases hend
  exact ⟨entries, found, d, rfl, rfl, found_of_readVariant solid each hinner hvariant,
    (steady_finishVariant n found).reads_nil (stays_finishVariant n found) hfinish⟩

/-! ### All values -/

/-- **What is read of a value once, is read of it always**: nothing but the value counts. -/
theorem settles {P : ν → Prop} (hP : DocumentClass S P) (t : Tree) {n : ν} (hn : P n) :
    Settles S F n t := by
  induction t using Tree.induct generalizing n with
  | step t ih =>
    have part : ∀ ms, S.members n = ms → ∀ m ∈ ms, P m.target ∧ m.place ≠ .stream :=
      fun ms hms => hms ▸ hP.member n hn
    cases shape : S.shape n with
    | text rule => exact settles_simple steady_string (fun rounds => by rw [readAt, shape]) t
    | enumeration constants => exact settles_simple steady_string (fun rounds => by rw [readAt, shape]) t
    | integer range => exact settles_simple steady_readInteger (fun rounds => by rw [readAt, shape]) t
    | boolean => exact settles_simple steady_bool (fun rounds => by rw [readAt, shape]) t
    | blob => exact absurd shape (hP.solid n hn).1
    | stream => exact absurd shape (hP.solid n hn).2
    | list item =>
      intro rounds toks rest o htoks hread
      have hitem := hP.item n item hn shape
      obtain ⟨rfl, rfl⟩ | ⟨items, ds, rfl, rfl, h⟩ := listed_of_readAt shape (hP.solid item hitem).2
        (fun u hu => ih u hu hitem) htoks hread
      · exact readsAs_null (readAt_list shape) (by simp)
      · exact h.readsAs shape
    | struct ms =>
      intro rounds toks rest o htoks hread
      have hms := part ms (members_of_struct shape)
      have placed := fun m hm => (hms m hm).2
      obtain ⟨rfl, rfl⟩ | ⟨entries, all, d, rfl, rfl, h, hd⟩ := filled_of_readAt shape placed
        (fun m hm => (hP.solid _ (hms m hm).1).2) (fun u hu m hm => ih u hu (hms m hm).1) htoks hread
      · exact readsAs_null (readAt_struct shape placed) (by simp)
      · exact h.readsAs shape placed hd
    | union ms =>
      intro rounds toks rest o htoks hread
      have hms := part ms (members_of_union shape)
      obtain ⟨rfl, rfl⟩ | ⟨entries, found, d, rfl, rfl, h, hd⟩ := found_of_readAt shape
        (fun m hm => (hP.solid _ (hms m hm).1).2) (fun u hu m hm => ih u hu (hms m hm).1) htoks hread
      · exact readsAs_null (readAt_variant shape) (by simp)
      · exact h.readsAs shape hd

section Kinds

variable {P : ν → Prop} (hP : DocumentClass S P) {n : ν} (hn : P n) {t : Tree} {o : Option Draft}
  (h : ReadsAs S F n t o)

include hP hn h

theorem ReadsAs.listed {item : ν} (shape : S.shape n = .list item) : (t = .null ∧ o = none) ∨
    ∃ items ds, t = .array items ∧ o = some (.list ds) ∧ Listed S F item items ds := by
  obtain ⟨rounds, toks, htoks, hread⟩ := h.run
  have hitem := hP.item n item hn shape
  exact listed_of_readAt shape (hP.solid item hitem).2 (fun u _ => settles hP u hitem) htoks hread

theorem ReadsAs.filled {ms : List (Member ν)} (shape : S.shape n = .struct ms) : (t = .null ∧ o = none) ∨
    ∃ entries all d, t = .object entries ∧ o = some d ∧ Filled S F ms [] entries all ∧
      (S.finish F n (.struct all)).Reads [] d := by
  obtain ⟨rounds, toks, htoks, hread⟩ := h.run
  have hms := members_of_struct shape ▸ hP.member n hn
  exact filled_of_readAt shape (fun m hm => (hms m hm).2) (fun m hm => (hP.solid _ (hms m hm).1).2)
    (fun u _ m hm => settles hP u (hms m hm).1) htoks hread

theorem ReadsAs.found {ms : List (Member ν)} (shape : S.shape n = .union ms) : (t = .null ∧ o = none) ∨
    ∃ entries found d, t = .object entries ∧ o = some d ∧ Found S F ms none entries found ∧
      (finishVariant S F n found).Reads [] d := by
  obtain ⟨rounds, toks, htoks, hread⟩ := h.run
  have hms := members_of_union shape ▸ hP.member n hn
  exact found_of_readAt shape (fun m hm => (hP.solid _ (hms m hm).1).2)
    (fun u _ m hm => settles hP u (hms m hm).1) htoks hread

end Kinds

end WireShapes.Schema
