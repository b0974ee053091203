import WireShapes.Proofs.Json.Documents

/-!
Where documents come from.

* `Reader.Draws x P`: whatever `x` reads, it has taken tokens that say something with `P`
* `Reader.Draws.bind` and its companions: what readers in a row have taken
* `tree_of_document`: a document that is read is that of the value whose tokens were taken, which lies inside few
  enough containers
* `Document.Distinct`, `Document.Holds`: no object of a document repeats a key; a number stands in it
* `Tree.distinct_document`, `Tree.level_document`, `Tree.holds_document`: so it is with the document of a value; it
  lies no deeper than the value, and has no numbers that the value has not
-/

namespace WireShapes.Json

/-! ### Tokens that were taken -/

namespace Reader

variable {α β : Type}

/-- Whatever the reader reads without a failure, it has taken tokens that say something with the property. -/
def Draws (x : Reader α) (P : List Lexeme → α → Prop) : Prop :=
  ∀ ts a rest, x ts = (.ok a, rest) → ∃ toks : List Token, ts = toks.map .ok ++ rest ∧ P (toks.map Token.lexeme) a

theorem draws_pure {a : α} {P : List Lexeme → α → Prop} (h : P [] a) : Draws (pure a) P := by
  intro ts b rest hb
  cases hb
  exact ⟨[], rfl, h⟩

theorem draws_failWith (e : ReadError) {P : List Lexeme → α → Prop} : Draws (failWith e : Reader α) P := by
  intro ts a rest h
  cases h

theorem Draws.bind {x : Reader α} {f : α → Reader β} {Q : List Lexeme → α → Prop} {P : List Lexeme → β → Prop}
    (hx : Draws x Q) (hf : ∀ xs a, Q xs a → Draws (f a) fun ys b => P (xs ++ ys) b) : Draws (x >>= f) P := by
  intro ts b rest h
  obtain ⟨a, more, ha, hb⟩ := bind_eq_ok h
  obtain ⟨toks, rfl, hQ⟩ := hx ts a more ha
  obtain ⟨toks', rfl, hP⟩ := hf _ a hQ more b rest hb
  exact ⟨toks ++ toks', by rw [List.map_append, List.append_assoc], by rwa [List.map_append]⟩

theorem Draws.imp {x : Reader α} {P Q : List Lexeme → α → Prop} (h : Draws x P) (hPQ : ∀ xs a, P xs a → Q xs a) :
    Draws x Q := by
  intro ts a rest hread
  obtain ⟨toks, hts, hP⟩ := h ts a rest hread
  exact ⟨toks, hts, hPQ _ _ hP⟩

theorem Draws.map {x : Reader α} {f : α → β} {Q : List Lexeme → α → Prop} {P : List Lexeme → β → Prop}
    (hx : Draws x Q) (hf : ∀ xs a, Q xs a → P xs (f a)) : Draws (do return f (← x)) P :=
  hx.bind fun xs a hQ => draws_pure (by rw [List.append_nil]; exact hf xs a hQ)

theorem Draws.token {f : Token → Reader β} {P : List Lexeme → β → Prop}
    (h : ∀ t, Draws (f t) fun xs b => P (t.lexeme :: xs) b) : Draws (Reader.token >>= f) P := by
  intro ts b rest hread
  obtain ⟨t, more, ht, hb⟩ := bind_eq_ok hread
  obtain rfl := token_eq_ok ht
  obtain ⟨toks, rfl, hP⟩ := h t more b rest hb
  exact ⟨t :: toks, rfl, hP⟩

theorem Draws.rounds {f : Nat → Reader β} {P : List Lexeme → β → Prop} (h : ∀ rounds, Draws (f rounds) P) :
    Draws (Reader.rounds >>= f) P := fun ts b rest hread => h _ ts b rest hread

theorem draws_unescaped (raw : String) :
    Draws (unescaped raw) fun xs text => xs = [] ∧ unescape raw = .ok text := by
  unfold unescaped
  split
  · next text htext => exact draws_pure ⟨rfl, htext⟩
  · exact draws_failWith _

/-- The same, where the given lexeme comes next. -/
def DrawsAhead (x : Option Lexeme) (r : Reader α) (P : List Lexeme → α → Prop) : Prop :=
  ∀ ts a rest, peek ts = (.ok x, ts) → r ts = (.ok a, rest) →
    ∃ toks : List Token, ts = toks.map .ok ++ rest ∧ P (toks.map Token.lexeme) a

theorem Draws.ahead {r : Reader α} {P : List Lexeme → α → Prop} (hr : Draws r P) (x : Option Lexeme) :
    DrawsAhead x r P := fun ts a rest _ h => hr ts a rest h

theorem draws_peek {f : Option Lexeme → Reader α} {P : List Lexeme → α → Prop} (h : ∀ x, DrawsAhead x (f x) P) :
    Draws (peek >>= f) P := by
  intro ts a rest hread
  obtain ⟨x, hpeek⟩ := peek_eq_ok ts
  rw [bind_of_ok hpeek] at hread
  exact h x ts a rest hpeek hread

theorem drawsAhead_next {x : Lexeme} {f : Option Token → Reader α} {P : List Lexeme → α → Prop}
    (h : ∀ t, t.lexeme = x → Draws (f (some t)) fun xs a => P (x :: xs) a) : DrawsAhead (some x) (next >>= f) P := by
  intro ts a rest hpeek hread
  obtain ⟨t, more, rfl, ht⟩ := peek_eq_some hpeek
  rw [bind_of_ok (next_apply t more)] at hread
  obtain ⟨toks, rfl, hP⟩ := h t ht more a rest hread
  exact ⟨t :: toks, rfl, by rwa [List.map_cons, ht]⟩

end Reader

/-! ### Readers of documents -/

open Reader

/-- The lexemes are a value inside so many containers, and the document is that of the value. -/
def FromTree (depth : Nat) (xs : List Lexeme) (d : Document) : Prop :=
  ∃ t : Tree, xs = t.lexemes ∧ t.document? = some d ∧ depth + t.level < maxDepth

/-- The lexemes are the items of an array and its end. -/
def FromItems (depth : Nat) (xs : List Lexeme) (ds : List Document) : Prop :=
  ∃ items : List Tree, xs = itemLexemes items ++ [.endArray] ∧ itemDocuments? items = some ds ∧
    depth + Tree.itemsLevel items < maxDepth

/-- The lexemes are the entries of an object after those in hand, and its end. -/
def FromEntries (depth : Nat) (given : List (String × Document)) (xs : List Lexeme)
    (found : List (String × Document)) : Prop :=
  ∃ (entries : List (String × Tree)) (pairs : List (String × Document)),
    xs = entryLexemes entries ++ [.endObject] ∧ entryDocuments? entries = some pairs ∧
    found = pairs.foldl (fun acc p => Entries.insert p.1 p.2 acc) given ∧
    depth + Tree.entriesLevel entries < maxDepth

theorem FromTree.cons {depth : Nat} {xs ys : List Lexeme} {d : Document} {ds : List Document}
    (h : FromTree (depth + 1) xs d) (hs : FromItems depth ys ds) : FromItems depth (xs ++ ys) (d :: ds) := by
  obtain ⟨t, rfl, hd, hlevel⟩ := h
  obtain ⟨items, rfl, hds, hlevels⟩ := hs
  refine ⟨t :: items, by rw [itemLexemes, List.append_assoc], by rw [itemDocuments?, hd, hds]; rfl, ?_⟩
  rw [Tree.itemsLevel]
  omega

theorem FromTree.entry {depth : Nat} {xs ys : List Lexeme} {raw key : String} {d : Document}
    {given found : List (String × Document)} (hkey : unescape raw = .ok key) (h : FromTree (depth + 1) xs d)
    (hs : FromEntries depth (Entries.insert key d given) ys found) :
    FromEntries depth given (.key raw :: (xs ++ ys)) found := by
  obtain ⟨t, rfl, hd, hlevel⟩ := h
  obtain ⟨entries, pairs, rfl, hpairs, hfound, hlevels⟩ := hs
  refine ⟨(raw, t) :: entries, (key, d) :: pairs, ?_, ?_, hfound, ?_⟩
  · rw [entryLexemes, List.cons_append, List.append_assoc]
  · rw [entryDocuments?, hkey, hd, hpairs]
    rfl
  · rw [Tree.entriesLevel]
    omega

/-- How the readers of documents read in that many rounds: what they take are values, and those lie inside few
enough containers. -/
structure DocumentOrigin (rounds : Nat) : Prop where
  value : ∀ depth, Draws (documentAt rounds depth) (FromTree depth)
  items : ∀ depth < maxDepth, Draws (documentItems rounds depth) (FromItems depth)
  entries : ∀ depth < maxDepth, ∀ given, Draws (documentEntries rounds depth given) (FromEntries depth given)

theorem draws_documentAt_succ {rounds : Nat} (h : DocumentOrigin rounds) (depth : Nat) :
    Draws (documentAt (rounds + 1) depth) (FromTree depth) := by
  rcases Nat.lt_or_ge depth maxDepth with hdepth | hdepth
  swap
  · intro ts d rest hread
    rw [documentAt, if_pos hdepth] at hread
    cases hread
  rw [documentAt_succ hdepth]
  refine Draws.token fun t => ?_
  split
  · next hx => exact draws_pure ⟨.null, by rw [hx]; rfl, rfl, hdepth⟩
  · next b hx => exact draws_pure ⟨.bool b, by rw [hx]; rfl, rfl, hdepth⟩
  · next n hx => exact draws_pure ⟨.number n, by rw [hx]; rfl, rfl, hdepth⟩
  · next raw hx =>
    refine (draws_unescaped raw).map ?_
    rintro _ text ⟨rfl, htext⟩
    exact ⟨.string raw, by rw [hx]; rfl, by rw [Tree.document?, htext]; rfl, hdepth⟩
  · next hx =>
    refine (h.items depth hdepth).map ?_
    rintro _ ds ⟨items, rfl, hds, hlevel⟩
    exact ⟨.array items, by rw [hx, Tree.lexemes], by rw [Tree.document?, hds]; rfl, hlevel⟩
  · next hx =>
    refine (h.entries depth hdepth []).map ?_
    rintro _ ds ⟨entries, pairs, rfl, hpairs, rfl, hlevel⟩
    exact ⟨.object entries, by rw [hx, Tree.lexemes], by rw [Tree.document?, hpairs]; rfl, hlevel⟩
  · exact draws_failWith _

theorem draws_documentItems_succ {rounds : Nat} (h : DocumentOrigin rounds) {depth : Nat} (hdepth : depth < maxDepth) :
    Draws (documentItems (rounds + 1) depth) (FromItems depth) := by
  rw [documentItems]
  refine draws_peek fun x => ?_
  split
  · refine drawsAhead_next fun t _ => draws_pure ⟨[], rfl, rfl, hdepth⟩
  · refine Draws.ahead ?_ _
    exact (h.value (depth + 1)).bind fun xs d hd => (h.items depth hdepth).map fun ys ds hds => hd.cons hds

theorem draws_documentEntries_succ {rounds : Nat} (h : DocumentOrigin rounds) {depth : Nat} (hdepth : depth < maxDepth)
    (given : List (String × Document)) :
    Draws (documentEntries (rounds + 1) depth given) (FromEntries depth given) := by
  rw [documentEntries]
  refine Draws.token fun t => ?_
  split
  · next hx => exact draws_pure ⟨[], [], by rw [hx]; rfl, rfl, rfl, hdepth⟩
  · next raw hx =>
    rw [hx]
    refine (draws_unescaped raw).bind ?_
    rintro _ key ⟨rfl, hkey⟩
    refine (h.value (depth + 1)).bind fun xs d hd => ?_
    refine (h.entries depth hdepth _).imp fun ys found hfound => ?_
    rw [List.nil_append]
    exact hd.entry hkey hfound
  · exact draws_failWith _

theorem documentOrigin (rounds : Nat) : DocumentOrigin rounds := by
  induction rounds with
  | zero =>
    refine ⟨fun depth => ?_, fun depth _ => ?_, fun depth _ given => ?_⟩
    · rw [documentAt]; exact draws_failWith _
    · rw [documentItems]; exact draws_failWith _
    · rw [documentEntries]; exact draws_failWith _
  | succ rounds ih =>
    exact ⟨draws_documentAt_succ ih, fun _ hdepth => draws_documentItems_succ ih hdepth,
      fun _ hdepth given => draws_documentEntries_succ ih hdepth given⟩

/-- **A document that is read is that of a value**, whose tokens were taken, and in which everything lies inside fewer
than 128 containers. -/
theorem tree_of_document {ts rest : Tokens} {d : Document} (h : Reader.document ts = (.ok d, rest)) :
    ∃ (toks : List Token) (t : Tree), ts = toks.map .ok ++ rest ∧ toks.map Token.lexeme = t.lexemes ∧
      t.document? = some d ∧ t.level < maxDepth := by
  obtain ⟨toks, hts, t, hlex, hd, hlevel⟩ := Draws.rounds (fun rounds => (documentOrigin rounds).value 0) ts d rest h
  exact ⟨toks, t, hts, hlex, hd, by rwa [Nat.zero_add] at hlevel⟩

/-! ### Documents of values -/

def Document.children : Document → List Document
  | .array items => items
  | .object entries => entries.map Prod.snd
  | _ => []

/-- No two entries of the object have one key. -/
def Document.FreshKeys : Document → Prop
  | .object entries => (entries.map Prod.fst).Nodup
  | _ => True

/-- No object in the document repeats a key. -/
inductive Document.Distinct : Document → Prop
  | intro {d : Document} (own : d.FreshKeys) (each : ∀ e ∈ d.children, Distinct e) : Distinct d

inductive Document.Holds (n : Number) : Document → Prop
  | number : Holds n (.number n)
  | inside {d e : Document} (mem : e ∈ d.children) (holds : Holds n e) : Holds n d

theorem mem_itemDocuments? {items : List Tree} {ds : List Document} (h : itemDocuments? items = some ds)
    {d : Document} (hd : d ∈ ds) : ∃ t ∈ items, t.document? = some d := by
  induction items generalizing ds with
  | nil =>
    cases h
    cases hd
  | cons t rest ih =>
    rw [itemDocuments?] at h
    obtain ⟨first, hfirst, h⟩ := Option.bind_eq_some_iff.1 h
    obtain ⟨more, hmore, h⟩ := Option.bind_eq_some_iff.1 h
    cases h
    rcases List.mem_cons.1 hd with rfl | hd
    · exact ⟨t, List.mem_cons_self, hfirst⟩
    · obtain ⟨u, hu, hdoc⟩ := ih hmore hd
      exact ⟨u, List.mem_cons_of_mem _ hu, hdoc⟩

theorem mem_entryDocuments? {entries : List (String × Tree)} {pairs : List (String × Document)}
    (h : entryDocuments? entries = some pairs) {p : String × Document} (hp : p ∈ pairs) :
    ∃ e ∈ entries, e.2.document? = some p.2 := by
  induction entries generalizing pairs with
  | nil =>
    cases h
    cases hp
  | cons e rest ih =>
    obtain ⟨raw, t⟩ := e
    rw [entryDocuments?] at h
    obtain ⟨key, -, h⟩ := Option.bind_eq_some_iff.1 h
    obtain ⟨first, hfirst, h⟩ := Option.bind_eq_some_iff.1 h
    obtain ⟨more, hmore, h⟩ := Option.bind_eq_some_iff.1 h
    cases h
    rcases List.mem_cons.1 hp with rfl | hp
    · exact ⟨(raw, t), List.mem_cons_self, hfirst⟩
    · obtain ⟨u, hu, hdoc⟩ := ih hmore hp
      exact ⟨u, List.mem_cons_of_mem _ hu, hdoc⟩

/-- The document of a value has distinct keys, and what lies in it is the document of something in the value. -/
theorem Tree.document?_children {t : Tree} {d : Document} (h : t.document? = some d) :
    d.FreshKeys ∧ ∀ e ∈ d.children, ∃ u ∈ t.children, u.document? = some e := by
  cases t with
  | string raw =>
    obtain ⟨text, -, rfl⟩ := Option.map_eq_some_iff.1 h
    exact ⟨trivial, fun e he => (nomatch he)⟩
  | array items =>
    obtain ⟨ds, hds, rfl⟩ := Option.map_eq_some_iff.1 h
    exact ⟨trivial, fun e he => mem_itemDocuments? hds he⟩
  | object entries =>
    obtain ⟨pairs, hpairs, rfl⟩ := Option.map_eq_some_iff.1 h
    refine ⟨Entries.nodup_ofList pairs, fun e he => ?_⟩
    obtain ⟨p, hp, rfl⟩ := List.mem_map.1 he
    obtain ⟨entry, hentry, hdoc⟩ := mem_entryDocuments? hpairs (Entries.mem_of_mem_ofList hp)
    exact ⟨entry.2, List.mem_map.2 ⟨entry, hentry, rfl⟩, hdoc⟩
  | _ =>
    cases h
    exact ⟨trivial, fun e he => (nomatch he)⟩

/-- **No object of a document that is read repeats a key**, also if one of the text does. -/
theorem Tree.distinct_document (t : Tree) : ∀ d, t.document? = some d → d.Distinct := by
  induction t using Tree.induct with
  | step t ih =>
    intro d h
    obtain ⟨own, hchildren⟩ := document?_children h
    refine .intro own fun e he => ?_
    obtain ⟨u, hu, hdoc⟩ := hchildren e he
    exact ih u hu e hdoc

/-! ### Levels of documents -/

theorem Tree.level_lt {t u : Tree} (h : u ∈ t.children) : u.level < t.level := by
  cases t with
  | array items =>
    rw [Tree.level]
    simp only [Tree.children] at h
    induction items with
    | nil => cases h
    | cons t rest ih =>
      rw [Tree.itemsLevel]
      rcases List.mem_cons.1 h with rfl | h
      · omega
      · have := ih h
        omega
  | object entries =>
    rw [Tree.level]
    simp only [Tree.children] at h
    induction entries with
    | nil => cases h
    | cons e rest ih =>
      obtain ⟨raw, t⟩ := e
      rw [Tree.entriesLevel]
      rcases List.mem_cons.1 h with rfl | h
      · omega
      · have := ih h
        omega
  | _ => cases h

theorem Document.level_lt {d e : Document} (h : e ∈ d.children) : e.level < d.level := by
  cases d with
  | array items => exact level_lt_itemsLevel h
  | object entries =>
    obtain ⟨entry, hentry, rfl⟩ := List.mem_map.1 h
    exact level_lt_entriesLevel hentry
  | _ => cases h

/-- A document lies no deeper than all that lies in it requires. -/
theorem Document.level_le {d : Document} {n : Nat} (h : ∀ e ∈ d.children, e.level < n) : d.level ≤ n := by
  cases d with
  | array items =>
    rw [Document.level]
    simp only [Document.children] at h
    induction items with
    | nil => exact Nat.zero_le n
    | cons d rest ih =>
      have hd := h d List.mem_cons_self
      have hrest := ih fun e he => h e (List.mem_cons_of_mem _ he)
      rw [itemsLevel]
      omega
  | object entries =>
    rw [Document.level]
    simp only [Document.children] at h
    induction entries with
    | nil => exact Nat.zero_le n
    | cons entry rest ih =>
      obtain ⟨key, d⟩ := entry
      have hd : d.level < n := h d List.mem_cons_self
      have hrest := ih fun e he => h e (List.mem_cons_of_mem _ he)
      rw [entriesLevel]
      omega
  | _ => exact Nat.zero_le n

theorem Tree.level_document (t : Tree) : ∀ d, t.document? = some d → d.level ≤ t.level := by
  induction t using Tree.induct with
  | step t ih =>
    intro d h
    refine Document.level_le fun e he => ?_
    obtain ⟨u, hu, hdoc⟩ := (document?_children h).2 e he
    exact Nat.lt_of_le_of_lt (ih u hu e hdoc) (level_lt hu)

/-! ### Numbers of documents -/

theorem Document.holds_iff {n : Number} {d : Document} :
    d.Holds n ↔ d = .number n ∨ ∃ e ∈ d.children, e.Holds n := by
  constructor
  · rintro (_ | ⟨mem, holds⟩)
    · exact .inl rfl
    · exact .inr ⟨_, mem, holds⟩
  · rintro (rfl | ⟨e, mem, holds⟩)
    · exact .number
    · exact .inside mem holds

theorem Tree.lexemes_of_mem {t u : Tree} (h : u ∈ t.children) : u.lexemes ⊆ t.lexemes := by
  intro x hx
  cases t with
  | array items =>
    suffices x ∈ itemLexemes items by simp [Tree.lexemes, this]
    simp only [Tree.children] at h
    induction items with
    | nil => cases h
    | cons t rest ih =>
      rw [itemLexemes, List.mem_append]
      rcases List.mem_cons.1 h with rfl | h
      · exact .inl hx
      · exact .inr (ih h)
  | object entries =>
    suffices x ∈ entryLexemes entries by simp [Tree.lexemes, this]
    simp only [Tree.children] at h
    induction entries with
    | nil => cases h
    | cons e rest ih =>
      obtain ⟨raw, t⟩ := e
      rw [entryLexemes, List.mem_cons, List.mem_append]
      rcases List.mem_cons.1 h with rfl | h
      · exact .inr (.inl hx)
      · exact .inr (.inr (ih h))
  | _ => cases h

theorem Tree.document?_eq_number {t : Tree} {n : Number} (h : t.document? = some (.number n)) : t = .number n := by
  cases t with
  | number value =>
    cases h
    rfl
  | string raw =>
    obtain ⟨text, -, heq⟩ := Option.map_eq_some_iff.1 h
    cases heq
  | array items =>
    obtain ⟨ds, -, heq⟩ := Option.map_eq_some_iff.1 h
    cases heq
  | object entries =>
    obtain ⟨pairs, -, heq⟩ := Option.map_eq_some_iff.1 h
    cases heq
  | _ => cases h

/-- **The numbers of a document that is read are numbers of the text.** -/
theorem Tree.holds_document (t : Tree) : ∀ d, t.document? = some d → ∀ n, d.Holds n → .number n ∈ t.lexemes := by
  induction t using Tree.induct with
  | step t ih =>
    intro d h n hn
    rcases Document.holds_iff.1 hn with rfl | ⟨e, he, hn⟩
    · rw [document?_eq_number h, Tree.lexemes]
      exact List.mem_singleton_self _
    · obtain ⟨u, hu, hdoc⟩ := (document?_children h).2 e he
      exact lexemes_of_mem hu (ih u hu e hdoc n hn)

end WireShapes.Json
