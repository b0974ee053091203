import WireShapes.Proofs.Entries
import WireShapes.Proofs.Json.Skipping
import WireShapes.Proofs.Json.Tokenizing

/-!
How deep the values of a text lie, and which of them are read as documents.

* `Tree.level`: how many containers a value lies inside at most; it is the depth or one less
* `depth_le_of_nested`: the tokenizer lets no more than 128 containers nest
* `Tree.document?`: the document of a value whose literals all denote texts
* `Reader.Within room x xs a`: `x` reads `a` where there is room, and refuses where there is none
* `Tree.reads_document`: the reader of documents has room for the values inside fewer than 128
  containers, one lemma for items and one for entries before it
* `document_of_tokens`: so that of the texts that the tokenizer accepts those with a value inside 128
  containers are refused
-/

namespace WireShapes.Json

/-! ### Levels -/

mutual

/-- How many containers a value of the tree lies inside at most. -/
def Tree.level : Tree → Nat
  | .array items => Tree.itemsLevel items
  | .object entries => Tree.entriesLevel entries
  | _ => 0

/-- The same for the items of an array, which lie inside the array. -/
def Tree.itemsLevel : List Tree → Nat
  | [] => 0
  | t :: rest => max (t.level + 1) (Tree.itemsLevel rest)

def Tree.entriesLevel : List (String × Tree) → Nat
  | [] => 0
  | (_, t) :: rest => max (t.level + 1) (Tree.entriesLevel rest)

end

attribute [grind =] Tree.level Tree.itemsLevel Tree.entriesLevel

/-- The innermost container may be empty, so that there is one more of them than a value can lie
inside. -/
theorem Tree.level_bounds (t : Tree) : t.level ≤ t.depth ∧ t.depth ≤ t.level + 1 := by
  induction t using Tree.induct with
  | step t ih =>
    cases t with
    | array items =>
      rw [Tree.level, Tree.depth]
      simp only [Tree.children] at ih
      induction items with
      | nil => simp [Tree.itemsLevel, itemsDepth]
      | cons t rest ihrest =>
        have ht := ih t (by simp)
        have hrest := ihrest fun u hu => ih u (by simp [hu])
        rw [Tree.itemsLevel, itemsDepth]
        omega
    | object entries =>
      rw [Tree.level, Tree.depth]
      simp only [Tree.children] at ih
      induction entries with
      | nil => simp [Tree.entriesLevel, entriesDepth]
      | cons e rest ihrest =>
        obtain ⟨raw, t⟩ := e
        have ht := ih t (by simp)
        have hrest := ihrest fun u hu => ih u (by rw [List.map_cons]; exact List.mem_cons_of_mem _ hu)
        rw [Tree.entriesLevel, entriesDepth]
        omega
    | _ => simp [Tree.level, Tree.depth]

/-! ### How many containers are open -/

theorem openCount_append (xs ys : List Lexeme) : openCount (xs ++ ys) = openCount xs + openCount ys := by
  induction xs with
  | nil => simp [openCount]
  | cons x xs ih => rw [List.cons_append, openCount, openCount, ih, Int.add_assoc]

/-- The lexemes close what they open, and in between as many containers are open as they nest. -/
structure Balanced (xs : List Lexeme) (depth : Nat) : Prop where
  closed : openCount xs = 0
  deepest : ∃ ys, ys <+: xs ∧ openCount ys = depth

theorem balanced_nil : Balanced [] 0 := ⟨rfl, [], List.nil_prefix, rfl⟩

theorem Balanced.append {xs ys : List Lexeme} {m n : Nat} (hx : Balanced xs m) (hy : Balanced ys n) :
    Balanced (xs ++ ys) (max m n) := by
  refine ⟨by rw [openCount_append, hx.closed, hy.closed]; rfl, ?_⟩
  rcases Nat.le_total n m with h | h
  · obtain ⟨zs, hzs, hcount⟩ := hx.deepest
    exact ⟨zs, hzs.trans (List.prefix_append ..), by rw [hcount, Nat.max_eq_left h]⟩
  · obtain ⟨zs, hzs, hcount⟩ := hy.deepest
    exact ⟨xs ++ zs, List.prefix_append_right_inj xs |>.2 hzs, by
      rw [openCount_append, hx.closed, hcount, Nat.max_eq_right h, Int.zero_add]⟩

theorem Balanced.cons {x : Lexeme} (hx : x.delta = 0) {xs : List Lexeme} {n : Nat} (h : Balanced xs n) :
    Balanced (x :: xs) n := by
  refine ⟨by rw [openCount, hx, h.closed]; rfl, ?_⟩
  obtain ⟨zs, hzs, hcount⟩ := h.deepest
  exact ⟨x :: zs, List.prefix_cons_inj x |>.2 hzs, by rw [openCount, hx, hcount, Int.zero_add]⟩

/-- A container around the lexemes. -/
theorem Balanced.enclosed {first last : Lexeme} (hfirst : first.delta = 1) (hlast : last.delta = -1)
    {xs : List Lexeme} {n : Nat} (h : Balanced xs n) : Balanced (first :: (xs ++ [last])) (1 + n) := by
  refine ⟨by simp only [openCount, openCount_append, hfirst, hlast, h.closed]; omega, ?_⟩
  obtain ⟨zs, hzs, hcount⟩ := h.deepest
  exact ⟨first :: zs, List.prefix_cons_inj first |>.2 (hzs.trans (List.prefix_append ..)), by
    rw [openCount, hfirst, hcount]; omega⟩

theorem Tree.balanced (t : Tree) : Balanced t.lexemes t.depth := by
  induction t using Tree.induct with
  | step t ih =>
    cases t with
    | array items =>
      rw [Tree.lexemes, Tree.depth]
      refine Balanced.enclosed rfl rfl ?_
      simp only [Tree.children] at ih
      induction items with
      | nil => exact balanced_nil
      | cons t rest ihrest => exact (ih t (by simp)).append (ihrest fun u hu => ih u (by simp [hu]))
    | object entries =>
      rw [Tree.lexemes, Tree.depth]
      refine Balanced.enclosed rfl rfl ?_
      simp only [Tree.children] at ih
      induction entries with
      | nil => exact balanced_nil
      | cons e rest ihrest =>
        obtain ⟨raw, t⟩ := e
        refine Balanced.cons rfl ((ih t (by simp)).append (ihrest fun u hu => ih u ?_))
        rw [List.map_cons]
        exact List.mem_cons_of_mem _ hu
    | _ => exact balanced_nil.cons rfl

/-- **The tokenizer lets no more than 128 containers nest.** -/
theorem depth_le_of_tokenize {bytes : List UInt8} {toks : List Token} {t : Tree}
    (htokens : tokenize bytes = toks.map .ok) (hlex : toks.map Token.lexeme = t.lexemes) :
    t.depth ≤ maxDepth := by
  obtain ⟨toks', tail, htokens', hnested⟩ := tokenize_nested bytes
  have hsame : toks.map .ok ++ [] = toks'.map .ok ++ tail := by
    rw [List.append_nil, ← htokens, htokens']
  obtain ⟨ys, hys, hcount⟩ := t.balanced.deepest
  obtain ⟨left, rfl, -⟩ := hnested.front hsame.symm
  have hle := hnested.depth ys (by
    rw [List.map_append, hlex]
    exact hys.trans (List.prefix_append ..))
  rw [hcount] at hle
  simpa using hle

/-! ### Documents -/

mutual

/-- The document of a value, if all its literals denote texts. Of entries under one key the last one
counts, in the place of the first. -/
def Tree.document? : Tree → Option Document
  | .string raw => (unescape raw).toOption.map .string
  | .number value => some (.number value)
  | .bool value => some (.bool value)
  | .null => some .null
  | .array items => (itemDocuments? items).map .array
  | .object entries => (entryDocuments? entries).map fun pairs => .object (Entries.ofList pairs)

def itemDocuments? : List Tree → Option (List Document)
  | [] => some []
  | t :: rest => do
    let d ← t.document?
    let more ← itemDocuments? rest
    some (d :: more)

def entryDocuments? : List (String × Tree) → Option (List (String × Document))
  | [] => some []
  | (raw, t) :: rest => do
    let key ← (unescape raw).toOption
    let d ← t.document?
    let more ← entryDocuments? rest
    some ((key, d) :: more)

end

attribute [grind =] Tree.document? itemDocuments? entryDocuments?

/-- The literals among the lexemes denote texts. -/
def Readable (xs : List Lexeme) : Prop :=
  ∀ raw, Lexeme.string raw ∈ xs ∨ Lexeme.key raw ∈ xs → ∃ text, unescape raw = .ok text

theorem Readable.of_append {xs ys : List Lexeme} (h : Readable (xs ++ ys)) : Readable xs ∧ Readable ys :=
  ⟨fun raw hraw => h raw (by simp only [List.mem_append]; exact hraw.imp .inl .inl),
    fun raw hraw => h raw (by simp only [List.mem_append]; exact hraw.imp .inr .inr)⟩

theorem Readable.of_cons {x : Lexeme} {xs : List Lexeme} (h : Readable (x :: xs)) : Readable xs :=
  (show Readable ([x] ++ xs) from h).of_append.2

theorem Tree.exists_document {t : Tree} (h : Readable t.lexemes) : ∃ d, t.document? = some d := by
  induction t using Tree.induct with
  | step t ih =>
    cases t with
    | string raw =>
      obtain ⟨text, htext⟩ := h raw (by simp [Tree.lexemes])
      exact ⟨.string text, by rw [Tree.document?, htext]; rfl⟩
    | array items =>
      rw [Tree.lexemes] at h
      have hitems := h.of_cons.of_append.1
      simp only [Tree.children] at ih
      suffices ∃ ds, itemDocuments? items = some ds by
        obtain ⟨ds, hds⟩ := this
        exact ⟨.array ds, by rw [Tree.document?, hds]; rfl⟩
      clear h
      induction items with
      | nil => exact ⟨[], rfl⟩
      | cons t rest ihrest =>
        rw [itemLexemes] at hitems
        obtain ⟨d, hd⟩ := ih t (by simp) hitems.of_append.1
        obtain ⟨ds, hds⟩ := ihrest (fun u hu => ih u (by simp [hu])) hitems.of_append.2
        exact ⟨d :: ds, by rw [itemDocuments?, hd, hds]; rfl⟩
    | object entries =>
      rw [Tree.lexemes] at h
      have hentries := h.of_cons.of_append.1
      simp only [Tree.children] at ih
      suffices ∃ pairs, entryDocuments? entries = some pairs by
        obtain ⟨pairs, hpairs⟩ := this
        exact ⟨.object (Entries.ofList pairs), by rw [Tree.document?, hpairs]; rfl⟩
      clear h
      induction entries with
      | nil => exact ⟨[], rfl⟩
      | cons e rest ihrest =>
        obtain ⟨raw, t⟩ := e
        rw [entryLexemes] at hentries
        obtain ⟨key, hkey⟩ := hentries raw (by simp)
        obtain ⟨d, hd⟩ := ih t (by simp) hentries.of_cons.of_append.1
        obtain ⟨more, hmore⟩ := ihrest
          (fun u hu => ih u (by rw [List.map_cons]; exact List.mem_cons_of_mem _ hu))
          hentries.of_cons.of_append.2
        exact ⟨(key, d) :: more, by rw [entryDocuments?, hkey, hd, hmore]; rfl⟩
    | number value => exact ⟨_, rfl⟩
    | bool value => exact ⟨_, rfl⟩
    | null => exact ⟨_, rfl⟩

/-! ### Where there is room -/

namespace Reader

variable {α β : Type} {e : ReadError} {room here there : Prop} {x : Reader α} {xs ys : List Lexeme} {a : α}

/-- From tokens that say `xs` the reader fails with `e`, whatever comes after them. -/
def Refuses (x : Reader α) (xs : List Lexeme) (e : ReadError) : Prop :=
  ∀ (toks : List Token) (rest : Tokens), toks.map Token.lexeme = xs → (x (toks.map .ok ++ rest)).1 = .error e

theorem bind_of_error {ts : Tokens} (h : (x ts).1 = .error e) (f : α → Reader β) :
    ((x >>= f) ts).1 = .error e := by
  rw [bind_apply]
  split
  · next hx => rw [hx] at h; cases h
  · next hx => rw [hx] at h; exact congrArg Except.error (Except.error.inj h)

theorem Refuses.bind (h : Refuses x xs e) (f : α → Reader β) : Refuses (x >>= f) (xs ++ ys) e := by
  intro toks rest hlex
  obtain ⟨toks₁, toks₂, rfl, h₁, -⟩ := List.map_eq_append_iff.1 hlex
  rw [List.map_append, List.append_assoc]
  exact bind_of_error (h toks₁ _ h₁) f

theorem Reads.bind_refuses {f : α → Reader β} (hx : Reads x xs a) (hf : Refuses (f a) ys e) :
    Refuses (x >>= f) (xs ++ ys) e := by
  intro toks rest hlex
  obtain ⟨toks₁, toks₂, rfl, h₁, h₂⟩ := List.map_eq_append_iff.1 hlex
  rw [List.map_append, List.append_assoc, bind_of_ok (hx toks₁ _ h₁)]
  exact hf toks₂ rest h₂

theorem Refuses.token {f : Token → Reader β} {first : Lexeme}
    (h : ∀ t : Token, t.lexeme = first → Refuses (f t) xs e) :
    Refuses (Reader.token >>= f) (first :: xs) e := by
  intro toks rest hlex
  obtain ⟨t, more, rfl, ht, hmore⟩ := List.map_eq_cons_iff.1 hlex
  rw [List.map_cons, List.cons_append, bind_of_ok (token_apply t _)]
  exact h t ht more rest hmore

theorem Refuses.peek {f : Option Lexeme → Reader β} {first : Lexeme}
    (h : Refuses (f (some first)) (first :: xs) e) : Refuses (Reader.peek >>= f) (first :: xs) e := by
  intro toks rest hlex
  have := h toks rest hlex
  obtain ⟨t, more, rfl, rfl, hmore⟩ := List.map_eq_cons_iff.1 hlex
  rw [bind_apply]
  exact this

/-- From tokens that say `xs` the reader reads `a` where there is room, and fails with `e` where there is
none. -/
structure Within (e : ReadError) (room : Prop) (x : Reader α) (xs : List Lexeme) (a : α) : Prop where
  reads : room → Reads x xs a
  refuses : ¬room → Refuses x xs e

theorem Reads.within (h : Reads x xs a) (hroom : room) : Within e room x xs a :=
  ⟨fun _ => h, fun hno => absurd hroom hno⟩

theorem Within.congr (h : Within e here x xs a) (hiff : here ↔ there) : Within e there x xs a :=
  ⟨fun hroom => h.reads (hiff.2 hroom), fun hno => h.refuses fun hroom => hno (hiff.1 hroom)⟩

/-- Of two readers in a row both need room. -/
theorem Within.bind {f : α → Reader β} {b : β} (hx : Within e here x xs a) (hf : Within e there (f a) ys b) :
    Within e (here ∧ there) (x >>= f) (xs ++ ys) b := by
  refine ⟨fun ⟨hhere, hthere⟩ => (hx.reads hhere).bind (hf.reads hthere), fun hno => ?_⟩
  by_cases hhere : here
  · exact (hx.reads hhere).bind_refuses (hf.refuses fun hthere => hno ⟨hhere, hthere⟩)
  · exact (hx.refuses hhere).bind f

theorem Reads.bind_within {f : α → Reader β} {b : β} (hx : Reads x xs a) (hf : Within e room (f a) ys b) :
    Within e room (x >>= f) (xs ++ ys) b :=
  have hfirst : Within e True x xs a := hx.within trivial
  (hfirst.bind hf).congr (Iff.of_eq (true_and _))

theorem Within.map (h : Within e room x xs a) (f : α → β) :
    Within e room (do return f (← x)) xs (f a) := by
  have hmap := h.bind (f := fun x => pure (f x)) ((reads_pure (f a)).within trivial)
  rw [List.append_nil] at hmap
  exact hmap.congr (Iff.of_eq (and_true _))

theorem Within.token {f : Token → Reader β} {first : Lexeme} {b : β}
    (h : ∀ t : Token, t.lexeme = first → Within e room (f t) xs b) :
    Within e room (Reader.token >>= f) (first :: xs) b :=
  ⟨fun hroom => Reads.token fun t ht => (h t ht).reads hroom,
    fun hno => Refuses.token fun t ht => (h t ht).refuses hno⟩

theorem Within.peek {f : Option Lexeme → Reader β} {first : Lexeme} {b : β}
    (h : Within e room (f (some first)) (first :: xs) b) :
    Within e room (Reader.peek >>= f) (first :: xs) b :=
  ⟨fun hroom => Reads.peek (h.reads hroom), fun hno => Refuses.peek (h.refuses hno)⟩

theorem Within.rounds {f : Nat → Reader β} {b : β}
    (h : ∀ rounds, 2 * xs.length + 2 ≤ rounds → Within e room (f rounds) xs b) :
    Within e room (Reader.rounds >>= f) xs b := by
  refine ⟨fun hroom => Reads.rounds fun rounds hrounds => (h rounds hrounds).reads hroom, fun hno => ?_⟩
  intro toks rest hlex
  rw [bind_apply]
  refine (h _ ?_).refuses hno toks rest hlex
  rw [← hlex]
  simp only [List.length_map, List.length_append]
  omega

end Reader

/-! ### Reading documents -/

open Reader

attribute [grind =] documentAt documentItems documentEntries

/-- With room left, a document starts with its first token. -/
theorem documentAt_succ {depth : Nat} (hdepth : depth < maxDepth) (rounds : Nat) :
    documentAt (rounds + 1) depth = (do
      let t ← token
      match t.lexeme with
      | .null => return .null
      | .bool b => return .bool b
      | .number n => return .number n
      | .string raw => return .string (← unescaped raw)
      | .startArray => return .array (← documentItems rounds depth)
      | .startObject => return .object (← documentEntries rounds depth [])
      | _ => notWanted t .value) := by
  rw [documentAt]
  exact if_neg (Nat.not_le.2 hdepth)

/-- Inside of so many containers there is no room for a value, whatever it is. -/
theorem documentAt_full {depth : Nat} (hdepth : maxDepth ≤ depth) (rounds : Nat) (xs : List Lexeme) :
    (documentAt (rounds + 1) depth).Refuses xs (.ofContent .documentDepth) := by
  intro toks rest _
  rw [documentAt, if_pos hdepth]
  rfl

/-- The value is read as the document inside of as many containers as leave room for it. -/
def Tree.ReadAs (t : Tree) (d : Document) : Prop :=
  ∀ rounds depth, 2 * t.lexemes.length ≤ rounds + 1 →
    Within (.ofContent .documentDepth) (depth + t.level < maxDepth) (documentAt rounds depth) t.lexemes d

theorem within_documentItems {items : List Tree} (each : ∀ t ∈ items, ∀ d, t.document? = some d → t.ReadAs d)
    {ds : List Document} (hds : itemDocuments? items = some ds) (rounds : Nat) {depth : Nat}
    (hrounds : 2 * ((itemLexemes items).length + 1) ≤ rounds) (hdepth : depth < maxDepth) :
    Within (.ofContent .documentDepth) (depth + Tree.itemsLevel items < maxDepth)
      (documentItems rounds depth) (itemLexemes items ++ [.endArray]) ds := by
  induction items generalizing rounds ds with
  | nil =>
    obtain ⟨rounds, rfl⟩ := Nat.exists_eq_add_one_of_ne_zero (by omega : rounds ≠ 0)
    cases hds
    rw [documentItems]
    exact (Reads.peek (Reads.next fun _ _ => reads_pure [])).within hdepth
  | cons t rest ih =>
    rw [itemDocuments?] at hds
    obtain ⟨d, hd, hds⟩ := Option.bind_eq_some_iff.1 hds
    obtain ⟨more, hmore, hds⟩ := Option.bind_eq_some_iff.1 hds
    cases hds
    rw [itemLexemes, List.length_append] at hrounds
    obtain ⟨rounds, rfl⟩ := Nat.exists_eq_add_one_of_ne_zero (by omega : rounds ≠ 0)
    obtain ⟨x, xs, hx, hend, -⟩ := t.lexemes_start
    have hpos : 0 < t.lexemes.length := by simp [hx]
    have hitem := each t (by simp) d hd rounds (depth + 1) (by omega)
    have hrest := ih (fun u hu => each u (by simp [hu])) hmore rounds (by omega)
    have hroom : depth + 1 + t.level < maxDepth ∧ depth + Tree.itemsLevel rest < maxDepth ↔
        depth + Tree.itemsLevel (t :: rest) < maxDepth := by
      rw [Tree.itemsLevel]
      omega
    have hboth := (hitem.bind (f := fun item => do return item :: (← documentItems rounds depth))
      (hrest.map (d :: ·))).congr hroom
    rw [itemLexemes, documentItems, List.append_assoc]
    rw [hx, List.cons_append] at hboth ⊢
    refine Within.peek ?_
    split
    · next heq => exact absurd (Option.some.inj heq) hend
    · exact hboth

theorem within_documentEntries {entries : List (String × Tree)}
    (each : ∀ t ∈ entries.map Prod.snd, ∀ d, t.document? = some d → t.ReadAs d)
    {pairs : List (String × Document)} (hpairs : entryDocuments? entries = some pairs) (rounds : Nat)
    {depth : Nat} (given : List (String × Document))
    (hrounds : 2 * ((entryLexemes entries).length + 1) ≤ rounds) (hdepth : depth < maxDepth) :
    Within (.ofContent .documentDepth) (depth + Tree.entriesLevel entries < maxDepth)
      (documentEntries rounds depth given) (entryLexemes entries ++ [.endObject])
      (pairs.foldl (fun acc p => Entries.insert p.1 p.2 acc) given) := by
  induction entries generalizing rounds pairs given with
  | nil =>
    obtain ⟨rounds, rfl⟩ := Nat.exists_eq_add_one_of_ne_zero (by omega : rounds ≠ 0)
    cases hpairs
    rw [documentEntries]
    refine Within.token fun t ht => ?_
    rw [ht]
    exact (reads_pure given).within hdepth
  | cons e rest ih =>
    obtain ⟨raw, t⟩ := e
    rw [entryDocuments?] at hpairs
    obtain ⟨key, hkey, hpairs⟩ := Option.bind_eq_some_iff.1 hpairs
    obtain ⟨d, hd, hpairs⟩ := Option.bind_eq_some_iff.1 hpairs
    obtain ⟨more, hmore, hpairs⟩ := Option.bind_eq_some_iff.1 hpairs
    cases hpairs
    simp only [entryLexemes, List.length_cons, List.length_append] at hrounds
    obtain ⟨rounds, rfl⟩ := Nat.exists_eq_add_one_of_ne_zero (by omega : rounds ≠ 0)
    rw [List.map_cons, List.forall_mem_cons] at each
    obtain ⟨hfirst, each⟩ := each
    have hvalue : Within _ (depth + 1 + t.level < maxDepth) _ t.lexemes d :=
      hfirst d hd rounds (depth + 1) (by dsimp only; omega)
    have hrest := ih each hmore rounds (Entries.insert key d given) (by omega)
    have hroom : depth + 1 + t.level < maxDepth ∧ depth + Tree.entriesLevel rest < maxDepth ↔
        depth + Tree.entriesLevel ((raw, t) :: rest) < maxDepth := by
      rw [Tree.entriesLevel]
      omega
    have hboth := (hvalue.bind
      (f := fun value => documentEntries rounds depth (Entries.insert key value given)) hrest).congr hroom
    rw [entryLexemes, documentEntries, List.cons_append, List.append_assoc]
    refine Within.token fun t' ht' => ?_
    rw [ht']
    exact (reads_unescaped_ok (Results.toOption_eq_some_iff.1 hkey)).bind_within hboth

/-- **A value is read as its document where fewer than 128 containers are around everything in it**, and
where there are more the reader says so. -/
theorem Tree.reads_document (t : Tree) : ∀ d, t.document? = some d → t.ReadAs d := by
  induction t using Tree.induct with
  | step t ih =>
    intro d hd rounds depth hrounds
    obtain ⟨x, xs, hx, -, -⟩ := t.lexemes_start
    have hpos : 0 < t.lexemes.length := by simp [hx]
    obtain ⟨rounds, rfl⟩ := Nat.exists_eq_add_one_of_ne_zero (by omega : rounds ≠ 0)
    rcases Nat.lt_or_ge depth maxDepth with hdepth | hdepth
    swap
    · exact ⟨fun hroom => by omega, fun _ => documentAt_full hdepth rounds _⟩
    rw [documentAt_succ hdepth]
    cases t with
    | string raw =>
      obtain ⟨text, htext, rfl⟩ := Option.map_eq_some_iff.1 hd
      rw [Tree.lexemes]
      refine Within.token fun t ht => ?_
      rw [ht]
      exact ((reads_unescaped_ok (Results.toOption_eq_some_iff.1 htext)).map _).within hdepth
    | array items =>
      simp only [Tree.children] at ih
      obtain ⟨ds, hds, rfl⟩ := Option.map_eq_some_iff.1 hd
      rw [Tree.lexemes] at hrounds ⊢
      simp only [List.length_cons, List.length_append, List.length_nil] at hrounds
      refine Within.token fun t ht => ?_
      rw [ht]
      exact (within_documentItems ih hds rounds (by omega) hdepth).map _
    | object entries =>
      simp only [Tree.children] at ih
      obtain ⟨pairs, hpairs, rfl⟩ := Option.map_eq_some_iff.1 hd
      rw [Tree.lexemes] at hrounds ⊢
      simp only [List.length_cons, List.length_append, List.length_nil] at hrounds
      refine Within.token fun t ht => ?_
      rw [ht]
      exact (within_documentEntries ih hpairs rounds [] (by omega) hdepth).map _
    | _ =>
      cases hd
      rw [Tree.lexemes]
      refine Within.token fun t ht => ?_
      rw [ht]
      exact (reads_pure _).within hdepth

theorem Tree.within_document {t : Tree} {d : Document} (hd : t.document? = some d) :
    Within (.ofContent .documentDepth) (t.level < maxDepth) Reader.document t.lexemes d :=
  Within.rounds fun rounds hrounds =>
    (t.reads_document d hd rounds 0 (by omega)).congr (by rw [Nat.zero_add])

/-- **Of the texts that the tokenizer accepts those are read as documents in which every value lies inside
fewer than 128 containers.** A value inside 128 containers is refused, although they are not too many for the
tokenizer; an empty container at that depth is the last that is read. -/
theorem document_of_tokens (bytes : List UInt8) (toks : List Token) (t : Tree)
    (htokens : tokenize bytes = toks.map .ok) (hlex : toks.map Token.lexeme = t.lexemes)
    (readable : Readable t.lexemes) :
    t.level ≤ t.depth ∧ t.depth ≤ t.level + 1 ∧ t.depth ≤ 128 ∧ ∃ d, t.document? = some d ∧
      (t.level < 128 → Reader.document (tokenize bytes) = (.ok d, [])) ∧
      (t.level = 128 → (Reader.document (tokenize bytes)).1 = .error (.ofContent .documentDepth)) := by
  obtain ⟨d, hd⟩ := Tree.exists_document readable
  have hwithin := Tree.within_document hd
  refine ⟨t.level_bounds.1, t.level_bounds.2, depth_le_of_tokenize htokens hlex, d, hd, fun hroom => ?_,
    fun hfull => ?_⟩
  · have hread := hwithin.reads hroom toks [] hlex
    rwa [List.append_nil, ← htokens] at hread
  · have hrefused := hwithin.refuses (by rw [hfull]; decide) toks [] hlex
    rwa [List.append_nil, ← htokens] at hrefused

/-! ### At the limit -/

/-- The value inside of so many arrays. -/
def nest : Nat → Tree → Tree
  | 0, t => t
  | k + 1, t => .array [nest k t]

/-- The text inside of so many brackets. -/
def nestText : Nat → List UInt8 → List UInt8
  | 0, text => text
  | k + 1, text => 0x5B :: (nestText k text ++ [0x5D])

theorem spells_nest {t : Tree} {text : List UInt8} (h : Spells t text) (k : Nat) :
    Spells (nest k t) (nestText k text) := by
  induction k with
  | zero => exact h
  | succ k ih =>
    have harray : Spells (.array [nest k t]) (0x5B :: (([] ++ (nestText k text ++ [])) ++ [0x5D])) :=
      @Spells.array ⟨[], nest k t, nestText k text, []⟩ []
        (fun p hp => by rw [List.mem_singleton.1 hp]; exact ⟨blank_nil, blank_nil⟩)
        fun p hp => by rw [List.mem_singleton.1 hp]; exact ih
    rwa [List.nil_append, List.append_nil] at harray

theorem level_nest (k : Nat) (t : Tree) : (nest k t).level = k + t.level := by
  induction k with
  | zero => rw [nest, Nat.zero_add]
  | succ k ih =>
    rw [nest, Tree.level, Tree.itemsLevel, Tree.itemsLevel, ih]
    omega

theorem depth_nest (k : Nat) (t : Tree) : (nest k t).depth = k + t.depth := by
  induction k with
  | zero => rw [nest, Nat.zero_add]
  | succ k ih =>
    rw [nest, Tree.depth, itemsDepth, itemsDepth, ih]
    omega

theorem readable_nest {t : Tree} (h : Readable t.lexemes) (k : Nat) : Readable (nest k t).lexemes := by
  induction k with
  | zero => exact h
  | succ k ih =>
    intro raw hraw
    rw [nest, Tree.lexemes, itemLexemes, itemLexemes] at hraw
    exact ih raw (by simpa using hraw)

/-- 128 arrays inside one another are read. -/
theorem emptyArray_read : ∃ d, (nest 127 (.array [])).document? = some d ∧
    Reader.document (tokenize (nestText 127 [0x5B, 0x5D])) = (.ok d, []) := by
  have hspells := spells_nest (.emptyArray blank_nil) 127
  have hdepth : (nest 127 (.array [])).depth ≤ maxDepth := by rw [depth_nest]; decide
  obtain ⟨toks, hlex, htokens⟩ := tokenize_of_spells hspells hdepth
  obtain ⟨-, -, -, d, hd, hread, -⟩ := document_of_tokens _ toks _ htokens hlex
    (readable_nest (fun raw hraw => by simp [Tree.lexemes, itemLexemes] at hraw) 127)
  exact ⟨d, hd, hread (by rw [level_nest]; decide)⟩

/-- A number inside of 128 arrays is refused, although the text has all its tokens. -/
theorem deepNumber_refused :
    (∃ toks : List Token, tokenize (nestText 128 [0x31]) = toks.map .ok ∧
      toks.map Token.lexeme = (nest 128 (.number (.natural 1))).lexemes) ∧
    Readable (nest 128 (.number (.natural 1))).lexemes ∧
    (Reader.document (tokenize (nestText 128 [0x31]))).1 = .error (.ofContent .documentDepth) := by
  have hone : Spells (.number (.natural 1)) [0x31] :=
    .number (.inr (by decide)) (List.all_eq_true.1 rfl) (by decide)
  have hreadable : Readable (nest 128 (.number (.natural 1))).lexemes :=
    readable_nest (fun raw hraw => by simp [Tree.lexemes] at hraw) 128
  have hdepth : (nest 128 (.number (.natural 1))).depth ≤ maxDepth := by rw [depth_nest]; decide
  obtain ⟨toks, hlex, htokens⟩ := tokenize_of_spells (spells_nest hone 128) hdepth
  obtain ⟨d, hd⟩ := Tree.exists_document hreadable
  have hrefused := (Tree.within_document hd).refuses (by rw [level_nest]; decide) toks [] hlex
  rw [List.append_nil, ← htokens] at hrefused
  exact ⟨⟨toks, htokens, hlex⟩, hreadable, hrefused⟩

end WireShapes.Json
