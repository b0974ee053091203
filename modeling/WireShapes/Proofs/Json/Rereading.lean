import WireShapes.Proofs.Json.Legal
import WireShapes.Proofs.Json.Origins
import WireShapes.Proofs.Json.Sources

/-!
Documents that are read, written and read again.

* `WholeText`: an integer in decimal that 64 bits can hold; `MinusZero`: a zero behind a minus
* `WholeText.reads`: such a text is read as an integer, in the form of its sign unless it is a zero behind a minus
* `Document.settled`: a document in which every number has the form of its sign
* `Document.Distinct.exact_settled`, `Document.Distinct.write_settled`: nothing in it is rounded, and it is written as the
  document is
* `document_reread`: hence what is read is read again from what is written for it, but for the form of zero
-/

namespace WireShapes

/-- The number in the form of its sign: zero has none. -/
def Number.settled : Number → Number
  | .negative n => if n = 0 then .natural 0 else .negative n
  | n => n

theorem Number.settled_ne (n : Number) : n.settled ≠ .negative 0 := by
  cases n with
  | negative n =>
    rw [settled]
    split
    · exact fun h => (nomatch h)
    · next hn => exact fun h => hn (Number.negative.inj h)
  | _ => exact fun h => (nomatch h)

theorem Number.settled_of_ne {n : Number} (h : n ≠ .negative 0) : n.settled = n := by
  cases n with
  | negative n => exact if_neg fun hn => h (by rw [hn])
  | _ => rfl

namespace Json

open Decimal

/-! ### Integers in the text -/

/-- An integer in decimal that 64 bits can hold: digits, perhaps behind a minus. -/
inductive WholeText : List Char → Prop
  | natural (ds : Digits) (fits : digitsValue ds.chars < 0x10000000000000000) : WholeText ds.chars
  | negative (ds : Digits) (fits : digitsValue ds.chars ≤ 0x8000000000000000) : WholeText ('-' :: ds.chars)

def MinusZero (cs : List Char) : Prop := ∃ ds : Digits, cs = '-' :: ds.chars ∧ digitsValue ds.chars = 0

/-- **An integer that 64 bits can hold is read as an integer**, in the form of its sign unless it is a zero behind a
minus. -/
theorem WholeText.reads {cs : List Char} (h : WholeText cs) {n : Number} (hn : number? cs = some n) :
    n.settled.Exact ∧ (n = .negative 0 → MinusZero cs) := by
  cases h with
  | natural ds fits =>
    rw [number?_digits, if_pos fits] at hn
    cases hn
    exact ⟨trivial, fun h => (nomatch h)⟩
  | negative ds fits =>
    rw [number?_minusDigits, if_pos fits] at hn
    obtain rfl := Option.some.inj hn
    have hvalue := IntWidth.toInt_ofInt ((fits_neg_iff (digitsValue ds.chars)).2 fits)
    generalize Int64.ofInt (-(digitsValue ds.chars : Int)) = k at hvalue
    constructor
    · rw [Number.settled]
      split
      · trivial
      · next hne =>
        have hzero : k.toInt ≠ 0 := fun h => hne (Int64.toInt_inj.1 h)
        show k.toInt < 0
        omega
    · intro heq
      obtain rfl := Number.negative.inj heq
      have hzero : (0 : Int64).toInt = 0 := rfl
      exact ⟨ds, rfl, by omega⟩

/-- The characters of the number at a token, as far as they go on. -/
def numberText (bytes : List UInt8) (t : Token) : List Char :=
  ((bytes.drop t.offset).takeWhile isNumberByte).map fun x => Char.ofNat x.toNat

theorem number?_numberText {bytes : List UInt8} {t : Token} {n : Number} (h : .ok t ∈ tokenize bytes)
    (hn : t.lexeme = .number n) : number? (numberText bytes t) = some n := by
  obtain ⟨text, tail, htext, ⟨inner, lead, after, hstep⟩, hends⟩ := source_of_tokenize h
  rw [hn] at hstep hends
  obtain ⟨inner, hvalue⟩ := hstep.value (.inr ⟨n, rfl⟩)
  obtain ⟨b, run, rfl, -, each, reads⟩ := hvalue.number_inv
  rw [numberText, htext, (takeWhile_stops each (hends n rfl)).1]
  exact reads

/-! ### Documents with one form for zero -/

mutual

/-- The document with every number in the form of its sign. -/
def Document.settled : Document → Document
  | .object entries => .object (settledEntries entries)
  | .array items => .array (settledItems items)
  | .number n => .number n.settled
  | d => d

def settledItems : List Document → List Document
  | [] => []
  | d :: rest => d.settled :: settledItems rest

def settledEntries : List (String × Document) → List (String × Document)
  | [] => []
  | (key, d) :: rest => (key, d.settled) :: settledEntries rest

end

theorem settledItems_eq (items : List Document) : settledItems items = items.map Document.settled := by
  induction items with
  | nil => rfl
  | cons d rest ih => rw [settledItems, ih, List.map_cons]

theorem settledEntries_eq (entries : List (String × Document)) :
    settledEntries entries = entries.map fun e => (e.1, e.2.settled) := by
  induction entries with
  | nil => rfl
  | cons e rest ih => rw [settledEntries, ih, List.map_cons]

/-- Both forms of zero have one text. -/
theorem writeNumber_settled (n : Number) : writeNumber n.settled = writeNumber n := by
  cases n with
  | negative n =>
    rw [Number.settled]
    split
    · next hn =>
      rw [hn]
      rfl
    · rfl
  | _ => rfl

namespace Document

theorem children_settled (d : Document) : d.settled.children = d.children.map settled := by
  cases d with
  | array items => exact settledItems_eq items
  | object entries =>
    rw [settled, settledEntries_eq]
    simp only [children, List.map_map]
    rfl
  | _ => rfl

theorem fst_settledEntries (entries : List (String × Document)) :
    (settledEntries entries).map Prod.fst = entries.map Prod.fst := by
  rw [settledEntries_eq, List.map_map]
  rfl

variable {d : Document}

namespace Distinct

theorem level_settled_le (h : d.Distinct) : d.settled.level ≤ d.level := by
  induction h with
  | intro _ _ ih =>
    refine level_le fun e he => ?_
    rw [children_settled] at he
    obtain ⟨c, hc, rfl⟩ := List.mem_map.1 he
    exact Nat.lt_of_le_of_lt (ih c hc) (level_lt hc)

/-- Zero is the only integer with two forms. -/
theorem exact_settled (h : d.Distinct) (hnumbers : ∀ n, d.Holds n → n.settled.Exact) : d.settled.Exact := by
  induction h with
  | @intro d own _ ih =>
    have hinside : ∀ c ∈ d.children, c.settled.Exact := fun c hc => ih c hc fun n hn => hnumbers n (.inside hc hn)
    cases d with
    | object entries =>
      refine .object (by rwa [fst_settledEntries]) fun e he => ?_
      rw [settledEntries_eq] at he
      obtain ⟨entry, hentry, rfl⟩ := List.mem_map.1 he
      exact hinside entry.2 (List.mem_map.2 ⟨entry, hentry, rfl⟩)
    | array items =>
      refine .array fun e he => ?_
      rw [settledItems_eq] at he
      obtain ⟨c, hc, rfl⟩ := List.mem_map.1 he
      exact hinside c hc
    | number n => exact .number (hnumbers n .number)
    | string => exact .string
    | bool => exact .bool
    | null => exact .null

/-- **Both forms of zero are written alike.** -/
theorem write_settled (h : d.Distinct) : (Node.ofDocument d.settled).write = (Node.ofDocument d).write := by
  induction h with
  | @intro d _ _ ih =>
    cases d with
    | object entries =>
      have heach : ∀ e ∈ entries, (Node.ofDocument e.2.settled).write = (Node.ofDocument e.2).write :=
        fun e he => ih e.2 (List.mem_map.2 ⟨e, he, rfl⟩)
      have htexts : (entries.map fun e => quoted e.1 ++ ":" ++ (Node.ofDocument e.2.settled).write) =
          entries.map fun e => quoted e.1 ++ ":" ++ (Node.ofDocument e.2).write :=
        List.map_congr_left fun e he => by rw [heach e he]
      simp only [settled, settledEntries_eq, Node.ofDocument, nodesOfEntries_eq, Node.write, writeEntries_eq, List.map_map,
        Function.comp_def, htexts]
    | array items =>
      have htexts : (items.map fun c => (Node.ofDocument c.settled).write) =
          items.map fun c => (Node.ofDocument c).write := List.map_congr_left ih
      simp only [settled, settledItems_eq, Node.ofDocument, nodesOfItems_eq, Node.write, writeItems_eq, List.map_map,
        Function.comp_def, htexts]
    | number n => exact writeNumber_settled n
    | _ => rfl

/-- Where zero has its one form, the other is not found. -/
theorem not_holds_settled (h : d.Distinct) : ¬d.settled.Holds (.negative 0) := by
  induction h with
  | @intro d _ _ ih =>
    intro hholds
    rcases holds_iff.1 hholds with heq | ⟨e, he, hholds⟩
    · cases d with
      | number n => exact n.settled_ne (Document.number.inj heq)
      | _ => cases heq
    · rw [children_settled] at he
      obtain ⟨c, hc, rfl⟩ := List.mem_map.1 he
      exact ih c hc hholds

theorem settled_of_not_holds (h : d.Distinct) (hno : ¬d.Holds (.negative 0)) : d.settled = d := by
  induction h with
  | @intro d _ _ ih =>
    have hinside : ∀ c ∈ d.children, c.settled = c := fun c hc => ih c hc fun hn => hno (.inside hc hn)
    cases d with
    | object entries =>
      have hsame : settledEntries entries = entries := by
        rw [settledEntries_eq]
        refine (List.map_congr_left fun e he => ?_).trans (List.map_id entries)
        rw [hinside e.2 (List.mem_map.2 ⟨e, he, rfl⟩)]
        rfl
      rw [settled, hsame]
    | array items =>
      have hsame : settledItems items = items := by
        rw [settledItems_eq]
        exact (List.map_congr_left hinside).trans (List.map_id items)
      rw [settled, hsame]
    | number n => rw [settled, Number.settled_of_ne fun hn => hno (hn ▸ .number)]
    | _ => rfl

/-- Only a zero with a sign is changed. -/
theorem settled_eq_iff (h : d.Distinct) : d.settled = d ↔ ¬d.Holds (.negative 0) :=
  ⟨fun heq hholds => h.not_holds_settled (heq.symm ▸ hholds), h.settled_of_not_holds⟩

end Distinct

/-- From what is written for it a document is read, if nothing in it is rounded. -/
theorem Exact.read_written (h : d.Exact) (hlevel : d.level < maxDepth) :
    Reader.document (tokenize (Utf8.encode (Node.ofDocument d).write)) = (.ok d, []) := by
  obtain ⟨toks, hlex, htokens⟩ := tokenize_write h.plain (Nat.le_trans h.depth_le hlevel)
  have hread := (Tree.within_document h.document?_tree).reads (h.level_tree.symm ▸ hlevel) toks [] hlex
  rwa [List.append_nil, ← htokens] at hread

end Document

/-! ### Reading again -/

/-- **What is read as a document is read again from what is written for it, but for the form of zero.** If all numbers
of a text are integers that 64 bits can hold, and the text is read as a document, keys that it repeats and all escapes
in it included, then what is written for the document is read as the document with the one form for zero. That is the
document itself unless it has a zero with a sign, and such a one stands in the text. -/
theorem document_reread {bytes : List UInt8} {d : Document} {rest : Tokens}
    (hread : Reader.document (tokenize bytes) = (.ok d, rest))
    (hwhole : ∀ t n, .ok t ∈ tokenize bytes → t.lexeme = .number n → WholeText (numberText bytes t)) :
    Reader.document (tokenize (Utf8.encode (Node.ofDocument d).write)) = (.ok d.settled, []) ∧
    (d.settled = d ↔ ¬d.Holds (.negative 0)) ∧
    (d.Holds (.negative 0) → ∃ t, .ok t ∈ tokenize bytes ∧ t.lexeme = .number (.negative 0) ∧
      MinusZero (numberText bytes t)) := by
  obtain ⟨toks, tree, htokens, hlex, hd, hlevel⟩ := tree_of_document hread
  have hdistinct := tree.distinct_document d hd
  -- a number of the document is one of the tokens, and so the text has to say what form it is in
  have hsource : ∀ n, d.Holds n → ∃ t, .ok t ∈ tokenize bytes ∧ t.lexeme = .number n ∧ n.settled.Exact ∧
      (n = .negative 0 → MinusZero (numberText bytes t)) := by
    intro n hn
    have hmem := tree.holds_document d hd n hn
    rw [← hlex] at hmem
    obtain ⟨t, ht, heq⟩ := List.mem_map.1 hmem
    have htoken : .ok t ∈ tokenize bytes := by
      rw [htokens]
      exact List.mem_append_left _ (List.mem_map_of_mem ht)
    exact ⟨t, htoken, heq, (hwhole t n htoken heq).reads (number?_numberText htoken heq)⟩
  refine ⟨?_, hdistinct.settled_eq_iff, fun hzero => ?_⟩
  · have hexact : d.settled.Exact := hdistinct.exact_settled fun n hn => by
      obtain ⟨t, -, -, hn, -⟩ := hsource n hn
      exact hn
    have hroom : d.settled.level < maxDepth :=
      Nat.lt_of_le_of_lt (Nat.le_trans hdistinct.level_settled_le (tree.level_document d hd)) hlevel
    rw [← hdistinct.write_settled]
    exact hexact.read_written hroom
  · obtain ⟨t, htoken, heq, -, hminus⟩ := hsource _ hzero
    exact ⟨t, htoken, heq, hminus rfl⟩

/-- An object that repeats a key in another spelling, with a zero behind a minus and the greatest integer. -/
def signedText : List UInt8 := Utf8.encode "\x7b\"k\":7,\"\\u006b\":-0,\"m\":[18446744073709551615,-5]\x7d"

def signedDocument : Document :=
  .object [("k", .number (.negative 0)),
    ("m", .array [.number (.natural 18446744073709551615), .number (.negative (-5))])]

def signedTokens : List Token :=
  [⟨0, .startObject⟩, ⟨1, .key "k"⟩, ⟨5, .number (.natural 7)⟩, ⟨7, .key "\\u006b"⟩, ⟨16, .number (.negative 0)⟩,
    ⟨19, .key "m"⟩, ⟨23, .startArray⟩, ⟨24, .number (.natural 18446744073709551615)⟩, ⟨45, .number (.negative (-5))⟩,
    ⟨47, .endArray⟩, ⟨48, .endObject⟩]

theorem tokenize_signedText : tokenize signedText = signedTokens.map .ok := by
  decide +kernel

theorem wholeText_signedText :
    ∀ t n, .ok t ∈ tokenize signedText → t.lexeme = .number n → WholeText (numberText signedText t) := by
  intro t n ht hn
  rw [tokenize_signedText] at ht
  simp only [signedTokens, List.map_cons, List.map_nil, List.mem_cons, List.not_mem_nil, or_false, Except.ok.injEq] at ht
  rcases ht with rfl | rfl | rfl | rfl | rfl | rfl | rfl | rfl | rfl | rfl | rfl <;> cases hn
  · exact .natural ⟨['7'], by decide, List.all_eq_true.1 rfl⟩ (by decide)
  · exact .negative ⟨['0'], by decide, List.all_eq_true.1 rfl⟩ (by decide)
  · exact .natural ⟨"18446744073709551615".toList, by decide, List.all_eq_true.1 rfl⟩ (by decide)
  · exact .negative ⟨['5'], by decide, List.all_eq_true.1 rfl⟩ (by decide)

def signedTree : Tree :=
  .object [("k", .number (.natural 7)), ("\\u006b", .number (.negative 0)),
    ("m", .array [.number (.natural 18446744073709551615), .number (.negative (-5))])]

theorem document?_signedTree : signedTree.document? = some signedDocument := by
  have hk : unescape "k" = .ok "k" := by decide +kernel
  have hu : unescape "\\u006b" = .ok "k" := by decide +kernel
  have hm : unescape "m" = .ok "m" := by decide +kernel
  simp [signedTree, signedDocument, Tree.document?, entryDocuments?, itemDocuments?, hk, hu, hm, Except.toOption,
    Entries.ofList, Entries.insert]

theorem read_signedText : Reader.document (tokenize signedText) = (.ok signedDocument, []) := by
  rw [tokenize_signedText]
  exact (Tree.within_document document?_signedTree).reads (by decide) (signedTokens) [] rfl

theorem signedText_reread :
    Reader.document (tokenize signedText) = (.ok signedDocument, []) ∧
    Reader.document (tokenize (Utf8.encode (Node.ofDocument signedDocument).write)) =
      (.ok (.object [("k", .number (.natural 0)),
        ("m", .array [.number (.natural 18446744073709551615), .number (.negative (-5))])]), []) := by
  exact ⟨read_signedText, (document_reread read_signedText wholeText_signedText).1⟩

/-- A zero behind a minus is read as another number than what is written for it. -/
theorem minusZero_changed :
    ¬∀ (bytes : List UInt8) (d : Document), Reader.document (tokenize bytes) = (.ok d, []) →
      (∀ t n, .ok t ∈ tokenize bytes → t.lexeme = .number n → WholeText (numberText bytes t)) →
      Reader.document (tokenize (Utf8.encode (Node.ofDocument d).write)) = (.ok d, []) := by
  intro hclaim
  have htokens : tokenize [0x2D, 0x30] = [.ok ⟨0, .number (.negative 0)⟩] := by decide +kernel
  have hread : Reader.document (tokenize [0x2D, 0x30]) = (.ok (.number (.negative 0)), []) := by
    rw [htokens]
    rfl
  have hwhole : ∀ t n, .ok t ∈ tokenize [0x2D, 0x30] → t.lexeme = .number n →
      WholeText (numberText [0x2D, 0x30] t) := by
    intro t n ht hn
    rw [htokens, List.mem_singleton] at ht
    cases ht
    exact .negative ⟨['0'], by decide, List.all_eq_true.1 rfl⟩ (by decide)
  have hback := hclaim _ _ hread hwhole
  have hwritten : tokenize (Utf8.encode (Node.ofDocument (.number (.negative 0))).write) =
      [.ok ⟨0, .number (.natural 0)⟩] := by decide +kernel
  rw [hwritten] at hback
  cases hback

end Json

end WireShapes
