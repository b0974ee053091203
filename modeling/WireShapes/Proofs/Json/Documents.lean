import WireShapes.Proofs.Json.Extent
import WireShapes.Proofs.Json.Levels
import WireShapes.Proofs.Json.Writing

/-!
Documents are read as they were written.

* `Document.Exact`: documents in which nothing is rounded and no object repeats a key
* `Document.level`: how many containers a value of the document lies inside at most
* `Document.Exact.plain`, `Document.Exact.depth_le`: how a document is written
* `Document.Exact.document?_tree`, `Document.Exact.reads`: what it is written as is that document again,
  and so it is read from the lexemes
* `document_write`: what is written for a document is read as the document
* `skips_document`: whatever the tokens are, a document is one value
-/

namespace WireShapes.Json

/-- A document in which nothing is rounded and no object repeats a key. -/
inductive Document.Exact : Document → Prop
  | null : Exact .null
  | bool {b : Bool} : Exact (.bool b)
  | string {s : String} : Exact (.string s)
  | number {n : Number} (exact : n.Exact) : Exact (.number n)
  | array {items : List Document} (each : ∀ d ∈ items, Exact d) : Exact (.array items)
  | object {entries : List (String × Document)} (distinct : (entries.map Prod.fst).Nodup)
      (each : ∀ e ∈ entries, Exact e.2) : Exact (.object entries)

mutual

/-- How many containers a value of the document lies inside at most. -/
def Document.level : Document → Nat
  | .array items => itemsLevel items
  | .object entries => entriesLevel entries
  | _ => 0

/-- The same for the items of an array, which lie inside the array. -/
def itemsLevel : List Document → Nat
  | [] => 0
  | d :: rest => max (d.level + 1) (itemsLevel rest)

def entriesLevel : List (String × Document) → Nat
  | [] => 0
  | (_, d) :: rest => max (d.level + 1) (entriesLevel rest)

end

attribute [grind =] Document.level itemsLevel entriesLevel

theorem level_lt_itemsLevel {d : Document} {items : List Document} (h : d ∈ items) :
    d.level < itemsLevel items := by
  induction items with
  | nil => simp at h
  | cons a rest ih =>
    rw [itemsLevel]
    rcases List.mem_cons.1 h with rfl | hrest
    · omega
    · have := ih hrest
      omega

theorem level_lt_entriesLevel {e : String × Document} {entries : List (String × Document)}
    (h : e ∈ entries) : e.2.level < entriesLevel entries := by
  induction entries with
  | nil => simp at h
  | cons a rest ih =>
    rw [entriesLevel]
    rcases List.mem_cons.1 h with rfl | hrest
    · omega
    · have := ih hrest
      omega

/-! ### How a document is written -/

/-- The value that a document is written as. -/
def Document.tree (d : Document) : Tree := (Node.ofDocument d).tree

attribute [grind =] Node.ofDocument nodesOfItems nodesOfEntries

theorem nodesOfItems_eq (items : List Document) : nodesOfItems items = items.map Node.ofDocument := by
  induction items with
  | nil => rfl
  | cons d rest ih => rw [nodesOfItems, ih, List.map_cons]

theorem nodesOfEntries_eq (entries : List (String × Document)) :
    nodesOfEntries entries = entries.map fun e => (e.1, Node.ofDocument e.2) := by
  induction entries with
  | nil => rfl
  | cons e rest ih => rw [nodesOfEntries, ih, List.map_cons]

theorem tree_array (items : List Document) :
    (Document.array items).tree = .array (items.map Document.tree) := by
  rw [Document.tree, Node.ofDocument, Node.tree, itemTrees_eq, nodesOfItems_eq, List.map_map]
  rfl

theorem tree_object (entries : List (String × Document)) :
    (Document.object entries).tree = .object (entries.map fun e => (escape e.1, e.2.tree)) := by
  rw [Document.tree, Node.ofDocument, Node.tree, entryTrees_eq, nodesOfEntries_eq, List.map_map]
  rfl

/-- What is written for a document has no number that is not an integer. -/
theorem Document.Exact.plain {d : Document} (h : d.Exact) : (Node.ofDocument d).Plain := by
  induction h with
  | null => exact .null
  | bool => exact .bool
  | string => exact .string
  | number exact => exact .number exact
  | array _ ih =>
    rw [Node.ofDocument, nodesOfItems_eq]
    refine .array fun x hx => ?_
    obtain ⟨d, hd, rfl⟩ := List.mem_map.1 hx
    exact ih d hd
  | object _ _ ih =>
    rw [Node.ofDocument, nodesOfEntries_eq]
    refine .object fun x hx => ?_
    obtain ⟨e, he, rfl⟩ := List.mem_map.1 hx
    exact ih e he

/-- The innermost container of a document may be empty, so that there is one more of them than a value
can lie inside. -/
theorem Document.Exact.depth_le {d : Document} (h : d.Exact) : d.tree.depth ≤ d.level + 1 := by
  induction h with
  | array _ ih =>
    rw [tree_array, Tree.depth, Document.level, Nat.add_comm]
    refine Nat.add_le_add_right (itemsDepth_le fun t ht => ?_) 1
    obtain ⟨d, hd, rfl⟩ := List.mem_map.1 ht
    exact Nat.le_trans (ih d hd) (level_lt_itemsLevel hd)
  | object _ _ ih =>
    rw [tree_object, Tree.depth, Document.level, Nat.add_comm]
    refine Nat.add_le_add_right (entriesDepth_le fun x hx => ?_) 1
    obtain ⟨e, he, rfl⟩ := List.mem_map.1 hx
    exact Nat.le_trans (ih e he) (level_lt_entriesLevel he)
  | _ => exact Nat.zero_le _

/-! ### Reading it -/

open Reader

/-- The lexemes of the document are read as the document, inside as many containers as leave room for
it. -/
def ReadsDocument (d : Document) : Prop :=
  ∀ rounds depth, 2 * d.tree.lexemes.length ≤ rounds + 1 → depth + d.level < maxDepth →
    (documentAt rounds depth).Reads d.tree.lexemes d

theorem itemsLevel_map {items : List Document} (each : ∀ d ∈ items, d.tree.level = d.level) :
    Tree.itemsLevel (items.map Document.tree) = itemsLevel items := by
  induction items with
  | nil => rfl
  | cons d rest ih =>
    rw [List.map_cons, Tree.itemsLevel, itemsLevel, each d (by simp), ih fun a ha => each a (by simp [ha])]

theorem entriesLevel_map {entries : List (String × Document)} (each : ∀ e ∈ entries, e.2.tree.level = e.2.level) :
    Tree.entriesLevel (entries.map fun e => (escape e.1, e.2.tree)) = entriesLevel entries := by
  induction entries with
  | nil => rfl
  | cons e rest ih =>
    rw [List.map_cons, Tree.entriesLevel, entriesLevel, each e (by simp), ih fun a ha => each a (by simp [ha])]

/-- What a document is written as lies as deep as the document. -/
theorem Document.Exact.level_tree {d : Document} (h : d.Exact) : d.tree.level = d.level := by
  induction h with
  | array _ ih => rw [tree_array, Tree.level, Document.level, itemsLevel_map ih]
  | object _ _ ih => rw [tree_object, Tree.level, Document.level, entriesLevel_map ih]
  | _ => rfl

theorem itemDocuments?_map {items : List Document} (each : ∀ d ∈ items, d.tree.document? = some d) :
    itemDocuments? (items.map Document.tree) = some items := by
  induction items with
  | nil => rfl
  | cons d rest ih =>
    rw [List.map_cons, itemDocuments?, each d (by simp), ih fun a ha => each a (by simp [ha])]
    rfl

theorem entryDocuments?_map {entries : List (String × Document)}
    (each : ∀ e ∈ entries, e.2.tree.document? = some e.2) :
    entryDocuments? (entries.map fun e => (escape e.1, e.2.tree)) = some entries := by
  induction entries with
  | nil => rfl
  | cons e rest ih =>
    rw [List.map_cons, entryDocuments?, unescape_escape, each e (by simp), ih fun a ha => each a (by simp [ha])]
    rfl

theorem Document.Exact.document?_tree {d : Document} (h : d.Exact) : d.tree.document? = some d := by
  induction h with
  | array _ ih => rw [tree_array, Tree.document?, itemDocuments?_map ih, Option.map_some]
  | object distinct _ ih =>
    rw [tree_object, Tree.document?, entryDocuments?_map ih, Option.map_some, Entries.ofList_of_nodup distinct]
  | @string s =>
    show (unescape (escape s)).toOption.map Document.string = _
    rw [unescape_escape]
    rfl
  | _ => rfl

/-- **From the lexemes of a document the document is read**, and nothing of what comes after them. -/
theorem Document.Exact.reads {d : Document} (h : d.Exact) : ReadsDocument d := by
  intro rounds depth hrounds hlevel
  exact (d.tree.reads_document d h.document?_tree rounds depth hrounds).reads (h.level_tree ▸ hlevel)

/-- **What is written for a document is read as the document**, key by key in the same order and whatever
its texts are, and no token is left. -/
theorem document_write (d : Document) (exact : d.Exact) (hlevel : d.level ≤ 127) :
    Reader.document (tokenize (Utf8.encode (Node.ofDocument d).write)) = (.ok d, []) := by
  have hdepth : d.tree.depth ≤ maxDepth := Nat.le_trans exact.depth_le (Nat.succ_le_succ hlevel)
  obtain ⟨toks, hlex, htokens⟩ := tokenize_write exact.plain hdepth
  have hread : Reader.document.Reads d.tree.lexemes d :=
    Reads.rounds fun rounds hrounds => exact.reads rounds 0 (by omega) (by
      have : maxDepth = 128 := rfl
      omega)
  have hrun := hread toks [] hlex
  rwa [List.append_nil, ← htokens] at hrun

/-- An object with an empty array, the least number and a text of a quote, a control character and an
emoji, under keys that have to be escaped. -/
def mixedDocument : Document :=
  .object [("", .array []), ("a\"b\\", .number (.negative (-9223372036854775808))),
    ("\x01", .array [.string "\"\x1f😀", .object [("é", .null), ("e", .bool true)]])]

theorem exact_mixedDocument : mixedDocument.Exact := by
  refine .object (by decide) fun e he => ?_
  simp only [List.mem_cons, List.not_mem_nil, or_false] at he
  rcases he with rfl | rfl | rfl
  · exact .array fun d hd => by simp at hd
  · exact .number (show (-9223372036854775808 : Int64).toInt < 0 by decide)
  · refine .array fun d hd => ?_
    simp only [List.mem_cons, List.not_mem_nil, or_false] at hd
    rcases hd with rfl | rfl
    · exact .string
    · refine .object (by decide) fun e he => ?_
      simp only [List.mem_cons, List.not_mem_nil, or_false] at he
      rcases he with rfl | rfl
      · exact .null
      · exact .bool

theorem mixedDocument_round_trip : mixedDocument.Exact ∧ mixedDocument.level = 3 ∧
    Reader.document (tokenize (Utf8.encode (Node.ofDocument mixedDocument).write)) =
      (.ok mixedDocument, []) :=
  ⟨exact_mixedDocument, rfl, document_write mixedDocument exact_mixedDocument (by decide)⟩

/-! ### Where it ends -/

/-- How far the readers of documents read in that many rounds. -/
structure DocumentExtent (rounds : Nat) : Prop where
  value : ∀ depth, Skips (documentAt rounds depth)
  items : ∀ depth, Closes (documentItems rounds depth)
  entries : ∀ depth given, Closes (documentEntries rounds depth given)

theorem skips_documentAt_succ {rounds : Nat} (h : DocumentExtent rounds) (depth : Nat) :
    Skips (documentAt (rounds + 1) depth) := by
  by_cases hdepth : maxDepth ≤ depth
  · rw [documentAt, if_pos hdepth]
    exact fun _ _ _ hread => by cases hread
  rw [documentAt_succ (Nat.not_le.1 hdepth)]
  refine skips_token fun t => ?_
  split
  · next hx => exact (stays_pure _).skipsAfter .null (by rw [hx]; rfl)
  · next b hx => exact (stays_pure _).skipsAfter (.bool b) (by rw [hx]; rfl)
  · next n hx => exact (stays_pure _).skipsAfter (.number n) (by rw [hx]; rfl)
  · next raw hx =>
    exact ((stays_unescaped raw).bind fun _ => stays_pure _).skipsAfter (.string raw) (by rw [hx]; rfl)
  · next hx => exact ((h.items depth).bind fun _ => stays_pure _).skipsAfter (.inl hx)
  · next hx => exact ((h.entries depth []).bind fun _ => stays_pure _).skipsAfter (.inr hx)
  · exact skipsAfter_failWith _ _

theorem closes_documentItems_succ {rounds : Nat} (h : DocumentExtent rounds) (depth : Nat) :
    Closes (documentItems (rounds + 1) depth) := by
  rw [documentItems]
  refine closes_peek fun x => ?_
  split
  · exact closesAhead_next fun t ht => (stays_pure _).closesAfter (by rw [ht]; rfl)
  · refine Closes.closesAhead ?_ _
    exact (h.value (depth + 1)).passes.closes fun _ => (h.items depth).bind fun _ => stays_pure _

theorem closes_documentEntries_succ {rounds : Nat} (h : DocumentExtent rounds) (depth : Nat)
    (given : List (String × Document)) : Closes (documentEntries (rounds + 1) depth given) := by
  rw [documentEntries]
  refine closes_token fun t => ?_
  split
  · next hx => exact (stays_pure _).closesAfter (by rw [hx]; rfl)
  · next raw hx =>
    refine Closes.closesAfter ?_ (by rw [hx]; rfl)
    exact (stays_unescaped raw).passes.closes fun _ =>
      (h.value (depth + 1)).passes.closes fun _ => h.entries depth _
  · exact closesAfter_failWith _ _

theorem documentExtent (rounds : Nat) : DocumentExtent rounds := by
  induction rounds with
  | zero =>
    refine ⟨fun depth => ?_, fun depth => ?_, fun depth given => ?_⟩
    · rw [documentAt]; exact fun _ _ _ h => by cases h
    · rw [documentItems]; exact closes_failWith _
    · rw [documentEntries]; exact closes_failWith _
  | succ rounds ih =>
    exact ⟨skips_documentAt_succ ih, closes_documentItems_succ ih, closes_documentEntries_succ ih⟩

/-- **What is read of a document is one value**: the tokens that would be skipped in its place. -/
theorem skips_document : Skips Reader.document :=
  fun ts d rest h => (documentExtent _).value 0 ts d rest h

end WireShapes.Json
