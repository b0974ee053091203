import WireShapes.Json.Writer
import WireShapes.Proofs.Json.Tokenizing
import WireShapes.Proofs.Numeric.Integers
import WireShapes.Proofs.Numeric.Numerals

/-!
What is written is a text of the value that was meant.

* `Node.Plain`: nodes without doubles and epoch seconds
* `Node.tree`: the value that a plain node is written as
* `spells_write`: the text of a plain node is a text of its value
* `tokenize_write`: and so its tokens are those of the value
-/

namespace WireShapes.Json

open Decimal

/-! ### Numbers -/

theorem toNat_ofNat_digit {c : Char} (h : isDigit c = true) :
    (UInt8.ofNat c.toNat).toNat = c.toNat := by
  simp only [isDigit, Bool.and_eq_true, decide_eq_true_eq] at h
  exact Utf8.toNat_ofNat (by omega)

theorem digit_bounds {c : Char} (h : isDigit c = true) :
    0x30 ≤ UInt8.ofNat c.toNat ∧ UInt8.ofNat c.toNat ≤ 0x39 := by
  rw [UInt8.le_iff_toNat_le, UInt8.le_iff_toNat_le, toNat_ofNat_digit h]
  simpa [isDigit] using h

theorem isNumberByte_digit {c : Char} (h : isDigit c = true) :
    isNumberByte (UInt8.ofNat c.toNat) = true := by
  simp [isNumberByte, digit_bounds h]

theorem ascii_of_isDigit {c : Char} (h : isDigit c = true) : c.toNat < 0x80 := by
  simp only [isDigit, Bool.and_eq_true, decide_eq_true_eq] at h
  omega

def isNumberChar (c : Char) : Bool := decide (c.toNat < 0x80) && isNumberByte (UInt8.ofNat c.toNat)

theorem isNumberChar_digit {c : Char} (h : isDigit c = true) : isNumberChar c = true := by
  rw [isNumberChar, isNumberByte_digit h, Bool.and_true, decide_eq_true_eq]
  exact ascii_of_isDigit h

theorem any_pointOrMark_digits {ds : List Char} (h : ∀ c ∈ ds, isDigit c = true) :
    (ds.any fun c => c == '.' || c == 'e' || c == 'E') = false := by
  rw [List.any_eq_false]
  intro c hc hmark
  have hd := h c hc
  simp only [Bool.or_eq_true, beq_iff_eq] at hmark
  rcases hmark with (rfl | rfl) | rfl <;> revert hd <;> decide

theorem fits_neg_iff (m : Nat) : IntWidth.w64.fits (-(m : Int)) = true ↔ m ≤ 0x8000000000000000 := by
  have hbound : IntWidth.w64.bound = 0x8000000000000000 := by decide
  rw [IntWidth.fits_iff, hbound]
  omega

theorem number?_digits (ds : Digits) :
    number? ds.chars =
      if digitsValue ds.chars < 0x10000000000000000 then some (.natural (UInt64.ofNat (digitsValue ds.chars)))
      else (readDouble? ds.chars).map .real := by
  obtain ⟨c, more, hchars, hc⟩ := ds.exists_cons
  have hhead : (ds.chars.head? == some '-') = false := by
    have hne : c ≠ '-' := ne_of_isDigit hc (by decide)
    simpa [hchars] using hne
  unfold number?
  simp only [any_pointOrMark_digits ds.each, hhead, readNat?_chars, Bool.false_eq_true, if_false]

theorem number?_minusDigits (ds : Digits) :
    number? ('-' :: ds.chars) =
      if digitsValue ds.chars ≤ 0x8000000000000000 then
        some (.negative (Int64.ofInt (-(digitsValue ds.chars : Int))))
      else (readDouble? ('-' :: ds.chars)).map .real := by
  have hreads : readInt? ('-' :: ds.chars) = some (-(digitsValue ds.chars : Int)) := by
    rw [readInt?, readNat?_chars]
    rfl
  unfold number?
  simp only [List.any_cons, any_pointOrMark_digits ds.each, List.head?_cons, hreads, fits_neg_iff, beq_self_eq_true,
    if_true]
  rfl

theorem exists_toDigits (n : Nat) : ∃ ds : Digits, ds.chars = Nat.toDigits 10 n :=
  ⟨⟨Nat.toDigits 10 n, Nat.toDigits_ne_nil, fun _ hc => isDigit_of_mem_toDigits hc⟩, rfl⟩

theorem number?_natural (n : UInt64) : number? (Nat.toDigits 10 n.toNat) = some (.natural n) := by
  obtain ⟨ds, hds⟩ := exists_toDigits n.toNat
  have hlt : n.toNat < 0x10000000000000000 := n.toNat_lt
  have hread := number?_digits ds
  rwa [hds, digitsValue_toDigits, if_pos hlt, UInt64.ofNat_toNat] at hread

theorem number?_negative {n : Int64} (h : n.toInt < 0) :
    number? ('-' :: Nat.toDigits 10 (-n.toInt).toNat) = some (.negative n) := by
  obtain ⟨ds, hds⟩ := exists_toDigits (-n.toInt).toNat
  have hmin : -0x8000000000000000 ≤ n.toInt := n.le_toInt
  have hread := number?_minusDigits ds
  rwa [hds, digitsValue_toDigits, if_pos (by omega), Int.toNat_of_nonneg (by omega), Int.neg_neg,
    Int64.ofInt_toInt] at hread

/-- Characters of a number after a sign or a digit are a text of the number that they are read as. -/
theorem spells_chars {c : Char} {cs : List Char} {n : Number} (hc : c = '-' ∨ isDigit c = true)
    (hcs : ∀ d ∈ cs, isNumberChar d = true) (reads : number? (c :: cs) = some n) :
    Spells (.number n) (Utf8.encodeChars (c :: cs)) := by
  have hall : ∀ d ∈ c :: cs, d.toNat < 0x80 ∧ isNumberByte (UInt8.ofNat d.toNat) = true := by
    intro d hd
    have hnumber : isNumberChar d = true := by
      rcases List.mem_cons.1 hd with rfl | hd
      · rcases hc with rfl | hd
        · decide
        · exact isNumberChar_digit hd
      · exact hcs d hd
    simpa [isNumberChar] using hnumber
  have hascii := fun d hd => (hall d hd).1
  have hback := Utf8.map_encodeChars_ascii hascii
  rw [Utf8.encodeChars_ascii hascii] at hback ⊢
  rw [List.map_cons] at hback ⊢
  refine .number ?_ (fun x hx => ?_) (hback.symm ▸ reads)
  · exact hc.imp (fun h => by rw [h]; rfl) digit_bounds
  · rcases List.mem_cons.1 hx with rfl | hx
    · exact (hall c (by simp)).2
    · obtain ⟨d, hd, rfl⟩ := List.mem_map.1 hx
      exact (hall d (by simp [hd])).2

theorem spells_number {n : Number} (h : n.Exact) : Spells (.number n) (Utf8.encode (writeNumber n)) := by
  cases n with
  | natural n =>
    have hreads := number?_natural n
    have htext : Utf8.encode (writeNumber (.natural n)) = Utf8.encodeChars (Nat.toDigits 10 n.toNat) := by
      simp [writeNumber, Number.text, Utf8.encode]
    obtain ⟨c, ds, hcs⟩ := List.exists_cons_of_ne_nil (Nat.toDigits_ne_nil (n := n.toNat) (b := 10))
    have hdigit : ∀ d ∈ c :: ds, isDigit d = true :=
      hcs ▸ fun d hd => isDigit_of_mem_toDigits hd
    rw [htext, hcs]
    exact spells_chars (.inr (hdigit c (by simp)))
      (fun d hd => isNumberChar_digit (hdigit d (by simp [hd]))) (hcs ▸ hreads)
  | negative n =>
    have htext : Utf8.encode (writeNumber (.negative n)) =
        Utf8.encodeChars ('-' :: Nat.toDigits 10 (-n.toInt).toNat) := by
      simp only [writeNumber, Number.text, Utf8.encode, Int.toString_eq_repr, Int.repr_eq_if]
      rw [if_neg (Int.not_le.2 h)]
      simp
    rw [htext]
    exact spells_chars (.inl rfl) (fun d hd => isNumberChar_digit (isDigit_of_mem_toDigits hd))
      (number?_negative h)
  | real x => exact h.elim

/-! ### Nodes -/

/-- A node without doubles and epoch seconds: nothing in it is rounded when it is read. -/
inductive Node.Plain : Node → Prop
  | null : Plain .null
  | bool {b : Bool} : Plain (.bool b)
  | string {s : String} : Plain (.string s)
  | number {n : Number} (exact : n.Exact) : Plain (.number n)
  | blob {bytes : List UInt8} : Plain (.blob bytes)
  | time {t : Instant} {format : TimeFormat} (text : format ≠ .epochSeconds) : Plain (.time t format)
  | array {items : List Node} (each : ∀ x ∈ items, Plain x) : Plain (.array items)
  | object {entries : List (String × Node)} (each : ∀ e ∈ entries, Plain e.2) : Plain (.object entries)

mutual

/-- The value that a plain node is written as. -/
def Node.tree : Node → Tree
  | .null => .null
  | .bool b => .bool b
  | .string s => .string (escape s)
  | .number n => .number n
  | .blob bytes => .string (escape (Base64.encode bytes))
  | .time t format => .string (escape (t.write format))
  | .array items => .array (itemTrees items)
  | .object entries => .object (entryTrees entries)

def itemTrees : List Node → List Tree
  | [] => []
  | x :: rest => x.tree :: itemTrees rest

def entryTrees : List (String × Node) → List (String × Tree)
  | [] => []
  | (key, x) :: rest => (escape key, x.tree) :: entryTrees rest

end

attribute [grind =] Node.tree itemTrees entryTrees Node.write writeItems writeEntries

theorem itemTrees_eq (items : List Node) : itemTrees items = items.map Node.tree := by
  induction items with
  | nil => rfl
  | cons x rest ih => rw [itemTrees, ih, List.map_cons]

theorem entryTrees_eq (entries : List (String × Node)) :
    entryTrees entries = entries.map fun e => (escape e.1, e.2.tree) := by
  induction entries with
  | nil => rfl
  | cons e rest ih => rw [entryTrees, ih, List.map_cons]

theorem writeItems_eq (items : List Node) : writeItems items = items.map Node.write := by
  induction items with
  | nil => rfl
  | cons x rest ih => rw [writeItems, ih, List.map_cons]

theorem writeEntries_eq (entries : List (String × Node)) :
    writeEntries entries = entries.map fun e => quoted e.1 ++ ":" ++ e.2.write := by
  induction entries with
  | nil => rfl
  | cons e rest ih => rw [writeEntries, ih, List.map_cons]

theorem encode_quoted (s : String) : Utf8.encode (quoted s) = literal (escape s) := by
  have hquote : Utf8.encode "\"" = [0x22] := by decide
  rw [quoted, Utf8.encode_append, Utf8.encode_append, hquote, literal, List.append_assoc,
    List.singleton_append]

theorem encode_commaed (texts : List String) :
    Utf8.encode (",".intercalate texts) = commaed (texts.map Utf8.encode) := by
  induction texts with
  | nil => rfl
  | cons text rest ih =>
    cases rest with
    | nil => simp [commaed]
    | cons next rest =>
      rw [String.intercalate_cons_cons, Utf8.encode_append, Utf8.encode_append, ih, List.map_cons,
        List.map_cons, List.map_cons, commaed_cons_cons, List.append_assoc]
      rfl

/-- The piece of an array that a node is written as. -/
def Node.piece (x : Node) : Piece := ⟨[], x.tree, Utf8.encode x.write, []⟩

/-- The entry of an object that a key and a node are written as. -/
def Node.field (e : String × Node) : Field := ⟨[], escape e.1, [], e.2.piece⟩

theorem bytes_piece (x : Node) : x.piece.bytes = Utf8.encode x.write := by
  simp [Node.piece, Piece.bytes]

theorem bytes_field (e : String × Node) :
    (Node.field e).bytes = Utf8.encode (quoted e.1 ++ ":" ++ e.2.write) := by
  rw [Utf8.encode_append, Utf8.encode_append, encode_quoted, List.append_assoc]
  simp only [Node.field, Field.bytes, bytes_piece, List.nil_append]
  rfl

theorem spells_array {items : List Node} (each : ∀ x ∈ items, Spells x.tree (Utf8.encode x.write)) :
    Spells (Node.array items).tree (Utf8.encode (Node.array items).write) := by
  have htext : Utf8.encode (Node.array items).write =
      0x5B :: (commaed ((items.map Node.piece).map Piece.bytes) ++ [0x5D]) := by
    rw [Node.write, Utf8.encode_append, Utf8.encode_append, encode_commaed, writeItems_eq, List.map_map,
      List.map_map, List.append_assoc]
    simp only [Function.comp_def, bytes_piece]
    rfl
  have htree : (Node.array items).tree = .array ((items.map Node.piece).map Piece.tree) := by
    rw [Node.tree, itemTrees_eq, List.map_map]
    rfl
  rw [htext, htree]
  cases items with
  | nil => exact .emptyArray blank_nil
  | cons x rest =>
    refine .array (fun p hp => ?_) (fun p hp => ?_)
    · obtain ⟨y, -, rfl⟩ := List.mem_map.1 (List.map_cons ▸ hp)
      exact ⟨blank_nil, blank_nil⟩
    · obtain ⟨y, hy, rfl⟩ := List.mem_map.1 (List.map_cons ▸ hp)
      exact each y hy

theorem spells_object {entries : List (String × Node)}
    (each : ∀ e ∈ entries, Spells e.2.tree (Utf8.encode e.2.write)) :
    Spells (Node.object entries).tree (Utf8.encode (Node.object entries).write) := by
  have htext : Utf8.encode (Node.object entries).write =
      0x7B :: (commaed ((entries.map Node.field).map Field.bytes) ++ [0x7D]) := by
    rw [Node.write, Utf8.encode_append, Utf8.encode_append, encode_commaed, writeEntries_eq, List.map_map,
      List.map_map, List.append_assoc]
    simp only [Function.comp_def, bytes_field]
    rfl
  have htree : (Node.object entries).tree = .object ((entries.map Node.field).map Field.entry) := by
    rw [Node.tree, entryTrees_eq, List.map_map]
    rfl
  rw [htext, htree]
  cases entries with
  | nil => exact .emptyObject blank_nil
  | cons e rest =>
    refine .object (fun f hf => ?_) (fun f hf => ?_)
    · obtain ⟨y, -, rfl⟩ := List.mem_map.1 (List.map_cons ▸ hf)
      exact ⟨body_escape y.1, blank_nil, blank_nil, blank_nil, blank_nil⟩
    · obtain ⟨y, hy, rfl⟩ := List.mem_map.1 (List.map_cons ▸ hf)
      exact each y hy

/-- **The text of a plain node is a text of its value.** -/
theorem spells_write {x : Node} (h : x.Plain) : Spells x.tree (Utf8.encode x.write) := by
  induction h with
  | null => exact .wordNull
  | @bool b =>
    cases b with
    | false => exact .wordFalse
    | true => exact .wordTrue
  | @string s =>
    rw [Node.write, encode_quoted]
    exact .string (body_escape s)
  | number exact => exact spells_number exact
  | @blob bytes =>
    rw [Node.write, encode_quoted]
    exact .string (body_escape _)
  | @time t format text =>
    have hwrite : writeTime t format = quoted (t.write format) := by
      unfold writeTime
      split
      · exact absurd rfl text
      · rfl
    rw [Node.write, hwrite, encode_quoted]
    exact .string (body_escape _)
  | array _ ih => exact spells_array ih
  | object _ ih => exact spells_object ih

/-- **The tokens of what is written say the lexemes of the value, and there are no others.** -/
theorem tokenize_write {x : Node} (h : x.Plain) (hdepth : x.tree.depth ≤ maxDepth) :
    ∃ toks : List Token, toks.map Token.lexeme = x.tree.lexemes ∧
      tokenize (Utf8.encode x.write) = toks.map .ok :=
  tokenize_of_spells (spells_write h) hdepth

end WireShapes.Json
