import WireShapes.Proofs.Json.Literals

/-!
JSON values as trees, and all the texts of a tree.

* `Tree`: a value whose strings and keys are kept as they are written
* `Tree.lexemes`: its lexemes in the order of the text; `Tree.depth`: how deep its containers nest
* `Spells t text`: `text` is one of the texts of `t`, with blanks wherever they may stand
* `Spells.start`, `Spells.lexemes_length_le`: a text starts with no blank and has at least one byte for
  each lexeme
-/

namespace WireShapes.Json

/-- A value whose strings and keys are kept as they are written, escapes and all. -/
inductive Tree
  | string (raw : String)
  | number (value : Number)
  | bool (value : Bool)
  | null
  | array (items : List Tree)
  | object (entries : List (String × Tree))
deriving Repr, Inhabited

mutual

/-- The lexemes of a value in the order of its text. -/
def Tree.lexemes : Tree → List Lexeme
  | .string raw => [.string raw]
  | .number value => [.number value]
  | .bool value => [.bool value]
  | .null => [.null]
  | .array items => .startArray :: (itemLexemes items ++ [.endArray])
  | .object entries => .startObject :: (entryLexemes entries ++ [.endObject])

def itemLexemes : List Tree → List Lexeme
  | [] => []
  | t :: rest => t.lexemes ++ itemLexemes rest

def entryLexemes : List (String × Tree) → List Lexeme
  | [] => []
  | (raw, t) :: rest => .key raw :: (t.lexemes ++ entryLexemes rest)

end

mutual

/-- How many containers lie inside one another at most. -/
def Tree.depth : Tree → Nat
  | .array items => 1 + itemsDepth items
  | .object entries => 1 + entriesDepth entries
  | _ => 0

def itemsDepth : List Tree → Nat
  | [] => 0
  | t :: rest => max t.depth (itemsDepth rest)

def entriesDepth : List (String × Tree) → Nat
  | [] => 0
  | (_, t) :: rest => max t.depth (entriesDepth rest)

end

attribute [grind =] Tree.lexemes itemLexemes entryLexemes Tree.depth itemsDepth entriesDepth

/-- The lexemes of a value start with no end of an array, and with `null` only if they are nothing
else. -/
theorem Tree.lexemes_start (t : Tree) :
    ∃ x xs, t.lexemes = x :: xs ∧ x ≠ .endArray ∧ (x = .null → t = .null) := by
  cases t <;> exact ⟨_, _, by rw [Tree.lexemes], by simp, by simp⟩

theorem Tree.array_of_lexemes {t : Tree} {xs : List Lexeme} (h : t.lexemes = .startArray :: xs) :
    ∃ items, t = .array items ∧ xs = itemLexemes items ++ [.endArray] := by
  cases t with
  | array items =>
    rw [Tree.lexemes, List.cons.injEq] at h
    exact ⟨items, rfl, h.2.symm⟩
  | _ => simp [Tree.lexemes] at h

theorem Tree.object_of_lexemes {t : Tree} {xs : List Lexeme} (h : t.lexemes = .startObject :: xs) :
    ∃ entries, t = .object entries ∧ xs = entryLexemes entries ++ [.endObject] := by
  cases t with
  | object entries =>
    rw [Tree.lexemes, List.cons.injEq] at h
    exact ⟨entries, rfl, h.2.symm⟩
  | _ => simp [Tree.lexemes] at h

theorem depth_le_itemsDepth {t : Tree} {items : List Tree} (h : t ∈ items) :
    t.depth ≤ itemsDepth items := by
  induction items with
  | nil => simp at h
  | cons a rest ih =>
    rw [itemsDepth]
    rcases List.mem_cons.1 h with rfl | hrest
    · exact Nat.le_max_left ..
    · exact Nat.le_trans (ih hrest) (Nat.le_max_right ..)

theorem depth_le_entriesDepth {e : String × Tree} {entries : List (String × Tree)} (h : e ∈ entries) :
    e.2.depth ≤ entriesDepth entries := by
  induction entries with
  | nil => simp at h
  | cons a rest ih =>
    rw [entriesDepth]
    rcases List.mem_cons.1 h with rfl | hrest
    · exact Nat.le_max_left ..
    · exact Nat.le_trans (ih hrest) (Nat.le_max_right ..)

theorem itemsDepth_le {items : List Tree} {k : Nat} (h : ∀ t ∈ items, t.depth ≤ k) :
    itemsDepth items ≤ k := by
  induction items with
  | nil => exact Nat.zero_le k
  | cons t rest ih => exact Nat.max_le.2 ⟨h t (by simp), ih fun a ha => h a (by simp [ha])⟩

theorem entriesDepth_le {entries : List (String × Tree)} {k : Nat} (h : ∀ e ∈ entries, e.2.depth ≤ k) :
    entriesDepth entries ≤ k := by
  induction entries with
  | nil => exact Nat.zero_le k
  | cons e rest ih => exact Nat.max_le.2 ⟨h e (by simp), ih fun a ha => h a (by simp [ha])⟩

/-! ### The texts of a value -/

/-- Blanks and nothing else. -/
def Blank (w : List UInt8) : Prop := ∀ b ∈ w, Cursor.isBlank b = true

instance (w : List UInt8) : Decidable (Blank w) :=
  decidable_of_iff (w.all Cursor.isBlank = true) List.all_eq_true

theorem blank_nil : Blank [] := fun _ h => by simp at h

/-- A value with its text, and the blanks before and after it. -/
structure Piece where
  lead : List UInt8
  tree : Tree
  text : List UInt8
  trail : List UInt8

namespace Piece

def bytes (p : Piece) : List UInt8 := p.lead ++ (p.text ++ p.trail)

/-- What stands around the text is blank. -/
def Spaced (p : Piece) : Prop := Blank p.lead ∧ Blank p.trail

instance (p : Piece) : Decidable p.Spaced := inferInstanceAs (Decidable (_ ∧ _))

end Piece

/-- An entry of an object: the blanks before the key, the key, the blanks before the colon, and the
value. -/
structure Field where
  lead : List UInt8
  key : String
  gap : List UInt8
  value : Piece

namespace Field

def bytes (f : Field) : List UInt8 := f.lead ++ (literal f.key ++ (f.gap ++ 0x3A :: f.value.bytes))

/-- The key is a literal, and what stands around key and value is blank. -/
def Spaced (f : Field) : Prop :=
  Body f.key.toList ∧ Blank f.lead ∧ Blank f.gap ∧ f.value.Spaced

def entry (f : Field) : String × Tree := (f.key, f.value.tree)

end Field

/-- Texts with commas between them. -/
def commaed : List (List UInt8) → List UInt8
  | [] => []
  | [text] => text
  | text :: rest => text ++ 0x2C :: commaed rest

/-- `text` is a text of the value `t`. -/
inductive Spells : Tree → List UInt8 → Prop
  | string {raw : String} (body : Body raw.toList) : Spells (.string raw) (literal raw)
  | number {b : UInt8} {run : List UInt8} {value : Number} (start : b = 0x2D ∨ 0x30 ≤ b ∧ b ≤ 0x39)
      (each : ∀ x ∈ b :: run, isNumberByte x = true)
      (reads : number? ((b :: run).map fun x => Char.ofNat x.toNat) = some value) :
      Spells (.number value) (b :: run)
  | wordTrue : Spells (.bool true) (wordBytes "true")
  | wordFalse : Spells (.bool false) (wordBytes "false")
  | wordNull : Spells .null (wordBytes "null")
  | emptyArray {w : List UInt8} (blank : Blank w) : Spells (.array []) (0x5B :: (w ++ [0x5D]))
  | array {first : Piece} {pieces : List Piece} (spaced : ∀ p ∈ first :: pieces, p.Spaced)
      (each : ∀ p ∈ first :: pieces, Spells p.tree p.text) :
      Spells (.array ((first :: pieces).map Piece.tree))
        (0x5B :: (commaed ((first :: pieces).map Piece.bytes) ++ [0x5D]))
  | emptyObject {w : List UInt8} (blank : Blank w) : Spells (.object []) (0x7B :: (w ++ [0x7D]))
  | object {first : Field} {fields : List Field} (spaced : ∀ f ∈ first :: fields, f.Spaced)
      (each : ∀ f ∈ first :: fields, Spells f.value.tree f.value.text) :
      Spells (.object ((first :: fields).map Field.entry))
        (0x7B :: (commaed ((first :: fields).map Field.bytes) ++ [0x7D]))

/-- The first byte is neither blank nor the end of an array. -/
def Starts (text : List UInt8) : Prop :=
  ∃ b more, text = b :: more ∧ Cursor.isBlank b = false ∧ b ≠ 0x5D

theorem starts_number {b : UInt8} (start : b = 0x2D ∨ 0x30 ≤ b ∧ b ≤ 0x39) (run : List UInt8) :
    Starts (b :: run) := by
  refine ⟨b, run, rfl, ?_, ?_⟩
  · rcases start with rfl | ⟨h1, h2⟩
    · decide
    · rw [UInt8.le_iff_toNat_le] at h1 h2
      simp only [UInt8.reduceToNat] at h1 h2
      simp only [Cursor.isBlank, Bool.or_eq_false_iff, beq_eq_false_iff_ne, ne_eq, ← UInt8.toNat_inj,
        UInt8.reduceToNat]
      omega
  · rintro rfl
    revert start
    decide

/-- A text of a value starts with a byte that is neither blank nor the end of an array. -/
theorem Spells.start {t : Tree} {text : List UInt8} (h : Spells t text) : Starts text := by
  cases h with
  | string body => exact ⟨_, _, rfl, by decide, by decide⟩
  | number start each reads => exact starts_number start _
  | wordTrue => exact ⟨0x74, [0x72, 0x75, 0x65], by decide, by decide, by decide⟩
  | wordFalse => exact ⟨0x66, [0x61, 0x6C, 0x73, 0x65], by decide, by decide, by decide⟩
  | wordNull => exact ⟨0x6E, [0x75, 0x6C, 0x6C], by decide, by decide, by decide⟩
  | emptyArray blank => exact ⟨_, _, rfl, by decide, by decide⟩
  | array spaced each => exact ⟨_, _, rfl, by decide, by decide⟩
  | emptyObject blank => exact ⟨_, _, rfl, by decide, by decide⟩
  | object spaced each => exact ⟨_, _, rfl, by decide, by decide⟩

theorem commaed_cons_cons (text next : List UInt8) (rest : List (List UInt8)) :
    commaed (text :: next :: rest) = text ++ 0x2C :: commaed (next :: rest) := rfl

theorem length_commaed_cons (text : List UInt8) (rest : List (List UInt8)) :
    text.length + (commaed rest).length ≤ (commaed (text :: rest)).length := by
  cases rest with
  | nil => simp [commaed]
  | cons next rest =>
    rw [commaed_cons_cons, List.length_append, List.length_cons]
    omega

theorem length_lexemes_pieces {pieces : List Piece}
    (h : ∀ p ∈ pieces, p.tree.lexemes.length ≤ p.text.length) :
    (itemLexemes (pieces.map Piece.tree)).length ≤ (commaed (pieces.map Piece.bytes)).length := by
  induction pieces with
  | nil => simp [itemLexemes]
  | cons p rest ih =>
    have hp := h p (by simp)
    have hrest := ih fun q hq => h q (by simp [hq])
    have hcons := length_commaed_cons p.bytes (rest.map Piece.bytes)
    rw [List.map_cons, List.map_cons, itemLexemes, List.length_append]
    have hbytes : p.text.length ≤ p.bytes.length := by simp [Piece.bytes]; omega
    omega

theorem length_lexemes_fields {fields : List Field}
    (h : ∀ f ∈ fields, f.value.tree.lexemes.length ≤ f.value.text.length) :
    (entryLexemes (fields.map Field.entry)).length ≤ (commaed (fields.map Field.bytes)).length := by
  induction fields with
  | nil => simp [entryLexemes]
  | cons f rest ih =>
    have hf := h f (by simp)
    have hrest := ih fun q hq => h q (by simp [hq])
    have hcons := length_commaed_cons f.bytes (rest.map Field.bytes)
    have hbytes : 1 + f.value.text.length ≤ f.bytes.length := by
      simp [Field.bytes, Piece.bytes]; omega
    rw [List.map_cons, List.map_cons, Field.entry, entryLexemes, List.length_cons, List.length_append]
    omega

/-- A text has at least one byte for each lexeme. -/
theorem Spells.lexemes_length_le {t : Tree} {text : List UInt8} (h : Spells t text) :
    t.lexemes.length ≤ text.length := by
  induction h with
  | string body => simp [Tree.lexemes, literal]
  | number start each reads => simp [Tree.lexemes]
  | wordTrue => decide
  | wordFalse => decide
  | wordNull => decide
  | emptyArray blank => simp [Tree.lexemes, itemLexemes]
  | array spaced each ih =>
    have := length_lexemes_pieces ih
    simp only [Tree.lexemes, List.length_cons, List.length_append, List.length_nil]
    omega
  | emptyObject blank => simp [Tree.lexemes, entryLexemes]
  | object spaced each ih =>
    have := length_lexemes_fields ih
    simp only [Tree.lexemes, List.length_cons, List.length_append, List.length_nil]
    omega

end WireShapes.Json
