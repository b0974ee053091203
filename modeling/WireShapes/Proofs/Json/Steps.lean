import WireShapes.Json.Tokenizer
import WireShapes.Proofs.Results

/-!
What one step of the tokenizer can do.

* `ValueStep`, `readValue_eq_ok`: what a value, or the start of one, is read from
* `readKey_eq_ok`: what a key is read from
* `Moved`, `step_eq_ok`: all that a step can do, given the containers that are open
* `step_eq_none_iff`: only between two values can the text end
* `Moved.shorter`, `step_shorter`: a step takes at least one byte
-/

namespace WireShapes.Json

/-! ### Values and keys -/

/-- What reading a value at the place `c`, which is not blank, can come to inside the containers
`inner`. -/
inductive ValueStep (inner : List Frame) (c : Cursor) : Step → Prop
  | object {rest : List UInt8} (here : c.rest = 0x7B :: rest) (room : inner.length < maxDepth) :
      ValueStep inner c ⟨⟨c.offset, .startObject⟩, .objectStart :: inner, c.advance 1⟩
  | array {rest : List UInt8} (here : c.rest = 0x5B :: rest) (room : inner.length < maxDepth) :
      ValueStep inner c ⟨⟨c.offset, .startArray⟩, .arrayStart :: inner, c.advance 1⟩
  | string {rest : List UInt8} {raw : String} {next : Cursor} (here : c.rest = 0x22 :: rest)
      (read : readString c = .ok (raw, next)) : ValueStep inner c ⟨⟨c.offset, .string raw⟩, inner, next⟩
  | word {word : String} {x : Lexeme} {next : Cursor}
      (named : (word, x) ∈ [("true", .bool true), ("false", .bool false), ("null", .null)])
      (read : readWord c word = .ok next) : ValueStep inner c ⟨⟨c.offset, x⟩, inner, next⟩
  | number {b : UInt8} {rest : List UInt8} {value : Number} {next : Cursor} (here : c.rest = b :: rest)
      (start : b = 0x2D ∨ 0x30 ≤ b ∧ b ≤ 0x39) (read : readNumber c = .ok (value, next)) :
      ValueStep inner c ⟨⟨c.offset, .number value⟩, inner, next⟩

theorem unexpected_ne_ok {α : Type} {c : Cursor} {wanted : String} {a : α} :
    (c.unexpected wanted : Except ReadError α) ≠ .ok a := by
  unfold Cursor.unexpected Cursor.fail
  split <;> simp

theorem readValue_eq_ok {inner : List Frame} {c : Cursor} {s : Step} (h : readValue inner c = .ok s) :
    ValueStep inner c.skipBlanks s := by
  unfold readValue at h
  dsimp only at h
  split at h
  · exact absurd h unexpected_ne_ok
  next b rest here =>
  split at h
  · next hb =>
    split at h
    · cases h
    · next hroom =>
      cases h
      exact .object (hb ▸ here) (Nat.lt_of_not_le hroom)
  split at h
  · next hb =>
    split at h
    · cases h
    · next hroom =>
      cases h
      exact .array (hb ▸ here) (Nat.lt_of_not_le hroom)
  split at h
  · next hb =>
    obtain ⟨r, hr, rfl⟩ := Results.map_eq_ok_iff.1 h
    exact .string (hb ▸ here) hr
  split at h
  · obtain ⟨next, hnext, rfl⟩ := Results.map_eq_ok_iff.1 h
    exact .word (show ("true", Lexeme.bool true) ∈ _ by simp) hnext
  split at h
  · obtain ⟨next, hnext, rfl⟩ := Results.map_eq_ok_iff.1 h
    exact .word (show ("false", Lexeme.bool false) ∈ _ by simp) hnext
  split at h
  · obtain ⟨next, hnext, rfl⟩ := Results.map_eq_ok_iff.1 h
    exact .word (show ("null", Lexeme.null) ∈ _ by simp) hnext
  split at h
  · next hb =>
    obtain ⟨r, hr, rfl⟩ := Results.map_eq_ok_iff.1 h
    exact .number here hb hr
  · exact absurd h unexpected_ne_ok

theorem readKey_eq_ok {outer : List Frame} {c : Cursor} {s : Step} (h : readKey outer c = .ok s) :
    ∃ rest raw next more, c.rest = 0x22 :: rest ∧ readString c = .ok (raw, next) ∧
      next.skipBlanks.rest = 0x3A :: more ∧
      s = ⟨⟨c.offset, .key raw⟩, .fieldValue :: outer, next.skipBlanks.advance 1⟩ := by
  unfold readKey at h
  split at h
  · next rest here =>
    obtain ⟨r, hr, h⟩ := Results.bind_eq_ok_iff.1 h
    dsimp only at h
    split at h
    · next more hmore => exact ⟨rest, r.1, r.2, more, here, hr, hmore, (Except.ok.inj h).symm⟩
    · exact absurd h unexpected_ne_ok
  · exact absurd h unexpected_ne_ok

/-! ### Steps -/

/-- What a step from the place `c`, which is not blank, can come to inside the containers that are
open. -/
inductive Moved (c : Cursor) : List Frame → Step → Prop
  | top {s : Step} (value : readValue [] c = .ok s) : Moved c [] s
  | firstItem {outer : List Frame} {s : Step} (value : readValue (.arrayRest :: outer) c = .ok s) :
      Moved c (.arrayStart :: outer) s
  | nextItem {outer : List Frame} {s : Step} {rest : List UInt8} (comma : c.rest = 0x2C :: rest)
      (value : readValue (.arrayRest :: outer) (c.advance 1) = .ok s) : Moved c (.arrayRest :: outer) s
  | firstKey {outer : List Frame} {s : Step} (key : readKey outer c = .ok s) :
      Moved c (.objectStart :: outer) s
  | nextKey {outer : List Frame} {s : Step} {rest : List UInt8} (comma : c.rest = 0x2C :: rest)
      (key : readKey outer (c.advance 1).skipBlanks = .ok s) : Moved c (.objectRest :: outer) s
  | fieldValue {outer : List Frame} {s : Step} (value : readValue (.objectRest :: outer) c = .ok s) :
      Moved c (.fieldValue :: outer) s
  | endArray {frame : Frame} {outer : List Frame} {rest : List UInt8}
      (array : frame = .arrayStart ∨ frame = .arrayRest) (bracket : c.rest = 0x5D :: rest) :
      Moved c (frame :: outer) ⟨⟨c.offset, .endArray⟩, outer, c.advance 1⟩
  | endObject {frame : Frame} {outer : List Frame} {rest : List UInt8}
      (object : frame = .objectStart ∨ frame = .objectRest) (brace : c.rest = 0x7D :: rest) :
      Moved c (frame :: outer) ⟨⟨c.offset, .endObject⟩, outer, c.advance 1⟩

theorem step_eq_ok {frames : List Frame} {c : Cursor} {s : Step} (h : step frames c = some (.ok s)) :
    Moved c.skipBlanks frames s := by
  unfold step at h
  dsimp only at h
  split at h
  · split at h
    · cases h
    · exact .top (Option.some.inj h)
  · have h := Option.some.inj h
    split at h
    · next hb => exact Except.ok.inj h ▸ .endArray (.inl rfl) hb
    · exact .firstItem h
  · have h := Option.some.inj h
    split at h
    · next hb => exact Except.ok.inj h ▸ .endArray (.inr rfl) hb
    · next hb => exact .nextItem hb h
    · exact absurd h unexpected_ne_ok
  · have h := Option.some.inj h
    split at h
    · next hb => exact Except.ok.inj h ▸ .endObject (.inl rfl) hb
    · exact .firstKey h
  · have h := Option.some.inj h
    split at h
    · next hb => exact Except.ok.inj h ▸ .endObject (.inr rfl) hb
    · next hb => exact .nextKey hb h
    · exact absurd h unexpected_ne_ok
  · exact .fieldValue (Option.some.inj h)

/-- Only between two values can the text end. -/
theorem step_eq_none_iff {frames : List Frame} {c : Cursor} :
    step frames c = none ↔ frames = [] ∧ c.skipBlanks.rest = [] := by
  unfold step
  dsimp only
  split
  · split
    · next he => simpa using he
    · next he => simpa using he
  all_goals simp

/-! ### Every step takes at least one byte -/

theorem length_skipBlanks_le (c : Cursor) : c.skipBlanks.rest.length ≤ c.rest.length :=
  (List.dropWhile_suffix _).length_le

theorem length_advance_lt {c : Cursor} {b : UInt8} {rest : List UInt8} (h : c.rest = b :: rest) {n : Nat}
    (hn : 0 < n) : (c.advance n).rest.length < c.rest.length := by
  simp only [Cursor.advance, List.length_drop, h, List.length_cons]
  omega

theorem readString_shorter {c next : Cursor} {raw : String} {b : UInt8} {rest : List UInt8}
    (here : c.rest = b :: rest) (h : readString c = .ok (raw, next)) :
    next.rest.length < c.rest.length := by
  unfold readString at h
  obtain ⟨n, -, h⟩ := Results.bind_eq_ok_iff.1 h
  split at h
  · cases h
    simp only [Cursor.advance, List.length_drop, here, List.length_cons]
    omega
  · cases h

theorem readWord_shorter {c next : Cursor} {word : String} (hword : wordBytes word ≠ [])
    (h : readWord c word = .ok next) : next.rest.length < c.rest.length := by
  unfold readWord at h
  split at h
  · next hprefix =>
    cases h
    have hpos := List.length_pos_iff.2 hword
    have hle := (List.isPrefixOf_iff_prefix.1 hprefix).length_le
    simp only [Cursor.advance, List.length_drop]
    omega
  · cases h

theorem readNumber_shorter {c next : Cursor} {value : Number} {b : UInt8} {rest : List UInt8}
    (here : c.rest = b :: rest) (start : b = 0x2D ∨ 0x30 ≤ b ∧ b ≤ 0x39)
    (h : readNumber c = .ok (value, next)) : next.rest.length < c.rest.length := by
  have hb : isNumberByte b = true := by
    rcases start with rfl | ⟨h1, h2⟩
    · decide
    · simp [isNumberByte, h1, h2]
  unfold readNumber at h
  dsimp only at h
  split at h
  · cases h
    have hle := (List.dropWhile_suffix isNumberByte (l := rest)).length_le
    simp only [Cursor.moveTo, here, List.dropWhile_cons_of_pos hb, List.length_cons]
    omega
  · cases h

theorem ValueStep.shorter {inner : List Frame} {c : Cursor} {s : Step} (h : ValueStep inner c s) :
    s.cursor.rest.length < c.rest.length := by
  cases h with
  | object here => exact length_advance_lt here Nat.one_pos
  | array here => exact length_advance_lt here Nat.one_pos
  | string here read => exact readString_shorter here read
  | word named read =>
    refine readWord_shorter ?_ read
    simp only [List.mem_cons, Prod.mk.injEq, List.not_mem_nil, or_false] at named
    rcases named with ⟨rfl, -⟩ | ⟨rfl, -⟩ | ⟨rfl, -⟩ <;> decide
  | number here start read => exact readNumber_shorter here start read

theorem readValue_shorter {inner : List Frame} {c : Cursor} {s : Step} (h : readValue inner c = .ok s) :
    s.cursor.rest.length < c.rest.length :=
  Nat.lt_of_lt_of_le (readValue_eq_ok h).shorter (length_skipBlanks_le c)

theorem readKey_shorter {outer : List Frame} {c : Cursor} {s : Step} (h : readKey outer c = .ok s) :
    s.cursor.rest.length < c.rest.length := by
  obtain ⟨rest, raw, next, more, here, read, colon, rfl⟩ := readKey_eq_ok h
  have hstring := readString_shorter here read
  have hblanks := length_skipBlanks_le next
  have hcolon := length_advance_lt colon Nat.one_pos
  exact Nat.lt_of_lt_of_le hcolon (Nat.le_trans hblanks (Nat.le_of_lt hstring))

theorem Moved.shorter {frames : List Frame} {c : Cursor} {s : Step} (h : Moved c frames s) :
    s.cursor.rest.length < c.rest.length := by
  cases h with
  | top value => exact readValue_shorter value
  | firstItem value => exact readValue_shorter value
  | nextItem comma value => exact Nat.lt_trans (readValue_shorter value) (length_advance_lt comma Nat.one_pos)
  | firstKey key => exact readKey_shorter key
  | nextKey comma key =>
    have hkey := readKey_shorter key
    have hblanks := length_skipBlanks_le (c.advance 1)
    have hcomma := length_advance_lt comma Nat.one_pos
    omega
  | fieldValue value => exact readValue_shorter value
  | endArray _ bracket => exact length_advance_lt bracket Nat.one_pos
  | endObject _ brace => exact length_advance_lt brace Nat.one_pos

/-- **A step takes at least one byte.** -/
theorem step_shorter {frames : List Frame} {c : Cursor} {s : Step} (h : step frames c = some (.ok s)) :
    s.cursor.rest.length < c.rest.length :=
  Nat.lt_of_lt_of_le (step_eq_ok h).shorter (length_skipBlanks_le c)

end WireShapes.Json
