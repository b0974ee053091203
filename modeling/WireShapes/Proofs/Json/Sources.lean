import WireShapes.Proofs.Json.Nesting
import WireShapes.Proofs.Json.Tokenizing

/-!
The source text of each token.

* `ValueText`, `StepText`: a token, what stands in front of it, its text, and the containers that are open
  before and after it
* `step_text`: a step reads such a text, and the token stands at its start
* `StepText.emits`: and of such a text a step makes that token, whatever comes after it
* `source_of_mem`, `source_of_tokenize`: every token of a text stands where its text is
-/

namespace WireShapes.Json

/-! ### Steps and their texts -/

/-- The text of a value, or of the start of one, inside the containers `inner`. -/
inductive ValueText (inner : List Frame) : List UInt8 → Lexeme → List Frame → Prop
  | object (room : inner.length < maxDepth) : ValueText inner [0x7B] .startObject (.objectStart :: inner)
  | array (room : inner.length < maxDepth) : ValueText inner [0x5B] .startArray (.arrayStart :: inner)
  | string {raw : String} (body : Body raw.toList) : ValueText inner (literal raw) (.string raw) inner
  | word {word : String} {x : Lexeme}
      (named : (word, x) ∈ [("true", Lexeme.bool true), ("false", .bool false), ("null", .null)]) :
      ValueText inner (wordBytes word) x inner
  | number {b : UInt8} {run : List UInt8} {value : Number} (start : b = 0x2D ∨ 0x30 ≤ b ∧ b ≤ 0x39)
      (each : ∀ x ∈ b :: run, isNumberByte x = true)
      (reads : number? ((b :: run).map fun x => Char.ofNat x.toNat) = some value) :
      ValueText inner (b :: run) (.number value) inner

/-- The text of a token inside the containers that are open, and what stands in front of it: blanks, and
the comma after an item or an entry. A key has its colon. -/
inductive StepText : List Frame → List UInt8 → List UInt8 → Lexeme → List Frame → Prop
  | top {lead text : List UInt8} {x : Lexeme} {after : List Frame} (blank : Blank lead)
      (value : ValueText [] text x after) : StepText [] lead text x after
  | firstItem {outer after : List Frame} {lead text : List UInt8} {x : Lexeme} (blank : Blank lead)
      (value : ValueText (.arrayRest :: outer) text x after) :
      StepText (.arrayStart :: outer) lead text x after
  | nextItem {outer after : List Frame} {w lead text : List UInt8} {x : Lexeme} (front : Blank w)
      (blank : Blank lead) (value : ValueText (.arrayRest :: outer) text x after) :
      StepText (.arrayRest :: outer) (w ++ 0x2C :: lead) text x after
  | fieldValue {outer after : List Frame} {lead text : List UInt8} {x : Lexeme} (blank : Blank lead)
      (value : ValueText (.objectRest :: outer) text x after) :
      StepText (.fieldValue :: outer) lead text x after
  | firstKey {outer : List Frame} {lead gap : List UInt8} {raw : String} (blank : Blank lead)
      (body : Body raw.toList) (between : Blank gap) :
      StepText (.objectStart :: outer) lead (literal raw ++ (gap ++ [0x3A])) (.key raw) (.fieldValue :: outer)
  | nextKey {outer : List Frame} {w lead gap : List UInt8} {raw : String} (front : Blank w)
      (blank : Blank lead) (body : Body raw.toList) (between : Blank gap) :
      StepText (.objectRest :: outer) (w ++ 0x2C :: lead) (literal raw ++ (gap ++ [0x3A])) (.key raw)
        (.fieldValue :: outer)
  | endArray {frame : Frame} {outer : List Frame} {lead : List UInt8} (blank : Blank lead)
      (array : frame = .arrayStart ∨ frame = .arrayRest) :
      StepText (frame :: outer) lead [0x5D] .endArray outer
  | endObject {frame : Frame} {outer : List Frame} {lead : List UInt8} (blank : Blank lead)
      (object : frame = .objectStart ∨ frame = .objectRest) :
      StepText (frame :: outer) lead [0x7D] .endObject outer

section Inversion

variable {frames inner after : List Frame} {lead text : List UInt8} {raw : String} {n : Number}

theorem ValueText.string_inv (h : ValueText inner text (.string raw) after) :
    text = literal raw ∧ Body raw.toList := by
  cases h with
  | string body => exact ⟨rfl, body⟩
  | word named => simp at named

theorem ValueText.number_inv (h : ValueText inner text (.number n) after) :
    ∃ b run, text = b :: run ∧ (b = 0x2D ∨ 0x30 ≤ b ∧ b ≤ 0x39) ∧
      (∀ x ∈ b :: run, isNumberByte x = true) ∧
      number? ((b :: run).map fun x => Char.ofNat x.toNat) = some n := by
  cases h with
  | number start each reads => exact ⟨_, _, rfl, start, each, reads⟩
  | word named => simp at named

theorem not_valueText_key : ¬ValueText inner text (.key raw) after := by
  rintro (_ | _)
  next named => simp at named

theorem StepText.value {x : Lexeme} (h : StepText frames lead text x after)
    (hx : (∃ raw, x = .string raw) ∨ ∃ n, x = .number n) :
    ∃ inner, ValueText inner text x after := by
  cases h with
  | top _ value => exact ⟨_, value⟩
  | firstItem _ value => exact ⟨_, value⟩
  | nextItem _ _ value => exact ⟨_, value⟩
  | fieldValue _ value => exact ⟨_, value⟩
  | _ => simp at hx

theorem StepText.key_inv (h : StepText frames lead text (.key raw) after) :
    ∃ gap, text = literal raw ++ (gap ++ [0x3A]) ∧ Body raw.toList := by
  cases h with
  | top _ value => exact absurd value not_valueText_key
  | firstItem _ value => exact absurd value not_valueText_key
  | nextItem _ _ value => exact absurd value not_valueText_key
  | fieldValue _ value => exact absurd value not_valueText_key
  | firstKey _ body between => exact ⟨_, rfl, body⟩
  | nextKey _ _ body between => exact ⟨_, rfl, body⟩

/-- The text of a string or a key starts with a literal. -/
theorem StepText.literal_inv {x : Lexeme} (h : StepText frames lead text x after)
    (hx : x = .string raw ∨ x = .key raw) : ∃ more, text = literal raw ++ more ∧ Body raw.toList := by
  rcases hx with rfl | rfl
  · obtain ⟨inner, hvalue⟩ := h.value (.inl ⟨raw, rfl⟩)
    obtain ⟨rfl, hbody⟩ := hvalue.string_inv
    exact ⟨[], (List.append_nil _).symm, hbody⟩
  · obtain ⟨gap, rfl, hbody⟩ := h.key_inv
    exact ⟨_, rfl, hbody⟩

end Inversion

/-- A number goes as far as it can. -/
def Ends (x : Lexeme) (tail : List UInt8) : Prop := ∀ value, x = .number value → Stops tail

theorem ends_of_ne {x : Lexeme} (h : ∀ value, x ≠ .number value) (tail : List UInt8) : Ends x tail :=
  fun value hx => absurd hx (h value)

/-! ### What a step has read -/

theorem stops_dropWhile (bytes : List UInt8) : Stops (bytes.dropWhile isNumberByte) := by
  intro b more h
  have hhead := List.head?_dropWhile_not isNumberByte bytes
  rw [h] at hhead
  simpa using hhead

/-- The text of a token at the place `c`, and the place after it. -/
structure At (c : Cursor) (text : List UInt8) (next : Cursor) : Prop where
  here : c.rest = text ++ next.rest
  place : next.offset = c.offset + text.length

/-- The text ends where it did. -/
theorem At.end_eq {c next : Cursor} {text : List UInt8} (h : At c text next) :
    next.offset + next.rest.length = c.offset + c.rest.length := by
  rw [h.place, h.here, List.length_append, Nat.add_assoc]

theorem At.append {c d next : Cursor} {text more : List UInt8} (h : At c text d) (h' : At d more next) :
    At c (text ++ more) next :=
  ⟨by rw [h.here, h'.here, List.append_assoc], by
    rw [h'.place, h.place, List.length_append, Nat.add_assoc]⟩

theorem at_skipBlanks (c : Cursor) : ∃ lead, Blank lead ∧ At c lead c.skipBlanks := by
  have hsplit : c.rest.takeWhile Cursor.isBlank ++ c.rest.dropWhile Cursor.isBlank = c.rest :=
    List.takeWhile_append_dropWhile
  have hlength := congrArg List.length hsplit
  rw [List.length_append] at hlength
  refine ⟨c.rest.takeWhile Cursor.isBlank, fun b hb => List.all_eq_true.1 List.all_takeWhile b hb,
    hsplit.symm, ?_⟩
  simp only [Cursor.skipBlanks, Cursor.moveTo]
  omega

theorem at_advance {c : Cursor} {b : UInt8} {rest : List UInt8} (h : c.rest = b :: rest) :
    At c [b] (c.advance 1) := ⟨by simp [Cursor.advance, h], by simp [Cursor.advance]⟩

theorem at_readWord {c next : Cursor} {word : String} (h : readWord c word = .ok next) :
    At c (wordBytes word) next := by
  unfold readWord at h
  split at h
  · next hprefix =>
    cases h
    obtain ⟨tail, htail⟩ := List.isPrefixOf_iff_prefix.1 hprefix
    refine ⟨?_, rfl⟩
    simp only [Cursor.advance, ← htail, List.drop_left]
  · cases h

theorem at_readString {c next : Cursor} {rest : List UInt8} {raw : String} (here : c.rest = 0x22 :: rest)
    (h : readString c = .ok (raw, next)) : At c (literal raw) next ∧ Body raw.toList := by
  obtain ⟨offset, bytes⟩ := c
  obtain rfl := here
  obtain ⟨tail, htail, hbody, rfl⟩ := readString_eq_ok h
  exact ⟨⟨htail, rfl⟩, hbody⟩

theorem at_readNumber {c next : Cursor} {b : UInt8} {rest : List UInt8} {value : Number}
    (here : c.rest = b :: rest) (start : b = 0x2D ∨ 0x30 ≤ b ∧ b ≤ 0x39)
    (h : readNumber c = .ok (value, next)) :
    ∃ run, At c (b :: run) next ∧ (∀ x ∈ b :: run, isNumberByte x = true) ∧ Stops next.rest ∧
      number? ((b :: run).map fun x => Char.ofNat x.toNat) = some value := by
  have hb : isNumberByte b = true := by
    rcases start with rfl | ⟨h1, h2⟩
    · decide
    · simp [isNumberByte, h1, h2]
  have hsplit : rest.takeWhile isNumberByte ++ rest.dropWhile isNumberByte = rest :=
    List.takeWhile_append_dropWhile
  have hlength := congrArg List.length hsplit
  rw [List.length_append] at hlength
  unfold readNumber at h
  simp only [here, List.takeWhile_cons_of_pos hb, List.dropWhile_cons_of_pos hb] at h
  split at h
  · next n hn =>
    cases h
    refine ⟨rest.takeWhile isNumberByte, ⟨?_, ?_⟩, ?_, stops_dropWhile rest, hn⟩
    · simp only [Cursor.moveTo, here, List.cons_append, hsplit]
    · simp only [Cursor.moveTo, here, List.length_cons]
      omega
    · exact List.forall_mem_cons.2 ⟨hb, fun x hx => List.all_eq_true.1 List.all_takeWhile x hx⟩
  · cases h

theorem ValueStep.text {inner : List Frame} {c : Cursor} {s : Step} (h : ValueStep inner c s) :
    ∃ text, At c text s.cursor ∧ s.token.offset = c.offset ∧
      ValueText inner text s.token.lexeme s.frames ∧ Ends s.token.lexeme s.cursor.rest := by
  cases h with
  | object here room => exact ⟨_, at_advance here, rfl, .object room, ends_of_ne (by simp) _⟩
  | array here room => exact ⟨_, at_advance here, rfl, .array room, ends_of_ne (by simp) _⟩
  | string here read =>
    obtain ⟨hat, hbody⟩ := at_readString here read
    exact ⟨_, hat, rfl, .string hbody, ends_of_ne (by simp) _⟩
  | word named read =>
    refine ⟨_, at_readWord read, rfl, .word named, ends_of_ne (fun value hx => ?_) _⟩
    obtain rfl : _ = Lexeme.number value := hx
    simp at named
  | number here start read =>
    obtain ⟨run, hat, heach, hstops, hreads⟩ := at_readNumber here start read
    exact ⟨_, hat, rfl, .number start heach hreads, fun _ _ => hstops⟩

theorem readValue_text {inner : List Frame} {c : Cursor} {s : Step} (h : readValue inner c = .ok s) :
    ∃ lead text, Blank lead ∧ At c (lead ++ text) s.cursor ∧ s.token.offset = c.offset + lead.length ∧
      ValueText inner text s.token.lexeme s.frames ∧ Ends s.token.lexeme s.cursor.rest := by
  obtain ⟨lead, hlead, hat⟩ := at_skipBlanks c
  obtain ⟨text, htext, hplace, hvalue, hends⟩ := (readValue_eq_ok h).text
  exact ⟨lead, text, hlead, hat.append htext, hplace.trans hat.place, hvalue, hends⟩

theorem readKey_text {outer : List Frame} {c : Cursor} {s : Step} (h : readKey outer c = .ok s) :
    ∃ raw gap, At c (literal raw ++ (gap ++ [0x3A])) s.cursor ∧ s.token = ⟨c.offset, .key raw⟩ ∧
      s.frames = .fieldValue :: outer ∧ Body raw.toList ∧ Blank gap := by
  obtain ⟨rest, raw, next, more, here, read, colon, rfl⟩ := readKey_eq_ok h
  obtain ⟨hat, hbody⟩ := at_readString here read
  obtain ⟨gap, hgap, hblank⟩ := at_skipBlanks next
  exact ⟨raw, gap, hat.append (hblank.append (at_advance colon)), rfl, rfl, hbody, hgap⟩

theorem Blank.append {v w : List UInt8} (hv : Blank v) (hw : Blank w) : Blank (v ++ w) :=
  List.forall_mem_append.2 ⟨hv, hw⟩

/-- **A step reads the text of its token**, which stands at the start of that text. -/
theorem step_text {frames : List Frame} {c : Cursor} {s : Step} (h : step frames c = some (.ok s)) :
    ∃ lead text, At c (lead ++ text) s.cursor ∧ s.token.offset = c.offset + lead.length ∧
      StepText frames lead text s.token.lexeme s.frames ∧ Ends s.token.lexeme s.cursor.rest := by
  obtain ⟨w, hw, hat⟩ := at_skipBlanks c
  have hvalue : ∀ inner, readValue inner c.skipBlanks = .ok s → ∃ lead text, Blank lead ∧
      At c (lead ++ text) s.cursor ∧ s.token.offset = c.offset + lead.length ∧
      ValueText inner text s.token.lexeme s.frames ∧ Ends s.token.lexeme s.cursor.rest := by
    intro inner hread
    obtain ⟨lead, text, hlead, htext, hplace, hvalue, hends⟩ := readValue_text hread
    refine ⟨w ++ lead, text, hw.append hlead, ?_, ?_, hvalue, hends⟩
    · rw [List.append_assoc]
      exact hat.append htext
    · rw [hplace, hat.place, List.length_append, Nat.add_assoc]
  cases step_eq_ok h with
  | top value =>
    obtain ⟨lead, text, hlead, htext, hplace, hvalue, hends⟩ := hvalue _ value
    exact ⟨lead, text, htext, hplace, .top hlead hvalue, hends⟩
  | firstItem value =>
    obtain ⟨lead, text, hlead, htext, hplace, hvalue, hends⟩ := hvalue _ value
    exact ⟨lead, text, htext, hplace, .firstItem hlead hvalue, hends⟩
  | fieldValue value =>
    obtain ⟨lead, text, hlead, htext, hplace, hvalue, hends⟩ := hvalue _ value
    exact ⟨lead, text, htext, hplace, .fieldValue hlead hvalue, hends⟩
  | nextItem comma value =>
    obtain ⟨lead, text, hlead, htext, hplace, hvalue, hends⟩ := readValue_text value
    have hcomma := hat.append (at_advance comma)
    refine ⟨w ++ 0x2C :: lead, text, ?_, ?_, .nextItem hw hlead hvalue, hends⟩
    · simpa using hcomma.append htext
    · simpa [hcomma.place, Nat.add_assoc, Nat.add_comm lead.length] using hplace
  | firstKey key =>
    obtain ⟨raw, gap, htext, htoken, hframes, hbody, hgap⟩ := readKey_text key
    rw [htoken, hframes]
    exact ⟨w, _, hat.append htext, hat.place, .firstKey hw hbody hgap, ends_of_ne (by simp) _⟩
  | nextKey comma key =>
    obtain ⟨raw, gap, htext, htoken, hframes, hbody, hgap⟩ := readKey_text key
    obtain ⟨lead, hlead, hblank⟩ := at_skipBlanks (c.skipBlanks.advance 1)
    have hfront : At c (w ++ 0x2C :: lead) (c.skipBlanks.advance 1).skipBlanks := by
      simpa using (hat.append (at_advance comma)).append hblank
    rw [htoken, hframes]
    exact ⟨w ++ 0x2C :: lead, _, hfront.append htext, hfront.place, .nextKey hw hlead hbody hgap,
      ends_of_ne (by simp) _⟩
  | endArray array bracket =>
    exact ⟨w, _, hat.append (at_advance bracket), hat.place, .endArray hw array, ends_of_ne (by simp) _⟩
  | endObject object brace =>
    exact ⟨w, _, hat.append (at_advance brace), hat.place, .endObject hw object, ends_of_ne (by simp) _⟩

/-! ### What a step reads -/

theorem ValueText.starts {inner after : List Frame} {text : List UInt8} {x : Lexeme}
    (h : ValueText inner text x after) : Starts text := by
  cases h with
  | object => exact ⟨_, _, rfl, by decide, by decide⟩
  | array => exact ⟨_, _, rfl, by decide, by decide⟩
  | string body => exact (Spells.string body).start
  | word named =>
    simp only [List.mem_cons, Prod.mk.injEq, List.not_mem_nil, or_false] at named
    rcases named with ⟨rfl, -⟩ | ⟨rfl, -⟩ | ⟨rfl, -⟩
    · exact Spells.wordTrue.start
    · exact Spells.wordFalse.start
    · exact Spells.wordNull.start
  | number start => exact starts_number start _

theorem ValueText.takes {inner after : List Frame} {text : List UInt8} {x : Lexeme}
    (h : ValueText inner text x after) {w : List UInt8} (hw : Blank w) {tail : List UInt8}
    (hends : Ends x tail) : Takes inner (w ++ (text ++ tail)) x after tail := by
  cases h with
  | object room => exact takes_startObject hw room tail
  | array room => exact takes_startArray hw room tail
  | string body => exact takes_string hw body
  | word named =>
    simp only [List.mem_cons, Prod.mk.injEq, List.not_mem_nil, or_false] at named
    rcases named with ⟨rfl, rfl⟩ | ⟨rfl, rfl⟩ | ⟨rfl, rfl⟩
    · exact takes_true hw
    · exact takes_false hw
    · exact takes_null hw
  | number start each reads => exact takes_number hw start each reads (hends _ rfl)

theorem StepText.length_pos {frames after : List Frame} {lead text : List UInt8} {x : Lexeme}
    (h : StepText frames lead text x after) : 0 < text.length := by
  have hvalue : ∀ {inner}, ValueText inner text x after → 0 < text.length := by
    intro inner value
    obtain ⟨b, more, rfl, -⟩ := value.starts
    exact Nat.succ_pos _
  cases h with
  | top _ value => exact hvalue value
  | firstItem _ value => exact hvalue value
  | nextItem _ _ value => exact hvalue value
  | fieldValue _ value => exact hvalue value
  | _ => simp [literal]

/-- **Of the text of a token a step makes that token**, whatever comes after it. -/
theorem StepText.emits {frames after : List Frame} {lead text : List UInt8} {x : Lexeme}
    (h : StepText frames lead text x after) {tail : List UInt8} (hends : Ends x tail) :
    Emits frames (lead ++ (text ++ tail)) [x] after tail := by
  cases h with
  | top blank value =>
    exact (awaits_top value.starts blank tail).emits (value.takes blank_nil hends)
  | firstItem blank value =>
    exact (awaits_firstItem value.starts blank).emits (value.takes blank_nil hends)
  | nextItem front blank value =>
    rw [List.append_assoc, List.cons_append]
    exact (awaits_nextItem front).emits (value.takes blank hends)
  | fieldValue blank value =>
    exact (awaits_fieldValue value.starts blank).emits (value.takes blank_nil hends)
  | firstKey blank body between =>
    rw [List.append_assoc, List.append_assoc]
    exact emits_firstKey blank body between _ tail
  | nextKey front blank body between =>
    rw [List.append_assoc, List.append_assoc, List.append_assoc]
    exact emits_nextKey front blank body between _ tail
  | endArray blank array => exact emits_endArray blank array
  | endObject blank object => exact emits_endObject blank object

/-! ### All tokens -/

section Tokens

variable {rounds : Nat} {frames : List Frame} {c : Cursor} {t : Token}

/-- Among the tokens from a place on there is a first one, and those from the place after it on. -/
theorem mem_tokensFrom (h : .ok t ∈ tokensFrom rounds frames c) :
    ∃ s, step frames c = some (.ok s) ∧ ∃ k, rounds = k + 1 ∧
      (t = s.token ∨ .ok t ∈ tokensFrom k s.frames s.cursor) := by
  cases rounds with
  | zero => simp [tokensFrom] at h
  | succ rounds =>
    rw [tokensFrom] at h
    split at h
    · simp at h
    · simp at h
    · next s hs =>
      refine ⟨s, hs, rounds, rfl, ?_⟩
      rcases List.mem_cons.1 h with h | h
      · exact .inl (Except.ok.inj h)
      · exact .inr h

/-- **Every token of a text stands where its text is**, and a number goes as far as it can. -/
theorem source_of_mem (h : .ok t ∈ tokensFrom rounds frames c) :
    ∃ front text tail, c.rest = front ++ (text ++ tail) ∧ t.offset = c.offset + front.length ∧
      (∃ inner lead after, StepText inner lead text t.lexeme after) ∧ Ends t.lexeme tail := by
  induction rounds generalizing frames c with
  | zero => simp [tokensFrom] at h
  | succ rounds ih =>
    obtain ⟨s, hs, k, hk, hmem⟩ := mem_tokensFrom h
    obtain rfl := Nat.succ.inj hk
    obtain ⟨lead, text, hat, hplace, hstep, hends⟩ := step_text hs
    rcases hmem with rfl | hmem
    · exact ⟨lead, text, s.cursor.rest, by rw [hat.here, List.append_assoc], hplace, ⟨_, _, _, hstep⟩, hends⟩
    · obtain ⟨front, text', tail, hrest, hoffset, hstep', hends'⟩ := ih hmem
      refine ⟨lead ++ text ++ front, text', tail, ?_, ?_, hstep', hends'⟩
      · rw [hat.here, hrest, List.append_assoc, List.append_assoc, List.append_assoc]
      · simp only [hoffset, hat.place, List.length_append, Nat.add_assoc]

end Tokens

/-- **Every token of a text stands where its text is.** -/
theorem source_of_tokenize {bytes : List UInt8} {t : Token} (h : .ok t ∈ tokenize bytes) :
    ∃ text tail, bytes.drop t.offset = text ++ tail ∧
      (∃ inner lead after, StepText inner lead text t.lexeme after) ∧ Ends t.lexeme tail := by
  obtain ⟨front, text, tail, hrest, hoffset, hstep, hends⟩ := source_of_mem h
  obtain rfl : bytes = front ++ (text ++ tail) := hrest
  exact ⟨text, tail, by rw [hoffset, Nat.zero_add, List.drop_left], hstep, hends⟩

end WireShapes.Json
