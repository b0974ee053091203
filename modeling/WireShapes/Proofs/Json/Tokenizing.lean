import WireShapes.Proofs.Json.Grammar
import WireShapes.Proofs.Results

/-!
Every text of a value has the tokens of that value.

* `Emits frames bytes xs frames' bytes'`: from one place to another the tokens say `xs`
* `Takes`: a token of a value, or of the start of one; one lemma for each kind of value
* `Awaits`: a value is what comes next
* `Spells.emits`: a text of a value emits the lexemes of the value, wherever one is awaited and deep as
  its containers may nest
* `tokenize_of_piece`, `tokenize_of_spells`: the tokens of a text of a value, with blanks around it and
  without
-/

namespace WireShapes.Json

/-- From one place to another the tokens say `xs`. -/
def Emits (frames : List Frame) (bytes : List UInt8) (xs : List Lexeme) (frames' : List Frame)
    (bytes' : List UInt8) : Prop :=
  ∀ offset, ∃ (toks : List Token) (offset' : Nat), toks.map Token.lexeme = xs ∧ ∀ rounds,
    tokensFrom (toks.length + rounds) frames ⟨offset, bytes⟩ =
      toks.map .ok ++ tokensFrom rounds frames' ⟨offset', bytes'⟩

theorem Emits.of_step {frames frames' : List Frame} {bytes bytes' : List UInt8} {x : Lexeme}
    (h : ∀ offset, ∃ place offset', step frames ⟨offset, bytes⟩ =
      some (.ok ⟨⟨place, x⟩, frames', ⟨offset', bytes'⟩⟩)) :
    Emits frames bytes [x] frames' bytes' := by
  intro offset
  obtain ⟨place, offset', hstep⟩ := h offset
  refine ⟨[⟨place, x⟩], offset', rfl, fun rounds => ?_⟩
  rw [List.length_singleton, Nat.add_comm, tokensFrom, hstep]
  rfl

theorem Emits.trans {f₁ f₂ f₃ : List Frame} {b₁ b₂ b₃ : List UInt8} {xs ys : List Lexeme}
    (h : Emits f₁ b₁ xs f₂ b₂) (h' : Emits f₂ b₂ ys f₃ b₃) : Emits f₁ b₁ (xs ++ ys) f₃ b₃ := by
  intro offset
  obtain ⟨toks, o, hxs, hrun⟩ := h offset
  obtain ⟨toks', o', hys, hrun'⟩ := h' o
  refine ⟨toks ++ toks', o', by rw [List.map_append, hxs, hys], fun rounds => ?_⟩
  rw [List.length_append, Nat.add_assoc, hrun, hrun', List.map_append, List.append_assoc]

/-! ### Blanks -/

theorem skipBlanks_blank {w : List UInt8} {b : UInt8} (hw : Blank w) (hb : Cursor.isBlank b = false)
    (offset : Nat) (more : List UInt8) :
    ∃ offset', Cursor.skipBlanks ⟨offset, w ++ b :: more⟩ = ⟨offset', b :: more⟩ := by
  unfold Cursor.skipBlanks Cursor.moveTo
  rw [List.dropWhile_append_of_pos hw, List.dropWhile_cons_of_neg (by simp [hb])]
  exact ⟨_, rfl⟩

/-! ### One token of a value -/

/-- A value, or the start of one, is what the bytes say inside the given containers. -/
def Takes (frames : List Frame) (bytes : List UInt8) (x : Lexeme) (frames' : List Frame)
    (bytes' : List UInt8) : Prop :=
  ∀ offset, ∃ place offset', readValue frames ⟨offset, bytes⟩ =
    .ok ⟨⟨place, x⟩, frames', ⟨offset', bytes'⟩⟩

section Takes

variable {frames : List Frame} {w rest : List UInt8}

theorem skipBlanks_text {text more : List UInt8} {b : UInt8} (htext : text = b :: more)
    (hb : Cursor.isBlank b = false) (hw : Blank w) (offset : Nat) (rest : List UInt8) :
    ∃ offset', Cursor.skipBlanks ⟨offset, w ++ (text ++ rest)⟩ = ⟨offset', b :: (more ++ rest)⟩ := by
  rw [htext, List.cons_append]
  exact skipBlanks_blank hw hb offset _

theorem takes_string (hw : Blank w) {raw : String} (h : Body raw.toList) :
    Takes frames (w ++ (literal raw ++ rest)) (.string raw) frames rest := by
  intro offset
  obtain ⟨o, ho⟩ := skipBlanks_text (literal_eq raw) (by decide) hw offset rest
  obtain ⟨o', hread⟩ := readString_literal h o rest
  refine ⟨o, o', ?_⟩
  simp only [literal, List.cons_append, List.append_assoc, List.nil_append] at hread
  rw [readValue, ho]
  simp [hread]

/-- Nothing that would go on with a number stands here. -/
def Stops (rest : List UInt8) : Prop := ∀ b more, rest = b :: more → isNumberByte b = false

theorem takeWhile_stops {run : List UInt8} (hrun : ∀ x ∈ run, isNumberByte x = true)
    (hrest : Stops rest) :
    (run ++ rest).takeWhile isNumberByte = run ∧ (run ++ rest).dropWhile isNumberByte = rest := by
  rw [List.takeWhile_append_of_pos hrun, List.dropWhile_append_of_pos hrun]
  cases rest with
  | nil => simp
  | cons b more => simp [hrest b more rfl]

theorem takes_number (hw : Blank w) {b : UInt8} {run : List UInt8} {value : Number}
    (start : b = 0x2D ∨ 0x30 ≤ b ∧ b ≤ 0x39) (hrun : ∀ x ∈ b :: run, isNumberByte x = true)
    (reads : number? ((b :: run).map fun x => Char.ofNat x.toNat) = some value) (hrest : Stops rest) :
    Takes frames (w ++ (b :: run ++ rest)) (.number value) frames rest := by
  intro offset
  obtain ⟨b', more, hcons, hb, -⟩ := starts_number start run
  obtain ⟨rfl, rfl⟩ := List.cons.inj hcons
  obtain ⟨o, ho⟩ := skipBlanks_text hcons hb hw offset rest
  obtain ⟨htake, hdrop⟩ := takeWhile_stops hrun hrest
  rw [List.cons_append] at htake hdrop
  have hread : readNumber ⟨o, b :: (run ++ rest)⟩ =
      .ok (value, Cursor.moveTo ⟨o, b :: (run ++ rest)⟩ rest) := by
    unfold readNumber
    simp only [htake, hdrop, reads]
  have hne : ∀ x : UInt8, ¬(x = 0x2D ∨ 0x30 ≤ x ∧ x ≤ 0x39) → b ≠ x := fun x hx hbx => hx (hbx ▸ start)
  refine ⟨o, (Cursor.moveTo ⟨o, b :: (run ++ rest)⟩ rest).offset, ?_⟩
  rw [readValue, ho]
  simp only [hne 0x7B (by decide), hne 0x5B (by decide), hne 0x22 (by decide), hne 0x74 (by decide),
    hne 0x66 (by decide), hne 0x6E (by decide), start, hread, if_false, if_true, Results.map_ok]
  rfl

theorem readWord_append (word : String) (offset : Nat) (rest : List UInt8) :
    readWord ⟨offset, wordBytes word ++ rest⟩ word =
      .ok ⟨offset + (wordBytes word).length, rest⟩ := by
  unfold readWord Cursor.advance
  have hword : (wordBytes word).isPrefixOf (wordBytes word ++ rest) = true :=
    List.isPrefixOf_iff_prefix.2 (List.prefix_append ..)
  simp [hword]

theorem takes_true (hw : Blank w) :
    Takes frames (w ++ (wordBytes "true" ++ rest)) (.bool true) frames rest := by
  intro offset
  have hword : wordBytes "true" = [0x74, 0x72, 0x75, 0x65] := by decide
  obtain ⟨o, ho⟩ := skipBlanks_text hword (by decide) hw offset rest
  have hread := readWord_append "true" o rest
  refine ⟨o, o + (wordBytes "true").length, ?_⟩
  rw [readValue, ho]
  simp only [hword, List.cons_append, List.nil_append] at hread
  simp [hread, hword]

theorem takes_false (hw : Blank w) :
    Takes frames (w ++ (wordBytes "false" ++ rest)) (.bool false) frames rest := by
  intro offset
  have hword : wordBytes "false" = [0x66, 0x61, 0x6C, 0x73, 0x65] := by decide
  obtain ⟨o, ho⟩ := skipBlanks_text hword (by decide) hw offset rest
  have hread := readWord_append "false" o rest
  refine ⟨o, o + (wordBytes "false").length, ?_⟩
  rw [readValue, ho]
  simp only [hword, List.cons_append, List.nil_append] at hread
  simp [hread, hword]

theorem takes_null (hw : Blank w) : Takes frames (w ++ (wordBytes "null" ++ rest)) .null frames rest := by
  intro offset
  have hword : wordBytes "null" = [0x6E, 0x75, 0x6C, 0x6C] := by decide
  obtain ⟨o, ho⟩ := skipBlanks_text hword (by decide) hw offset rest
  have hread := readWord_append "null" o rest
  refine ⟨o, o + (wordBytes "null").length, ?_⟩
  rw [readValue, ho]
  simp only [hword, List.cons_append, List.nil_append] at hread
  simp [hread, hword]

theorem takes_startArray (hw : Blank w) (hdepth : frames.length < maxDepth) (rest : List UInt8) :
    Takes frames (w ++ 0x5B :: rest) .startArray (.arrayStart :: frames) rest := by
  intro offset
  obtain ⟨o, ho⟩ := skipBlanks_blank (b := 0x5B) hw (by decide) offset rest
  refine ⟨o, o + 1, ?_⟩
  rw [readValue, ho]
  simp [Nat.not_le.2 hdepth, Cursor.advance]

theorem takes_startObject (hw : Blank w) (hdepth : frames.length < maxDepth) (rest : List UInt8) :
    Takes frames (w ++ 0x7B :: rest) .startObject (.objectStart :: frames) rest := by
  intro offset
  obtain ⟨o, ho⟩ := skipBlanks_blank (b := 0x7B) hw (by decide) offset rest
  refine ⟨o, o + 1, ?_⟩
  rw [readValue, ho]
  simp [Nat.not_le.2 hdepth, Cursor.advance]

end Takes

/-! ### Values where they are awaited -/

/-- A value is what comes next: the step reads one, inside the containers `inner`, from `bytes'` on. -/
def Awaits (frames : List Frame) (bytes : List UInt8) (inner : List Frame) (bytes' : List UInt8) : Prop :=
  ∀ offset, ∃ offset', step frames ⟨offset, bytes⟩ = some (readValue inner ⟨offset', bytes'⟩)

theorem Awaits.emits {frames inner frames' : List Frame} {bytes bytes' rest : List UInt8} {x : Lexeme}
    (h : Awaits frames bytes inner bytes') (ht : Takes inner bytes' x frames' rest) :
    Emits frames bytes [x] frames' rest := by
  refine Emits.of_step fun offset => ?_
  obtain ⟨o, ho⟩ := h offset
  obtain ⟨place, o', hread⟩ := ht o
  exact ⟨place, o', by rw [ho, hread]⟩

section Awaits

variable {outer : List Frame} {w more text rest : List UInt8}

theorem awaits_top (h : Starts text) (hw : Blank w) (rest : List UInt8) :
    Awaits [] (w ++ (text ++ rest)) [] (text ++ rest) := by
  intro offset
  obtain ⟨b, more, rfl, hb, -⟩ := h
  obtain ⟨o, ho⟩ := skipBlanks_blank hw hb offset (more ++ rest)
  exact ⟨o, by simp [step, ho]⟩

theorem awaits_firstItem (h : Starts text) (hw : Blank w) :
    Awaits (.arrayStart :: outer) (w ++ (text ++ rest)) (.arrayRest :: outer) (text ++ rest) := by
  intro offset
  obtain ⟨b, more, rfl, hb, hend⟩ := h
  obtain ⟨o, ho⟩ := skipBlanks_blank hw hb offset (more ++ rest)
  refine ⟨o, ?_⟩
  simp only [step, List.cons_append, ho]
  split
  · next heq => exact absurd (List.cons.inj heq).1 hend
  · rfl

theorem awaits_nextItem (hw : Blank w) :
    Awaits (.arrayRest :: outer) (w ++ 0x2C :: more) (.arrayRest :: outer) more := by
  intro offset
  obtain ⟨o, ho⟩ := skipBlanks_blank (b := 0x2C) hw (by decide) offset more
  exact ⟨o + 1, by simp [step, ho, Cursor.advance]⟩

theorem awaits_fieldValue (h : Starts text) (hw : Blank w) :
    Awaits (.fieldValue :: outer) (w ++ (text ++ rest)) (.objectRest :: outer) (text ++ rest) := by
  intro offset
  obtain ⟨b, more, rfl, hb, -⟩ := h
  obtain ⟨o, ho⟩ := skipBlanks_blank hw hb offset (more ++ rest)
  exact ⟨o, by simp [step, ho]⟩

end Awaits

/-! ### Ends and keys -/

section Keys

variable {outer : List Frame} {w gap more rest : List UInt8} {key : String}

theorem emits_endArray (hw : Blank w) {frame : Frame}
    (hframe : frame = .arrayStart ∨ frame = .arrayRest) :
    Emits (frame :: outer) (w ++ 0x5D :: rest) [.endArray] outer rest := by
  refine Emits.of_step fun offset => ?_
  obtain ⟨o, ho⟩ := skipBlanks_blank (b := 0x5D) hw (by decide) offset rest
  refine ⟨o, o + 1, ?_⟩
  rcases hframe with rfl | rfl <;> simp [step, ho, Cursor.advance]

theorem emits_endObject (hw : Blank w) {frame : Frame}
    (hframe : frame = .objectStart ∨ frame = .objectRest) :
    Emits (frame :: outer) (w ++ 0x7D :: rest) [.endObject] outer rest := by
  refine Emits.of_step fun offset => ?_
  obtain ⟨o, ho⟩ := skipBlanks_blank (b := 0x7D) hw (by decide) offset rest
  refine ⟨o, o + 1, ?_⟩
  rcases hframe with rfl | rfl <;> simp [step, ho, Cursor.advance]

theorem readKey_literal (hkey : Body key.toList) (hgap : Blank gap) (outer : List Frame) (offset : Nat)
    (more : List UInt8) :
    ∃ offset', readKey outer ⟨offset, literal key ++ (gap ++ 0x3A :: more)⟩ =
      .ok ⟨⟨offset, .key key⟩, .fieldValue :: outer, ⟨offset', more⟩⟩ := by
  obtain ⟨o, hread⟩ := readString_literal hkey offset (gap ++ 0x3A :: more)
  obtain ⟨o', ho'⟩ := skipBlanks_blank (b := 0x3A) hgap (by decide) o more
  refine ⟨o' + 1, ?_⟩
  rw [literal, List.cons_append] at hread ⊢
  simp only [readKey, hread, Results.ok_bind, ho', Cursor.advance]
  rfl

theorem emits_firstKey (hw : Blank w) (hkey : Body key.toList) (hgap : Blank gap) (outer : List Frame)
    (more : List UInt8) :
    Emits (.objectStart :: outer) (w ++ (literal key ++ (gap ++ 0x3A :: more))) [.key key]
      (.fieldValue :: outer) more := by
  refine Emits.of_step fun offset => ?_
  obtain ⟨o, ho⟩ := skipBlanks_text (literal_eq key) (by decide) hw offset (gap ++ 0x3A :: more)
  obtain ⟨o', hread⟩ := readKey_literal hkey hgap outer o more
  rw [literal, List.cons_append] at hread
  refine ⟨o, o', ?_⟩
  simp only [step, ho, hread]
  rfl

theorem emits_nextKey (hw : Blank w) {lead : List UInt8} (hlead : Blank lead) (hkey : Body key.toList)
    (hgap : Blank gap) (outer : List Frame) (more : List UInt8) :
    Emits (.objectRest :: outer) (w ++ 0x2C :: (lead ++ (literal key ++ (gap ++ 0x3A :: more))))
      [.key key] (.fieldValue :: outer) more := by
  refine Emits.of_step fun offset => ?_
  obtain ⟨o, ho⟩ := skipBlanks_blank (b := 0x2C) hw (by decide) offset
    (lead ++ (literal key ++ (gap ++ 0x3A :: more)))
  obtain ⟨o₁, ho₁⟩ := skipBlanks_text (literal_eq key) (by decide) hlead (o + 1)
    (gap ++ 0x3A :: more)
  obtain ⟨o', hread⟩ := readKey_literal hkey hgap outer o₁ more
  rw [literal, List.cons_append] at hread
  refine ⟨o₁, o', ?_⟩
  simp only [step, ho, Cursor.advance, List.drop_one, List.tail_cons, ho₁, hread]

end Keys

/-! ### Whole values -/

theorem stops_cons {b : UInt8} (hb : isNumberByte b = false) (more : List UInt8) :
    Stops (b :: more) := by
  intro x xs h
  exact (List.cons.inj h).1 ▸ hb

/-- Blanks, commas and brackets end a number. -/
theorem stops_blank {w more : List UInt8} {b : UInt8} (hw : Blank w) (hb : isNumberByte b = false) :
    Stops (w ++ b :: more) := by
  cases w with
  | nil => exact stops_cons hb more
  | cons x w =>
    refine stops_cons ?_ _
    have hx := hw x (by simp)
    simp only [Cursor.isBlank, Bool.or_eq_true, beq_iff_eq] at hx
    rcases hx with ((rfl | rfl) | rfl) | rfl <;> decide

theorem commaed_cons (text : List UInt8) (rest : List (List UInt8)) :
    commaed (text :: rest) = text ++ rest.flatMap (0x2C :: ·) := by
  induction rest generalizing text with
  | nil => simp [commaed]
  | cons next rest ih => rw [commaed_cons_cons, ih next, List.flatMap_cons, List.cons_append]

/-- The lexemes of `t` are emitted wherever a value is awaited and the text of `t` stands there. -/
def EmitsValue (t : Tree) (text : List UInt8) : Prop :=
  ∀ {frames inner : List Frame} {bytes w rest : List UInt8},
    Awaits frames bytes inner (w ++ (text ++ rest)) → Blank w → inner.length + t.depth ≤ maxDepth →
    Stops rest → Emits frames bytes t.lexemes inner rest

theorem emits_moreItems {outer : List Frame} (pieces : List Piece) {trail : List UInt8}
    (htrail : Blank trail) (spaced : ∀ p ∈ pieces, p.Spaced)
    (each : ∀ p ∈ pieces, EmitsValue p.tree p.text)
    (hdepth : ∀ p ∈ pieces, outer.length + 1 + p.tree.depth ≤ maxDepth) (rest : List UInt8) :
    Emits (.arrayRest :: outer) (trail ++ ((pieces.map Piece.bytes).flatMap (0x2C :: ·) ++ 0x5D :: rest))
      (itemLexemes (pieces.map Piece.tree) ++ [.endArray]) outer rest := by
  induction pieces generalizing trail with
  | nil => exact emits_endArray htrail (.inr rfl)
  | cons p pieces ih =>
    obtain ⟨hlead, hp⟩ := spaced p (by simp)
    have hrest := ih hp (fun q hq => spaced q (by simp [hq])) (fun q hq => each q (by simp [hq]))
      fun q hq => hdepth q (by simp [hq])
    have hstops : Stops (p.trail ++ ((pieces.map Piece.bytes).flatMap (0x2C :: ·) ++ 0x5D :: rest)) := by
      cases pieces with
      | nil => exact stops_blank hp (by decide)
      | cons q pieces => exact stops_blank hp (by decide)
    have hfirst := each p (by simp) (awaits_nextItem htrail) hlead (hdepth p (by simp)) hstops
    simpa [itemLexemes, Piece.bytes] using hfirst.trans hrest

theorem emits_fieldValue {outer : List Frame} {f : Field} (spaced : f.Spaced)
    (spells : Spells f.value.tree f.value.text) (value : EmitsValue f.value.tree f.value.text)
    (hdepth : outer.length + 1 + f.value.tree.depth ≤ maxDepth) {b : UInt8}
    (hb : isNumberByte b = false) (rest : List UInt8) :
    Emits (.fieldValue :: outer) (f.value.bytes ++ b :: rest) f.value.tree.lexemes (.objectRest :: outer)
      (f.value.trail ++ b :: rest) := by
  obtain ⟨-, -, -, hlead, htrail⟩ := spaced
  have hbytes : f.value.bytes ++ b :: rest =
      f.value.lead ++ (f.value.text ++ (f.value.trail ++ b :: rest)) := by
    simp [Piece.bytes]
  rw [hbytes]
  exact value (w := []) (awaits_fieldValue spells.start hlead) (fun _ h => by simp at h) hdepth
    (stops_blank htrail hb)

theorem emits_moreFields {outer : List Frame} (fields : List Field) {trail : List UInt8}
    (htrail : Blank trail) (spaced : ∀ f ∈ fields, f.Spaced)
    (spells : ∀ f ∈ fields, Spells f.value.tree f.value.text)
    (each : ∀ f ∈ fields, EmitsValue f.value.tree f.value.text)
    (hdepth : ∀ f ∈ fields, outer.length + 1 + f.value.tree.depth ≤ maxDepth) (rest : List UInt8) :
    Emits (.objectRest :: outer)
      (trail ++ ((fields.map Field.bytes).flatMap (0x2C :: ·) ++ 0x7D :: rest))
      (entryLexemes (fields.map Field.entry) ++ [.endObject]) outer rest := by
  induction fields generalizing trail with
  | nil => exact emits_endObject htrail (.inr rfl)
  | cons f fields ih =>
    obtain ⟨hkey, hlead, hgap, -, htrail'⟩ := spaced f (by simp)
    have hrest := ih htrail' (fun q hq => spaced q (by simp [hq])) (fun q hq => spells q (by simp [hq]))
      (fun q hq => each q (by simp [hq])) fun q hq => hdepth q (by simp [hq])
    have hstart := emits_nextKey htrail hlead hkey hgap outer (f.value.bytes ++
      ((fields.map Field.bytes).flatMap (0x2C :: ·) ++ 0x7D :: rest))
    have hvalue : Emits (.fieldValue :: outer)
        (f.value.bytes ++ ((fields.map Field.bytes).flatMap (0x2C :: ·) ++ 0x7D :: rest))
        f.value.tree.lexemes (.objectRest :: outer)
        (f.value.trail ++ ((fields.map Field.bytes).flatMap (0x2C :: ·) ++ 0x7D :: rest)) := by
      have go := @emits_fieldValue outer f (spaced f (by simp)) (spells f (by simp)) (each f (by simp))
        (hdepth f (by simp))
      cases fields with
      | nil => exact go (by decide) _
      | cons q fields => exact go (by decide) _
    simpa [entryLexemes, Field.entry, Field.bytes] using hstart.trans (hvalue.trans hrest)

theorem emitsValue_emptyArray {v : List UInt8} (blank : Blank v) :
    EmitsValue (.array []) (0x5B :: (v ++ [0x5D])) := by
  intro frames inner bytes w rest ha hw hdepth _
  rw [Tree.depth, itemsDepth] at hdepth
  have hstart : Emits frames bytes [.startArray] (.arrayStart :: inner) (v ++ 0x5D :: rest) := by
    refine ha.emits ?_
    simpa using takes_startArray hw (by omega) (v ++ 0x5D :: rest)
  exact hstart.trans (emits_endArray blank (.inl rfl))

theorem emitsValue_array {first : Piece} {pieces : List Piece}
    (spaced : ∀ p ∈ first :: pieces, p.Spaced) (spells : ∀ p ∈ first :: pieces, Spells p.tree p.text)
    (each : ∀ p ∈ first :: pieces, EmitsValue p.tree p.text) :
    EmitsValue (.array ((first :: pieces).map Piece.tree))
      (0x5B :: (commaed ((first :: pieces).map Piece.bytes) ++ [0x5D])) := by
  intro frames inner bytes w rest ha hw hdepth _
  rw [Tree.depth] at hdepth
  have hdeep : ∀ p ∈ first :: pieces, inner.length + 1 + p.tree.depth ≤ maxDepth := by
    intro p hp
    have := depth_le_itemsDepth (List.mem_map_of_mem (f := Piece.tree) hp)
    omega
  obtain ⟨hlead, htrail⟩ := spaced first (by simp)
  let tail := (pieces.map Piece.bytes).flatMap (0x2C :: ·) ++ 0x5D :: rest
  have hstart : Emits frames bytes [.startArray] (.arrayStart :: inner)
      (first.lead ++ (first.text ++ (first.trail ++ tail))) := by
    refine ha.emits ?_
    have := takes_startArray hw (show inner.length < maxDepth by omega)
      (first.lead ++ (first.text ++ (first.trail ++ tail)))
    simpa [commaed_cons, Piece.bytes, tail] using this
  have hfirst : Emits (.arrayStart :: inner) (first.lead ++ (first.text ++ (first.trail ++ tail)))
      first.tree.lexemes (.arrayRest :: inner) (first.trail ++ tail) := by
    refine each first (by simp) (w := []) (awaits_firstItem (spells first (by simp)).start hlead)
      (fun _ h => by simp at h) (hdeep first (by simp)) ?_
    cases pieces with
    | nil => exact stops_blank htrail (by decide)
    | cons q pieces => exact stops_blank htrail (by decide)
  have hmore := emits_moreItems pieces htrail (fun p hp => spaced p (by simp [hp]))
    (fun p hp => each p (by simp [hp])) (fun p hp => hdeep p (by simp [hp])) rest
  simpa [Tree.lexemes, itemLexemes] using hstart.trans (hfirst.trans hmore)

theorem emitsValue_emptyObject {v : List UInt8} (blank : Blank v) :
    EmitsValue (.object []) (0x7B :: (v ++ [0x7D])) := by
  intro frames inner bytes w rest ha hw hdepth _
  rw [Tree.depth, entriesDepth] at hdepth
  have hstart : Emits frames bytes [.startObject] (.objectStart :: inner) (v ++ 0x7D :: rest) := by
    refine ha.emits ?_
    simpa using takes_startObject hw (by omega) (v ++ 0x7D :: rest)
  exact hstart.trans (emits_endObject blank (.inl rfl))

theorem emitsValue_object {first : Field} {fields : List Field}
    (spaced : ∀ f ∈ first :: fields, f.Spaced)
    (spells : ∀ f ∈ first :: fields, Spells f.value.tree f.value.text)
    (each : ∀ f ∈ first :: fields, EmitsValue f.value.tree f.value.text) :
    EmitsValue (.object ((first :: fields).map Field.entry))
      (0x7B :: (commaed ((first :: fields).map Field.bytes) ++ [0x7D])) := by
  intro frames inner bytes w rest ha hw hdepth _
  rw [Tree.depth] at hdepth
  have hdeep : ∀ f ∈ first :: fields, inner.length + 1 + f.value.tree.depth ≤ maxDepth := by
    intro f hf
    have : f.value.tree.depth ≤ _ := depth_le_entriesDepth (List.mem_map_of_mem (f := Field.entry) hf)
    omega
  obtain ⟨hkey, hlead, hgap, -, htrail⟩ := spaced first (by simp)
  let tail := (fields.map Field.bytes).flatMap (0x2C :: ·) ++ 0x7D :: rest
  have hstart : Emits frames bytes [.startObject] (.objectStart :: inner)
      (first.lead ++ (literal first.key ++ (first.gap ++ 0x3A :: (first.value.bytes ++ tail)))) := by
    refine ha.emits ?_
    have := takes_startObject hw (show inner.length < maxDepth by omega) (first.lead ++
      (literal first.key ++ (first.gap ++ 0x3A :: (first.value.bytes ++ tail))))
    simpa [commaed_cons, Field.bytes, tail] using this
  have hname := emits_firstKey hlead hkey hgap inner (first.value.bytes ++ tail)
  have hvalue : Emits (.fieldValue :: inner) (first.value.bytes ++ tail) first.value.tree.lexemes
      (.objectRest :: inner) (first.value.trail ++ tail) := by
    have go := @emits_fieldValue inner first (spaced first (by simp)) (spells first (by simp))
      (each first (by simp)) (hdeep first (by simp))
    cases fields with
    | nil => exact go (by decide) _
    | cons q fields => exact go (by decide) _
  have hmore := emits_moreFields fields htrail (fun f hf => spaced f (by simp [hf]))
    (fun f hf => spells f (by simp [hf])) (fun f hf => each f (by simp [hf]))
    (fun f hf => hdeep f (by simp [hf])) rest
  simpa [Tree.lexemes, entryLexemes, Field.entry] using
    hstart.trans (hname.trans (hvalue.trans hmore))

/-- **A text of a value emits the lexemes of the value** wherever one is awaited, as long as the
containers around it and in it are not too many. -/
theorem Spells.emits {t : Tree} {text : List UInt8} (h : Spells t text) : EmitsValue t text := by
  induction h with
  | string body => exact fun ha hw _ _ => ha.emits (takes_string hw body)
  | number start each reads =>
    exact fun ha hw _ hrest => ha.emits (takes_number hw start each reads hrest)
  | wordTrue => exact fun ha hw _ _ => ha.emits (takes_true hw)
  | wordFalse => exact fun ha hw _ _ => ha.emits (takes_false hw)
  | wordNull => exact fun ha hw _ _ => ha.emits (takes_null hw)
  | emptyArray blank => exact emitsValue_emptyArray blank
  | array spaced spells each => exact emitsValue_array spaced spells each
  | emptyObject blank => exact emitsValue_emptyObject blank
  | object spaced spells each => exact emitsValue_object spaced spells each

theorem stops_of_blank {w : List UInt8} (hw : Blank w) : Stops w := by
  intro b more hb
  have h : Stops (w ++ [0x2C]) := stops_blank hw (by decide)
  exact h b (more ++ [0x2C]) (by rw [hb, List.cons_append])

theorem tokensFrom_blank {w : List UInt8} (hw : Blank w) (rounds offset : Nat) :
    tokensFrom rounds [] ⟨offset, w⟩ = [] := by
  cases rounds with
  | zero => rfl
  | succ rounds =>
    have hend : (w ++ []).dropWhile Cursor.isBlank = [] := List.dropWhile_append_of_pos hw
    rw [List.append_nil] at hend
    simp [tokensFrom, step, Cursor.skipBlanks, Cursor.moveTo, hend]

/-- **The tokens of a text of a value say the lexemes of the value, and there are no others**, whatever
blanks stand around the text. -/
theorem tokenize_of_piece {p : Piece} (spaced : p.Spaced) (h : Spells p.tree p.text)
    (hdepth : p.tree.depth ≤ maxDepth) :
    ∃ toks : List Token, toks.map Token.lexeme = p.tree.lexemes ∧ tokenize p.bytes = toks.map .ok := by
  have hemits : Emits [] p.bytes p.tree.lexemes [] p.trail :=
    h.emits (w := []) (awaits_top h.start spaced.1 p.trail) blank_nil (by simpa using hdepth)
      (stops_of_blank spaced.2)
  obtain ⟨toks, offset, hlex, hrun⟩ := hemits 0
  refine ⟨toks, hlex, ?_⟩
  have hlen : toks.length ≤ p.bytes.length := by
    have htext := h.lexemes_length_le
    rw [← hlex, List.length_map] at htext
    simp only [Piece.bytes, List.length_append]
    omega
  obtain ⟨more, hmore⟩ := Nat.exists_eq_add_of_le hlen
  rw [tokenize, hmore, Nat.add_assoc, hrun, tokensFrom_blank spaced.2, List.append_nil]

theorem tokenize_of_spells {t : Tree} {text : List UInt8} (h : Spells t text)
    (hdepth : t.depth ≤ maxDepth) :
    ∃ toks : List Token, toks.map Token.lexeme = t.lexemes ∧ tokenize text = toks.map .ok := by
  have hpiece := tokenize_of_piece (p := ⟨[], t, text, []⟩) ⟨blank_nil, blank_nil⟩ h hdepth
  simpa [Piece.bytes] using hpiece

end WireShapes.Json
