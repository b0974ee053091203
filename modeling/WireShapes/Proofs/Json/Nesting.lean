import WireShapes.Proofs.Json.Grammar
import WireShapes.Proofs.Json.Steps

/-!
The tokens of any text are those of values in a row, as far as they go.

* `Begins`, `Transition`: what a token says about the containers that are open before and after it
* `Completes frames xs`: `xs` closes the open containers and goes on with whole values
* `Transition.completes`: a token and what completes the containers after it complete those before it
* `openCount`: how many containers are open after some lexemes
* `Nested`, `tokensFrom_nested`: the tokens from a place on, up to the end or the first failure
* `tokenize_values`: the tokens of a text
-/

namespace WireShapes.Json

/-! ### Tokens and open containers -/

/-- The token of a value, or of the start of one, where `inner` is open once the value is complete. -/
inductive Begins (inner : List Frame) : Lexeme → List Frame → Prop
  | string (raw : String) : Begins inner (.string raw) inner
  | number (value : Number) : Begins inner (.number value) inner
  | bool (value : Bool) : Begins inner (.bool value) inner
  | null : Begins inner .null inner
  | array (room : inner.length < maxDepth) : Begins inner .startArray (.arrayStart :: inner)
  | object (room : inner.length < maxDepth) : Begins inner .startObject (.objectStart :: inner)

/-- A token and the containers that are open before and after it. -/
inductive Transition : List Frame → Lexeme → List Frame → Prop
  | top {x : Lexeme} {after : List Frame} (value : Begins [] x after) : Transition [] x after
  | item {frame : Frame} {outer after : List Frame} {x : Lexeme}
      (array : frame = .arrayStart ∨ frame = .arrayRest) (value : Begins (.arrayRest :: outer) x after) :
      Transition (frame :: outer) x after
  | fieldValue {outer after : List Frame} {x : Lexeme} (value : Begins (.objectRest :: outer) x after) :
      Transition (.fieldValue :: outer) x after
  | key {frame : Frame} {outer : List Frame} {raw : String}
      (object : frame = .objectStart ∨ frame = .objectRest) :
      Transition (frame :: outer) (.key raw) (.fieldValue :: outer)
  | endArray {frame : Frame} {outer : List Frame} (array : frame = .arrayStart ∨ frame = .arrayRest) :
      Transition (frame :: outer) .endArray outer
  | endObject {frame : Frame} {outer : List Frame} (object : frame = .objectStart ∨ frame = .objectRest) :
      Transition (frame :: outer) .endObject outer

theorem begins_of_readValue {inner : List Frame} {c : Cursor} {s : Step}
    (h : readValue inner c = .ok s) : Begins inner s.token.lexeme s.frames := by
  cases readValue_eq_ok h with
  | object _ room => exact .object room
  | array _ room => exact .array room
  | string => exact .string _
  | word named =>
    simp only [List.mem_cons, Prod.mk.injEq, List.not_mem_nil, or_false] at named
    rcases named with ⟨-, rfl⟩ | ⟨-, rfl⟩ | ⟨-, rfl⟩
    · exact .bool true
    · exact .bool false
    · exact .null
  | number => exact .number _

theorem step_transition {frames : List Frame} {c : Cursor} {s : Step} (h : step frames c = some (.ok s)) :
    Transition frames s.token.lexeme s.frames := by
  cases step_eq_ok h with
  | top value => exact .top (begins_of_readValue value)
  | firstItem value => exact .item (.inl rfl) (begins_of_readValue value)
  | nextItem _ value => exact .item (.inr rfl) (begins_of_readValue value)
  | firstKey key =>
    obtain ⟨_, _, _, _, -, -, -, rfl⟩ := readKey_eq_ok key
    exact .key (.inl rfl)
  | nextKey _ key =>
    obtain ⟨_, _, _, _, -, -, -, rfl⟩ := readKey_eq_ok key
    exact .key (.inr rfl)
  | fieldValue value => exact .fieldValue (begins_of_readValue value)
  | endArray array => exact .endArray array
  | endObject object => exact .endObject object

/-! ### What may still follow -/

/-- The lexemes close the open containers one after the other, each after whole items or entries, and
go on with whole values. -/
inductive Completes : List Frame → List Lexeme → Prop
  | top (trees : List Tree) : Completes [] (itemLexemes trees)
  | array {frame : Frame} {outer : List Frame} {more : List Lexeme}
      (array : frame = .arrayStart ∨ frame = .arrayRest) (items : List Tree)
      (rest : Completes outer more) : Completes (frame :: outer) (itemLexemes items ++ .endArray :: more)
  | object {frame : Frame} {outer : List Frame} {more : List Lexeme}
      (object : frame = .objectStart ∨ frame = .objectRest) (entries : List (String × Tree))
      (rest : Completes outer more) :
      Completes (frame :: outer) (entryLexemes entries ++ .endObject :: more)
  | fieldValue {outer : List Frame} {more : List Lexeme} (value : Tree)
      (rest : Completes (.objectRest :: outer) more) :
      Completes (.fieldValue :: outer) (value.lexemes ++ more)

theorem completes_nil_iff {xs : List Lexeme} : Completes [] xs ↔ ∃ trees, xs = itemLexemes trees := by
  constructor
  · rintro ⟨trees⟩
    exact ⟨trees, rfl⟩
  · rintro ⟨trees, rfl⟩
    exact .top trees

/-- Whatever is open can be closed. -/
theorem exists_completes (frames : List Frame) : ∃ xs, Completes frames xs := by
  induction frames with
  | nil => exact ⟨_, .top []⟩
  | cons frame outer ih =>
    obtain ⟨more, hmore⟩ := ih
    cases frame with
    | arrayStart => exact ⟨_, .array (.inl rfl) [] hmore⟩
    | arrayRest => exact ⟨_, .array (.inr rfl) [] hmore⟩
    | objectStart => exact ⟨_, .object (.inl rfl) [] hmore⟩
    | objectRest => exact ⟨_, .object (.inr rfl) [] hmore⟩
    | fieldValue => exact ⟨_, .fieldValue .null (.object (.inr rfl) [] hmore)⟩

theorem Completes.array_inv {frame : Frame} {outer : List Frame} {xs : List Lexeme}
    (h : Completes (frame :: outer) xs) (array : frame = .arrayStart ∨ frame = .arrayRest) :
    ∃ items more, xs = itemLexemes items ++ .endArray :: more ∧ Completes outer more := by
  cases h with
  | array _ items rest => exact ⟨items, _, rfl, rest⟩
  | object object => rcases array with rfl | rfl <;> rcases object with h | h <;> cases h
  | fieldValue => rcases array with h | h <;> cases h

theorem Completes.object_inv {frame : Frame} {outer : List Frame} {xs : List Lexeme}
    (h : Completes (frame :: outer) xs) (object : frame = .objectStart ∨ frame = .objectRest) :
    ∃ entries more, xs = entryLexemes entries ++ .endObject :: more ∧ Completes outer more := by
  cases h with
  | array array => rcases object with rfl | rfl <;> rcases array with h | h <;> cases h
  | object _ entries rest => exact ⟨entries, _, rfl, rest⟩
  | fieldValue => rcases object with h | h <;> cases h

theorem Completes.fieldValue_inv {outer : List Frame} {xs : List Lexeme}
    (h : Completes (.fieldValue :: outer) xs) :
    ∃ (value : Tree) (more : List Lexeme), xs = value.lexemes ++ more ∧
      Completes (.objectRest :: outer) more := by
  cases h with
  | array array => rcases array with h | h <;> cases h
  | object object => rcases object with h | h <;> cases h
  | fieldValue value rest => exact ⟨value, _, rfl, rest⟩

/-- The token of a value and what completes the containers after it are a whole value and what
completes the containers around it. -/
theorem Begins.completes {inner after : List Frame} {x : Lexeme} {xs : List Lexeme}
    (h : Begins inner x after) (hxs : Completes after xs) :
    ∃ (value : Tree) (more : List Lexeme), x :: xs = value.lexemes ++ more ∧ Completes inner more := by
  cases h with
  | string raw => exact ⟨.string raw, xs, by rw [Tree.lexemes]; rfl, hxs⟩
  | number value => exact ⟨.number value, xs, by rw [Tree.lexemes]; rfl, hxs⟩
  | bool value => exact ⟨.bool value, xs, by rw [Tree.lexemes]; rfl, hxs⟩
  | null => exact ⟨.null, xs, by rw [Tree.lexemes]; rfl, hxs⟩
  | array =>
    obtain ⟨items, more, rfl, hmore⟩ := hxs.array_inv (.inl rfl)
    exact ⟨.array items, more, by simp [Tree.lexemes], hmore⟩
  | object =>
    obtain ⟨entries, more, rfl, hmore⟩ := hxs.object_inv (.inl rfl)
    exact ⟨.object entries, more, by simp [Tree.lexemes], hmore⟩

/-- **A token and what completes the containers after it complete the containers before it.** -/
theorem Transition.completes {frames after : List Frame} {x : Lexeme} {xs : List Lexeme}
    (h : Transition frames x after) (hxs : Completes after xs) : Completes frames (x :: xs) := by
  cases h with
  | top value =>
    obtain ⟨t, more, heq, hmore⟩ := value.completes hxs
    obtain ⟨trees, rfl⟩ := completes_nil_iff.1 hmore
    rw [heq]
    exact .top (t :: trees)
  | item array value =>
    obtain ⟨t, more, heq, hmore⟩ := value.completes hxs
    obtain ⟨items, rest, rfl, hrest⟩ := hmore.array_inv (.inr rfl)
    rw [heq, ← List.append_assoc]
    exact .array array (t :: items) hrest
  | fieldValue value =>
    obtain ⟨t, more, heq, hmore⟩ := value.completes hxs
    rw [heq]
    exact .fieldValue t hmore
  | @key _ _ raw object =>
    obtain ⟨t, more, rfl, hmore⟩ := hxs.fieldValue_inv
    obtain ⟨entries, rest, rfl, hrest⟩ := hmore.object_inv (.inr rfl)
    have hentry : Lexeme.key raw :: (t.lexemes ++ (entryLexemes entries ++ .endObject :: rest)) =
        entryLexemes ((raw, t) :: entries) ++ .endObject :: rest := by simp [entryLexemes]
    rw [hentry]
    exact .object object _ hrest
  | endArray array => exact .array array [] hxs
  | endObject object => exact .object object [] hxs

/-! ### How many containers are open -/

/-- What a lexeme does to the number of open containers. -/
def Lexeme.delta : Lexeme → Int
  | .startArray => 1
  | .startObject => 1
  | .endArray => -1
  | .endObject => -1
  | _ => 0

/-- How many more containers are open after the lexemes than before. -/
def openCount : List Lexeme → Int
  | [] => 0
  | x :: xs => x.delta + openCount xs

theorem Begins.length {inner after : List Frame} {x : Lexeme} (h : Begins inner x after) :
    (after.length : Int) = inner.length + x.delta := by
  cases h <;> simp [Lexeme.delta]

theorem Transition.length {frames after : List Frame} {x : Lexeme} (h : Transition frames x after) :
    (after.length : Int) = frames.length + x.delta := by
  cases h with
  | top value => exact value.length
  | item _ value => simpa using value.length
  | fieldValue value => simpa using value.length
  | key => simp [Lexeme.delta]
  | endArray => simp only [Lexeme.delta, List.length_cons]; omega
  | endObject => simp only [Lexeme.delta, List.length_cons]; omega

theorem Begins.length_le {inner after : List Frame} {x : Lexeme} (h : Begins inner x after)
    (hinner : inner.length ≤ maxDepth) : after.length ≤ maxDepth := by
  cases h with
  | array room => exact room
  | object room => exact room
  | _ => exact hinner

theorem Transition.length_le {frames after : List Frame} {x : Lexeme} (h : Transition frames x after)
    (hframes : frames.length ≤ maxDepth) : after.length ≤ maxDepth := by
  cases h with
  | top value => exact value.length_le hframes
  | item _ value => exact value.length_le hframes
  | fieldValue value => exact value.length_le hframes
  | key => exact hframes
  | endArray => exact Nat.le_of_succ_le hframes
  | endObject => exact Nat.le_of_succ_le hframes

/-! ### All tokens -/

/-- Tokens from a place inside the containers `frames` and what comes after them: nothing, or one
failure. -/
structure Nested (frames : List Frame) (toks : List Token) (tail : Tokens) : Prop where
  ends : tail = [] ∨ ∃ e, tail = [.error e]
  continues : ∃ more, Completes frames (toks.map Token.lexeme ++ more)
  completes : tail = [] → Completes frames (toks.map Token.lexeme)
  depth : ∀ xs, xs <+: toks.map Token.lexeme → frames.length + openCount xs ≤ maxDepth

theorem nested_nil {frames : List Frame} (hframes : frames.length ≤ maxDepth) {tail : Tokens}
    (ends : tail = [] ∧ frames = [] ∨ ∃ e, tail = [.error e]) : Nested frames [] tail where
  ends := ends.imp_left And.left
  continues := exists_completes frames
  completes htail := by
    rcases ends with ⟨-, rfl⟩ | ⟨e, rfl⟩
    · exact .top []
    · cases htail
  depth xs hxs := by
    rw [List.prefix_nil.1 hxs]
    simpa [openCount] using hframes

theorem Nested.cons {frames after : List Frame} {t : Token} {toks : List Token} {tail : Tokens}
    (ht : Transition frames t.lexeme after) (hframes : frames.length ≤ maxDepth)
    (h : Nested after toks tail) : Nested frames (t :: toks) tail where
  ends := h.ends
  continues := by
    obtain ⟨more, hmore⟩ := h.continues
    exact ⟨more, ht.completes hmore⟩
  completes htail := ht.completes (h.completes htail)
  depth xs hxs := by
    rw [List.map_cons] at hxs
    rcases List.prefix_cons_iff.1 hxs with rfl | ⟨ys, rfl, hys⟩
    · simpa [openCount] using hframes
    · have hrest := h.depth ys hys
      rw [openCount]
      rw [ht.length] at hrest
      omega

/-- **The tokens from a place on are nested in the containers that are open there.** Every step takes a
byte, so that the rounds do not run out before the text does. -/
theorem tokensFrom_nested {rounds : Nat} {frames : List Frame} {c : Cursor}
    (hrounds : c.rest.length < rounds) (hframes : frames.length ≤ maxDepth) :
    ∃ toks tail, tokensFrom rounds frames c = toks.map .ok ++ tail ∧ Nested frames toks tail := by
  induction rounds generalizing frames c with
  | zero => exact absurd hrounds (Nat.not_lt_zero _)
  | succ rounds ih =>
    rw [tokensFrom]
    split
    · next hstep =>
      exact ⟨[], [], rfl, nested_nil hframes (.inl ⟨rfl, (step_eq_none_iff.1 hstep).1⟩)⟩
    · next e hstep => exact ⟨[], [.error e], rfl, nested_nil hframes (.inr ⟨e, rfl⟩)⟩
    · next s hstep =>
      have ht := step_transition hstep
      have hshorter := step_shorter hstep
      obtain ⟨toks, tail, htokens, hnested⟩ := ih (c := s.cursor) (by omega) (ht.length_le hframes)
      exact ⟨s.token :: toks, tail, by rw [htokens]; rfl, hnested.cons ht hframes⟩

theorem tokenize_nested (bytes : List UInt8) :
    ∃ toks tail, tokenize bytes = toks.map .ok ++ tail ∧ Nested [] toks tail :=
  tokensFrom_nested (Nat.lt_succ_self _) (Nat.zero_le _)

/-- **The tokens of any text are those of values in a row**: up to the first failure, after which there
is nothing, they are the start of the lexemes of whole values, and all of them if there is no failure.
At no time are more than 128 containers open. -/
theorem tokenize_values (bytes : List UInt8) :
    ∃ (toks : List Token) (tail : Tokens), tokenize bytes = toks.map .ok ++ tail ∧
      (tail = [] ∨ ∃ e, tail = [.error e]) ∧
      (∃ trees more, toks.map Token.lexeme ++ more = itemLexemes trees) ∧
      (tail = [] → ∃ trees, toks.map Token.lexeme = itemLexemes trees) ∧
      ∀ xs, xs <+: toks.map Token.lexeme → openCount xs ≤ 128 := by
  obtain ⟨toks, tail, htokens, hnested⟩ := tokenize_nested bytes
  refine ⟨toks, tail, htokens, hnested.ends, ?_, fun htail => ?_, fun xs hxs => ?_⟩
  · obtain ⟨more, hmore⟩ := hnested.continues
    obtain ⟨trees, htrees⟩ := completes_nil_iff.1 hmore
    exact ⟨trees, more, htrees⟩
  · exact completes_nil_iff.1 (hnested.completes htail)
  · simpa [maxDepth] using hnested.depth xs hxs

end WireShapes.Json
