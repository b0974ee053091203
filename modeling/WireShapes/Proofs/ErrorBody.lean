import WireShapes.Failure
import WireShapes.Proofs.Http.Headers
import WireShapes.Proofs.Http.Uri
import WireShapes.Proofs.Json.Legal
import WireShapes.Proofs.Json.Skipping

/-!
What the body of an error says is said by the entries of its object, and by nothing in them.

* `textUnder?`, `lastUnder`: the texts under some names, and the last of them
* `not_mem_errorCode`: a code without namespace and suffix has neither a colon nor a hash sign
* `ErrorBody.give`: what one entry adds; `reads_entry`, `reads_entries`: and that is what is read of it
* `type_give`, `code_give`, `message_give`: each part of the body is the last text under its names
* `errorBody_of_piece`, `metadata_of_piece`: what is read from a text of the object
* `errorCode_of_plain`: a code without namespace and suffix stands for itself
* `errorBody_read`: from a body with a message, or with nothing, the message is read
* `metadata_read`: the name of the error comes from the header field, and the message from the body
-/

namespace WireShapes

open Json

/-! ### Codes -/

theorem not_mem_errorCode (code : String) :
    ':' ∉ (errorCode code).toList ∧ '#' ∉ (errorCode code).toList := by
  have hstop : ∀ (d : Char) (cs : List Char), d ∉ cs.takeWhile (· != d) := by
    intro d cs h
    have hall := List.all_eq_true.1 (List.all_takeWhile (l := cs) (p := (· != d))) d h
    simp at hall
  rw [errorCode, String.toList_ofList, errorCodeChars, List.mem_reverse, List.mem_reverse]
  exact ⟨fun h => hstop ':' _ (List.mem_reverse.1 ((List.takeWhile_sublist _).subset h)), hstop '#' _⟩

/-! ### Entries -/

/-- The text that a string denotes; other values have none. -/
def Json.Tree.text? : Tree → Option String
  | .string raw => (unescape raw).toOption
  | _ => none

/-- The text of the entry, if its key denotes one of the names. -/
def textUnder? (names : List String) (e : String × Tree) : Option String :=
  match unescape e.1 with
  | .ok key => if key ∈ names then e.2.text? else none
  | .error _ => none

/-- The text of the last entry that has one under one of the names. -/
def lastUnder (names : List String) (entries : List (String × Tree)) : Option String :=
  (entries.filterMap (textUnder? names)).getLast?

theorem textUnder?_bare {e : String × Tree} (bare : '\\' ∉ e.1.toList) (names : List String) :
    textUnder? names e = if e.1 ∈ names then e.2.text? else none := by
  rw [textUnder?, unescape_bare bare]

/-- A part of a state that every step gives anew or leaves as it is holds what was given last. -/
theorem part_foldl {σ α β : Type} {part : σ → Option β} {give : σ → α → σ} {given? : α → Option β}
    {l : List α} (step : ∀ a ∈ l, ∀ s, part (give s a) = (given? a).or (part s)) (s : σ) :
    part (l.foldl give s) = (l.filterMap given?).getLast?.or (part s) := by
  induction l generalizing s with
  | nil => rfl
  | cons a rest ih =>
    rw [List.foldl_cons, ih fun x hx => step x (List.mem_cons_of_mem _ hx), step a List.mem_cons_self,
      List.filterMap_cons]
    cases given? a with
    | none => rfl
    | some b => cases h : (rest.filterMap given?).getLast? <;> simp [List.getLast?_cons, h]

namespace ErrorBody

/-- What an entry adds to what the body has said so far. The key counts as it is written. -/
def give (body : ErrorBody) (e : String × Tree) : ErrorBody :=
  match e.2.text? with
  | none => body
  | some text =>
    if e.1 = "__type" then { body with type := some text }
    else if e.1 = "code" ∨ e.1 = "Code" then { body with code := some text }
    else if e.1 = "message" ∨ e.1 = "Message" ∨ e.1 = "errorMessage" then
      { body with message := some text }
    else body

section Parts

variable {e : String × Tree} (bare : '\\' ∉ e.1.toList) (body : ErrorBody)

include bare

theorem type_give : (body.give e).type = (textUnder? ["__type"] e).or body.type := by
  rw [textUnder?_bare bare, give]
  cases e.2.text? with
  | none => simp
  | some text => by_cases h : e.1 = "__type" <;> grind

theorem code_give : (body.give e).code = (textUnder? ["code", "Code"] e).or body.code := by
  rw [textUnder?_bare bare, give]
  cases e.2.text? with
  | none => simp
  | some text => by_cases h : e.1 = "code" ∨ e.1 = "Code" <;> grind

theorem message_give :
    (body.give e).message = (textUnder? ["message", "Message", "errorMessage"] e).or body.message := by
  rw [textUnder?_bare bare, give]
  cases e.2.text? with
  | none => simp
  | some text => by_cases h : e.1 = "message" ∨ e.1 = "Message" ∨ e.1 = "errorMessage" <;> grind

end Parts

/-! ### Reading them -/

/-- Every string among the values denotes a text. -/
def Readable (entries : List (String × Tree)) : Prop :=
  ∀ e ∈ entries, ∀ raw, e.2 = .string raw → ∃ text, unescape raw = .ok text

/-- The value of an entry is read if it is a string under a name that counts, and skipped if not. -/
theorem reads_entry (body : ErrorBody) (key : String) {t : Tree}
    (readable : ∀ raw, t = .string raw → ∃ text, unescape raw = .ok text) :
    (body.readEntry key).Reads t.lexemes (body.give (key, t)) := by
  have hskip : Reader.Reads (do Reader.skipValue; return body) t.lexemes body := by
    have h := t.reads_skipValue.bind (f := fun _ => pure body) (Reader.reads_pure body)
    rwa [List.append_nil] at h
  cases t with
  | string raw =>
    obtain ⟨text, htext⟩ := readable raw rfl
    have hstring : ∀ put : Option String → ErrorBody,
        Reader.Reads (do return put (← Reader.string)) (Tree.string raw).lexemes (put (some text)) :=
      fun put => (Reader.reads_string_ok htext).map put
    refine Reader.Reads.peek ?_
    simp only [give, Tree.text?, htext, Except.toOption]
    split
    · exact hstring _
    split
    · exact hstring _
    split
    · exact hstring _
    · exact hskip
  | _ =>
    rw [Tree.lexemes] at hskip ⊢
    exact Reader.Reads.peek hskip

theorem reads_entries {entries : List (String × Tree)} (readable : Readable entries) {rounds : Nat}
    (hrounds : entries.length < rounds) (body : ErrorBody) :
    (readEntries rounds body).Reads (entryLexemes entries ++ [.endObject]) (entries.foldl give body) := by
  induction entries generalizing rounds body with
  | nil =>
    obtain ⟨rounds, rfl⟩ := Nat.exists_eq_add_one_of_ne_zero (by omega : rounds ≠ 0)
    refine Reader.Reads.next fun t ht => ?_
    obtain ⟨place, _⟩ := t
    obtain rfl := ht
    exact Reader.reads_pure body
  | cons e rest ih =>
    obtain ⟨key, t⟩ := e
    rw [List.length_cons] at hrounds
    obtain ⟨rounds, rfl⟩ := Nat.exists_eq_add_one_of_ne_zero (by omega : rounds ≠ 0)
    have hentry := reads_entry body key (readable (key, t) List.mem_cons_self)
    have hrest := ih (fun x hx => readable x (List.mem_cons_of_mem _ hx)) (Nat.lt_of_succ_lt_succ hrounds)
      (body.give (key, t))
    rw [entryLexemes, List.cons_append, List.append_assoc]
    refine Reader.Reads.next fun t' ht' => ?_
    obtain ⟨place, _⟩ := t'
    obtain rfl := ht'
    exact hentry.bind hrest

theorem length_le_entryLexemes (entries : List (String × Tree)) :
    entries.length ≤ (entryLexemes entries).length := by
  induction entries with
  | nil => exact Nat.zero_le _
  | cons e rest ih =>
    rw [entryLexemes, List.length_cons, List.length_cons, List.length_append]
    omega

/-- The lexemes of an object say what its entries say. -/
theorem reads_object {entries : List (String × Tree)} (readable : Readable entries) :
    ErrorBody.read.Reads (Tree.object entries).lexemes (entries.foldl give {}) := by
  rw [Tree.lexemes]
  refine Reader.Reads.next fun t ht => ?_
  obtain ⟨place, _⟩ := t
  obtain rfl := ht
  refine Reader.Reads.rounds fun rounds hrounds => ?_
  have hlength := length_le_entryLexemes entries
  rw [List.length_append, List.length_singleton] at hrounds
  exact reads_entries readable (by omega) {}

/-- **The body of an error says what the entries of its object say**, each part by the last entry that
has a text for it. -/
theorem read_of_piece {p : Piece} (spaced : p.Spaced) (spells : Spells p.tree p.text)
    {entries : List (String × Tree)} (object : p.tree = .object entries) (hdepth : p.tree.depth ≤ maxDepth)
    (bare : ∀ e ∈ entries, '\\' ∉ e.1.toList) (readable : Readable entries) :
    (ErrorBody.read (tokenize p.bytes)).1 = .ok ⟨lastUnder ["__type"] entries,
      lastUnder ["code", "Code"] entries, lastUnder ["message", "Message", "errorMessage"] entries⟩ := by
  obtain ⟨toks, hlex, htokens⟩ := tokenize_of_piece spaced spells hdepth
  have hread := reads_object readable toks [] (object ▸ hlex)
  rw [List.append_nil] at hread
  have htype := part_foldl (fun e he => type_give (bare e he)) {}
  have hcode := part_foldl (fun e he => code_give (bare e he)) {}
  have hmessage := part_foldl (fun e he => message_give (bare e he)) {}
  rw [Option.or_none] at htype hcode hmessage
  rw [htokens, hread, lastUnder, lastUnder, lastUnder, ← htype, ← hcode, ← hmessage]

end ErrorBody

/-! ### Code and message -/

/-- **Code and message of an error come from the header field and from the entries of the object alone**:
the code from the field if it can be read, else from the last type, else from the last code, and the
message from the last message. Neither other entries nor values that are no strings have a say, nor
anything that lies inside of them. -/
theorem metadata_of_piece (p : Piece) (spaced : p.Spaced) (legal : Legal p.tree p.text)
    (entries : List (String × Tree)) (object : p.tree = .object entries) (hdepth : p.tree.depth ≤ 128)
    (bare : ∀ e ∈ entries, '\\' ∉ e.1.toList)
    (readable : ∀ e ∈ entries, ∀ raw, e.2 = .string raw → ∃ text, unescape raw = .ok text)
    (headers : Http.Headers) :
    ∃ code, Metadata.read p.bytes headers =
        .ok ⟨code, lastUnder ["message", "Message", "errorMessage"] entries⟩ ∧
      code = (((Http.get? errorTypeHeader headers).bind Http.fieldText?).or
        ((lastUnder ["__type"] entries).or (lastUnder ["code", "Code"] entries))).map errorCode ∧
      ∀ c, code = some c → ':' ∉ c.toList ∧ '#' ∉ c.toList := by
  have hbody := ErrorBody.read_of_piece spaced legal.spells object hdepth bare readable
  refine ⟨_, by rw [Metadata.read, hbody, Results.ok_bind], rfl, fun c hc => ?_⟩
  obtain ⟨code, -, rfl⟩ := Option.map_eq_some_iff.1 hc
  exact not_mem_errorCode code

/-- A type and a message that lie inside of an entry. -/
def innerFields : List Field :=
  [⟨[], "__type", [], ⟨[], .string "a", literal "a", []⟩⟩,
    ⟨[], "message", [], ⟨[], .string "b", literal "b", []⟩⟩]

/-- Codes and messages in several places, a type that is no string, and another entry. -/
def mixedFields : List Field :=
  [⟨[], "Code", [], ⟨[], .string "ns#First:x", literal "ns#First:x", []⟩⟩,
    ⟨[], "in", [], ⟨[], .object (innerFields.map Field.entry),
      0x7B :: (commaed (innerFields.map Field.bytes) ++ [0x7D]), []⟩⟩,
    ⟨[0x20], "message", [], ⟨[], .string "c", literal "c", []⟩⟩,
    ⟨[], "code", [0x09], ⟨[], .string "\\u006es#Last:y", literal "\\u006es#Last:y", []⟩⟩,
    ⟨[], "__type", [], ⟨[], .null, Utf8.encode "null", []⟩⟩,
    ⟨[], "errorMessage", [], ⟨[0x0A], .string "d\\/e", literal "d\\/e", []⟩⟩]

def mixedError : Piece :=
  ⟨[], .object (mixedFields.map Field.entry),
    0x7B :: (commaed (mixedFields.map Field.bytes) ++ [0x7D]), [0x0A]⟩

theorem legal_mixedError : Legal mixedError.tree mixedError.text := by
  have hinner : Legal (.object (innerFields.map Field.entry))
      (0x7B :: (commaed (innerFields.map Field.bytes) ++ [0x7D])) := by
    refine .object (fun f hf => ?_) (fun f hf => ?_) fun f hf => ?_
    all_goals
      simp only [List.mem_cons, List.not_mem_nil, or_false] at hf
      rcases hf with rfl | rfl
    · exact legalBody_of_bare (by decide)
    · exact legalBody_of_bare (by decide)
    · decide
    · decide
    · exact .string (legalBody_of_bare (by decide))
    · exact .string (legalBody_of_bare (by decide))
  refine .object (fun f hf => ?_) (fun f hf => ?_) fun f hf => ?_
  all_goals
    simp only [List.mem_cons, List.not_mem_nil, or_false] at hf
    rcases hf with rfl | rfl | rfl | rfl | rfl | rfl
  any_goals exact legalBody_of_bare (by decide)
  any_goals decide
  · exact .string (legalBody_of_bare (by decide))
  · exact hinner
  · exact .string (legalBody_of_bare (by decide))
  · exact .string (.unit (List.all_eq_true.1 rfl) (legalBody_of_bare (by decide)))
  · exact .wordNull
  · exact .string (.plain (by decide) (by decide) (by decide) (.short (by decide)
      (legalBody_of_bare (by decide))))

theorem readable_mixedError : ∀ e ∈ mixedFields.map Field.entry, ∀ raw, e.2 = .string raw →
    ∃ text, unescape raw = .ok text := by
  intro e he raw hraw
  simp only [mixedFields, List.map_cons, List.map_nil, List.mem_cons, List.not_mem_nil, or_false] at he
  rcases he with rfl | rfl | rfl | rfl | rfl | rfl <;> cases hraw
  · exact ⟨_, unescape_bare (by decide)⟩
  · exact ⟨_, unescape_bare (by decide)⟩
  · exact ⟨"ns#Last:y", by decide +kernel⟩
  · exact ⟨"d/e", by decide +kernel⟩

theorem mixedError_metadata :
    mixedError.bytes = Utf8.encode ("\x7b\"Code\":\"ns#First:x\",\"in\":\x7b\"__type\":\"a\"," ++
      "\"message\":\"b\"\x7d, \"message\":\"c\",\"code\"\t:\"\\u006es#Last:y\",\"__type\":null," ++
      "\"errorMessage\":\n\"d\\/e\"\x7d\n") ∧
    Metadata.read mixedError.bytes [] = .ok ⟨some "Last", some "d/e"⟩ := by
  obtain ⟨code, hread, hcode, -⟩ := metadata_of_piece mixedError (by decide +kernel) legal_mixedError
    (mixedFields.map Field.entry) rfl (by decide +kernel) (by decide +kernel) readable_mixedError []
  have hlast : code = some "Last" := hcode.trans (by decide +kernel)
  refine ⟨by decide +kernel, ?_⟩
  rw [hread, hlast]
  exact congrArg (fun m => Except.ok (Metadata.mk (some "Last") m)) (by decide +kernel)

/-! ### Bodies with a message -/

open Http

theorem errorCode_of_plain {code : String} (hcolon : ':' ∉ code.toList) (hhash : '#' ∉ code.toList) :
    errorCode code = code := by
  have hrev : '#' ∉ code.toList.reverse := fun h => hhash (List.mem_reverse.1 h)
  rw [errorCode, errorCodeChars, Text.takeWhile_of_not_mem hcolon, Text.takeWhile_of_not_mem hrev,
    List.reverse_reverse, String.ofList_toList]

/-- The body of an error that has a message or nothing. -/
def messageNode (message : Option String) : Node :=
  .object (message.map fun s => ("message", Node.string s)).toList

theorem plain_messageNode (message : Option String) : (messageNode message).Plain := by
  refine .object fun e he => ?_
  obtain ⟨s, -, rfl⟩ := Option.map_eq_some_iff.1 (Option.mem_toList.1 he)
  exact .string

theorem depth_messageNode (message : Option String) : (messageNode message).tree.depth ≤ maxDepth := by
  cases message with
  | none => decide
  | some s => exact (by decide : 1 ≤ maxDepth)

theorem tree_messageNode (message : Option String) :
    (messageNode message).tree =
      .object (message.map fun s => ("message", Tree.string (escape s))).toList := by
  have hkey : escape "message" = "message" := by decide
  cases message with
  | none => rfl
  | some s => rw [messageNode, Node.tree, Option.map_some, Option.toList_some, entryTrees, hkey]; rfl

/-- The lexemes of such a body say the message. -/
theorem reads_errorBody (message : Option String) :
    ErrorBody.read.Reads (messageNode message).tree.lexemes ⟨none, none, message⟩ := by
  rw [tree_messageNode]
  cases message with
  | none => exact ErrorBody.reads_object fun e he => by simp at he
  | some s =>
    have readable : ErrorBody.Readable [("message", Tree.string (escape s))] := by
      intro e he raw hraw
      obtain rfl := List.mem_singleton.1 he
      cases hraw
      exact ⟨s, unescape_escape s⟩
    have hread := ErrorBody.reads_object readable
    have hgive : ErrorBody.give {} ("message", Tree.string (escape s)) = ⟨none, none, some s⟩ := by
      simp [ErrorBody.give, Tree.text?, unescape_escape, Except.toOption]
    rwa [List.foldl_cons, List.foldl_nil, hgive] at hread

/-- **From a body with a message, or with nothing, the message is read.** -/
theorem errorBody_read (message : Option String) :
    (ErrorBody.read (tokenize (Utf8.encode (messageNode message).write))).1 =
      .ok ⟨none, none, message⟩ := by
  obtain ⟨toks, hlex, htoks⟩ := tokenize_write (plain_messageNode message) (depth_messageNode message)
  have hread := reads_errorBody message toks [] hlex
  rw [List.append_nil] at hread
  rw [htoks, hread]

/-- **The name of the error comes from the header field, and the message from the body.** -/
theorem metadata_read {name : String} (hname : Visible name) (hcolon : ':' ∉ name.toList)
    (hhash : '#' ∉ name.toList) (message : Option String) (headers : Headers) :
    Metadata.read (Utf8.encode (messageNode message).write) ((errorTypeHeader, Utf8.encode name) :: headers) =
      .ok ⟨some name, message⟩ := by
  have hget : Http.get? errorTypeHeader ((errorTypeHeader, Utf8.encode name) :: headers) =
      some (Utf8.encode name) := by
    simp [Http.get?, getAll]
  unfold Metadata.read
  rw [errorBody_read, Results.ok_bind, hget]
  simp [fieldText?_visible hname, errorCode_of_plain hcolon hhash]

end WireShapes
