import WireShapes.Failure
import WireShapes.Proofs.Json.Spelling
import WireShapes.Proofs.Text.Base64

/-!
Where it matters how a string is written.

* `Json.Reader.Same x raw raw'`: it does not matter to `x` which of the two literals it finds
* `Json.Escaped`: literals with an escape, which those who do not read escapes take for something else
* `Json.same_string`, `same_timestamp`: strings and timestamps are read from the text of the literal
* `Json.same_iff`: what is read of a literal as it is written is read of one without escapes only;
  `same_blob_iff`, `same_number_iff`: so are base64 and the words for numbers
* `ErrorBody.twins_read`, `metadata_respelled`: in the body of an error the same holds of keys
* `spelling`: all of it
-/

namespace WireShapes.Json

open Reader

def Escaped (raw : String) : Prop := '\\' ∈ raw.toList

instance (raw : String) : Decidable (Escaped raw) := inferInstanceAs (Decidable (_ ∈ _))

section Simple

variable {α : Type} {raw raw' text : String}

/-- Whichever of the two literals is found, the same is read, or both fail. -/
def Reader.Same (x : Reader α) (raw raw' : String) : Prop :=
  ∀ (place place' : Nat) (rest rest' : Tokens),
    Results.Agree Eq (x (.ok ⟨place, .string raw⟩ :: rest)).1 (x (.ok ⟨place', .string raw'⟩ :: rest')).1

theorem string_apply (h : unescape raw = .ok text) (place : Nat) (rest : Tokens) :
    Reader.string (.ok ⟨place, .string raw⟩ :: rest) = (.ok (some text), rest) :=
  reads_string_ok h [⟨place, .string raw⟩] rest rfl

theorem same_string (h : unescape raw = .ok text) (h' : unescape raw' = .ok text) :
    Reader.string.Same raw raw' := by
  intro place place' rest rest'
  rw [string_apply h, string_apply h']
  exact .ok rfl

theorem number_apply (raw : String) (place : Nat) (rest : Tokens) :
    number (.ok ⟨place, .string raw⟩ :: rest) = (match numberWord? raw with
      | some x => .ok (some (.real x))
      | none => .error (.locate place (.content (.numberWord raw))), rest) := by
  have hrun : number (.ok ⟨place, .string raw⟩ :: rest) = _ := bind_of_ok (token_apply _ rest) _
  rw [hrun]
  dsimp only
  split <;> next h => simp only [h]; rfl

theorem numberWord?_not_finite {x : Double} (h : numberWord? raw = some x) : x.isFinite = false := by
  unfold numberWord? at h
  split at h
  · cases h; decide
  split at h
  · cases h; decide
  split at h
  · cases h; decide
  · cases h

/-- Epoch seconds are no strings, not even the words for numbers. -/
theorem epochSeconds_apply (raw : String) (place : Nat) (rest : Tokens) :
    ∃ e, (timestamp .epochSeconds (.ok ⟨place, .string raw⟩ :: rest)).1 = .error e := by
  unfold timestamp
  dsimp only
  rw [bind_apply, number_apply]
  cases hword : numberWord? raw with
  | none => exact ⟨_, rfl⟩
  | some x =>
    dsimp only
    rw [show (Number.real x).toDouble = x from rfl, numberWord?_not_finite hword]
    exact ⟨_, rfl⟩

/-- The other formats are read from texts. -/
theorem timestamp_eq {format : TimeFormat} (h : format ≠ .epochSeconds) : timestamp format = (do
    match ← Reader.string with
    | none => return none
    | some text =>
      match Instant.read text format with
      | .ok t => return some t
      | .error e => failContent (.timestamp e)) := by
  cases format with
  | epochSeconds => exact absurd rfl h
  | _ => rfl

theorem same_timestamp (h : unescape raw = .ok text) (h' : unescape raw' = .ok text) (format : TimeFormat) :
    (timestamp format).Same raw raw' := by
  intro place place' rest rest'
  by_cases hformat : format = .epochSeconds
  · subst hformat
    obtain ⟨e, he⟩ := epochSeconds_apply raw place rest
    obtain ⟨e', he'⟩ := epochSeconds_apply raw' place' rest'
    rw [he, he']
    exact .error
  · rw [timestamp_eq hformat, bind_of_ok (string_apply h place rest), bind_of_ok (string_apply h' place' rest')]
    dsimp only
    cases Instant.read text format with
    | ok t => exact .ok rfl
    | error e => exact .error

/-! ### Literals as they are written -/

/-- A reader that finds nothing in literals with an escape tells a literal with an escape from one without,
unless there is nothing in the text either. -/
theorem same_iff {x : Reader α} {f : String → Option α}
    (hx : ∀ place rest s, (x (.ok ⟨place, .string s⟩ :: rest)).1.toOption = f s)
    (hf : ∀ s, Escaped s → f s = none) (h : unescape raw = .ok text) (h' : unescape raw' = .ok text) :
    x.Same raw raw' ↔ f text = none ∨ (Escaped raw ↔ Escaped raw') := by
  have hsame : x.Same raw raw' ↔ f raw = f raw' := by
    unfold Reader.Same
    simp only [Results.Agree.eq_iff, hx]
    exact ⟨fun h => h 0 0 [] [], fun h _ _ _ _ => h⟩
  have hvalue : ∀ {s}, unescape s = .ok text → f s = if Escaped s then none else f text := by
    intro s hs
    split
    · next hescaped => exact hf s hescaped
    · next hbare => rw [Except.ok.inj ((unescape_bare hbare).symm.trans hs)]
  rw [hsame, hvalue h, hvalue h']
  by_cases hraw : Escaped raw <;> by_cases hraw' : Escaped raw' <;> simp [hraw, hraw', eq_comm]

/-- Base64 is read from literals without escapes only. -/
theorem same_blob_iff (h : unescape raw = .ok text) (h' : unescape raw' = .ok text) :
    blob.Same raw raw' ↔
      (∀ bytes, Base64.decode text ≠ .ok bytes) ∨ (Escaped raw ↔ Escaped raw') := by
  have happly : ∀ place rest s, (blob (.ok ⟨place, .string s⟩ :: rest)).1.toOption =
      (Base64.decode s).toOption.map some := by
    intro place rest s
    have hrun : blob (.ok ⟨place, .string s⟩ :: rest) = _ := bind_of_ok (rawString_apply rfl rest) _
    rw [hrun]
    dsimp only
    cases Base64.decode s <;> rfl
  have hescaped : ∀ s, Escaped s → (Base64.decode s).toOption.map some = none := by
    intro s hs
    cases hdecode : Base64.decode s with
    | error e => rfl
    | ok bytes => exact absurd hs (Base64.not_mem_of_decode hdecode)
  rw [same_iff happly hescaped h h']
  cases Base64.decode text <;> simp [Except.toOption]

/-- So are the words for numbers. -/
theorem same_number_iff (h : unescape raw = .ok text) (h' : unescape raw' = .ok text) :
    number.Same raw raw' ↔ numberWord? text = none ∨ (Escaped raw ↔ Escaped raw') := by
  have happly : ∀ place rest s, (number (.ok ⟨place, .string s⟩ :: rest)).1.toOption =
      (numberWord? s).map fun x => some (.real x) := by
    intro place rest s
    rw [number_apply]
    dsimp only
    cases numberWord? s <;> rfl
  have hescaped : ∀ s, Escaped s → (numberWord? s).map (fun x => some (Number.real x)) = none := by
    intro s hs
    have hne : ∀ word : String, '\\' ∉ word.toList → s ≠ word := by
      rintro word hword rfl
      exact hword hs
    simp [numberWord?, hne "NaN" (by decide), hne "Infinity" (by decide), hne "-Infinity" (by decide)]
  rw [same_iff happly hescaped h h', Option.map_eq_none_iff]

end Simple

end WireShapes.Json

namespace WireShapes

open Json Json.Reader

/-- The names of the entries that count in the body of an error. -/
def errorNames : List String := ["__type", "code", "Code", "message", "Message", "errorMessage"]

namespace ErrorBody

/-- The value of an entry is read in the same way under the same name, and under any two that do not
count. -/
theorem twins_readEntry (body : ErrorBody) {key key' : String}
    (h : key = key' ∨ key ∉ errorNames ∧ key' ∉ errorNames) :
    Twins (Respelled errorNames) (body.readEntry key) (body.readEntry key') := by
  have hskip : Twins (Respelled errorNames) (do skipValue; return body) (do skipValue; return body) :=
    twins_skipValue.bind fun _ => twins_pure body
  have hstring : ∀ put : Option String → ErrorBody, Twins (Respelled errorNames)
      (do return put (← Reader.string)) (do return put (← Reader.string)) :=
    fun put => twins_string.bind fun text => twins_pure (put text)
  have hvalue : Twins (Respelled errorNames)
      (if key = "__type" then do return { body with type := ← Reader.string }
        else if key = "code" ∨ key = "Code" then do return { body with code := ← Reader.string }
        else if key = "message" ∨ key = "Message" ∨ key = "errorMessage" then
          do return { body with message := ← Reader.string }
        else do skipValue; return body)
      (if key' = "__type" then do return { body with type := ← Reader.string }
        else if key' = "code" ∨ key' = "Code" then do return { body with code := ← Reader.string }
        else if key' = "message" ∨ key' = "Message" ∨ key' = "errorMessage" then
          do return { body with message := ← Reader.string }
        else do skipValue; return body) := by
    rcases h with rfl | ⟨hkey, hkey'⟩
    · split
      · exact hstring _
      split
      · exact hstring _
      split
      · exact hstring _
      · exact hskip
    · simp only [errorNames, List.mem_cons, List.not_mem_nil, or_false, not_or] at hkey hkey'
      simpa [hkey, hkey'] using hskip
  refine Twins.peek hskip fun x y hxy => ?_
  cases hxy with
  | same =>
    cases x with
    | string => exact hvalue
    | _ => exact hskip
  | string => exact hvalue
  | key => exact hskip

theorem twins_readEntries (rounds : Nat) (body : ErrorBody) :
    Twins (Respelled errorNames) (readEntries rounds body) (readEntries rounds body) := by
  induction rounds generalizing body with
  | zero => exact twins_failWith _ _
  | succ rounds ih =>
    refine Twins.next (twins_failWith _ _) fun t t' h => ?_
    obtain ⟨o, x⟩ := t
    obtain ⟨o', y⟩ := t'
    cases h with
    | same =>
      cases x with
      | endObject => exact twins_pure body
      | key raw => exact (twins_readEntry body (.inl rfl)).bind ih
      | _ => exact twins_failWith _ _
    | string => exact twins_failWith _ _
    | key strange strange' => exact (twins_readEntry body (.inr ⟨strange, strange'⟩)).bind ih

/-- **The body of an error does not tell literals of one text apart**, nor keys that do not count. -/
theorem twins_read : Twins (Respelled errorNames) ErrorBody.read ErrorBody.read := by
  refine Twins.next (twins_pure _) fun t t' h => ?_
  obtain ⟨o, x⟩ := t
  obtain ⟨o', y⟩ := t'
  cases h with
  | same =>
    cases x with
    | startObject => exact Twins.rounds fun rounds => twins_readEntries rounds {}
    | _ => exact twins_pure _
  | string => exact twins_pure _
  | key => exact twins_pure _

end ErrorBody

/-- Of two literals of one text both count as a name or neither does, unless only one has an escape. -/
theorem strange_of_spelling {raw raw' text : String} (h : unescape raw = .ok text)
    (h' : unescape raw' = .ok text) (hname : text ∉ errorNames ∨ (Escaped raw ↔ Escaped raw')) :
    raw = raw' ∨ raw ∉ errorNames ∧ raw' ∉ errorNames := by
  have hescaped : ∀ {s}, Escaped s → s ∉ errorNames := by
    intro s hs hmem
    have hall : ∀ name ∈ errorNames, ¬Escaped name := by decide
    exact hall s hmem hs
  have hbare : ∀ {s}, unescape s = .ok text → ¬Escaped s → s = text :=
    fun hs hno => Except.ok.inj ((unescape_bare hno).symm.trans hs)
  by_cases hraw : Escaped raw <;> by_cases hraw' : Escaped raw'
  · exact .inr ⟨hescaped hraw, hescaped hraw'⟩
  · have hname := hname.resolve_right fun hiff => hraw' (hiff.1 hraw)
    exact .inr ⟨hescaped hraw, (hbare h' hraw').symm ▸ hname⟩
  · have hname := hname.resolve_right fun hiff => hraw (hiff.2 hraw')
    exact .inr ⟨(hbare h hraw).symm ▸ hname, hescaped hraw'⟩
  · exact .inl ((hbare h hraw).trans (hbare h' hraw').symm)

section Metadata

variable {raw raw' : String} {kind : String → Lexeme} {before after : List UInt8}

/-- With another literal in the place of one, code and message are the same, or both texts fail. -/
theorem metadata_respelled (hkind : IsLiteral kind) (body : Body raw'.toList)
    (hR : Respelled errorNames (kind raw) (kind raw')) (headers : Http.Headers)
    (hmem : .ok ⟨before.length, kind raw⟩ ∈ tokenize (before ++ (literal raw ++ after))) :
    Results.Agree Eq (Metadata.read (before ++ (literal raw ++ after)) headers)
      (Metadata.read (before ++ (literal raw' ++ after)) headers) := by
  have htokens := tokenize_respelled hkind body .same hR hmem
  have hbody := (ErrorBody.twins_read _ _ htokens).agree
  exact hbody.bind fun a b hab => hab ▸ .ok rfl

end Metadata

/-- **Where it does not matter how a string is written.** Two literals of one text are read as the same
string and as the same timestamp, or as none. They are read as the same bytes and as the same number unless one
has an escape and the other has not, and the text is base64, or a word for a number. In the body of an error one
may stand in the place of the other as a value, and as a key if the text is no name that counts, or both have an
escape or neither has. -/
theorem spelling (raw raw' text : String) (legal : LegalBody raw'.toList) (h : unescape raw = .ok text)
    (h' : unescape raw' = .ok text) :
    Reader.string.Same raw raw' ∧ (∀ format, (timestamp format).Same raw raw') ∧
    (blob.Same raw raw' ↔ (∀ bytes, Base64.decode text ≠ .ok bytes) ∨ (Escaped raw ↔ Escaped raw')) ∧
    (number.Same raw raw' ↔ numberWord? text = none ∨ (Escaped raw ↔ Escaped raw')) ∧
    (∀ before after headers,
      .ok ⟨before.length, .string raw⟩ ∈ tokenize (before ++ (literal raw ++ after)) →
      Results.Agree Eq (Metadata.read (before ++ (literal raw ++ after)) headers)
        (Metadata.read (before ++ (literal raw' ++ after)) headers)) ∧
    ∀ before after headers,
      .ok ⟨before.length, .key raw⟩ ∈ tokenize (before ++ (literal raw ++ after)) →
      text ∉ errorNames ∨ (Escaped raw ↔ Escaped raw') →
      Results.Agree Eq (Metadata.read (before ++ (literal raw ++ after)) headers)
        (Metadata.read (before ++ (literal raw' ++ after)) headers) := by
  refine ⟨same_string h h', same_timestamp h h', same_blob_iff h h', same_number_iff h h',
    fun before after headers hmem => metadata_respelled .string legal.body (.string h h') headers hmem,
    fun before after headers hmem hname => metadata_respelled .key legal.body ?_ headers hmem⟩
  rcases strange_of_spelling h h' hname with rfl | ⟨hstrange, hstrange'⟩
  · exact .same _
  · exact .key hstrange hstrange'

/-- A code unit for a letter: as a code it is read like the letter. -/
theorem letter_respelled : LegalBody "A".toList ∧ unescape "\\u0041" = .ok "A" ∧ unescape "A" = .ok "A" ∧
    Reader.string.Same "\\u0041" "A" ∧
    Results.Agree Eq (Metadata.read (Utf8.encode "\x7b\"code\":\"\\u0041\"\x7d") [])
      (Metadata.read (Utf8.encode "\x7b\"code\":\"A\"\x7d") []) := by
  have hlegal : LegalBody "A".toList := legalBody_of_bare (by decide)
  have hunit : unescape "\\u0041" = .ok "A" := by decide +kernel
  have hletter : unescape "A" = .ok "A" := by decide +kernel
  obtain ⟨hstring, -, -, -, hvalue, -⟩ := spelling "\\u0041" "A" "A" hlegal hunit hletter
  have hmem : .ok ⟨8, .string "\\u0041"⟩ ∈
      tokenize (Utf8.encode "\x7b\"code\":" ++ (literal "\\u0041" ++ [0x7D])) := by
    decide +kernel
  exact ⟨hlegal, hunit, hletter, hstring, hvalue (Utf8.encode "\x7b\"code\":") [0x7D] [] hmem⟩

/-- Base64, the words for numbers and the keys of an error are looked for in the literal as it is written. -/
theorem escapes_noticed :
    (unescape "aGk\\u003d" = unescape "aGk=" ∧ ¬blob.Same "aGk\\u003d" "aGk=") ∧
    (unescape "\\u004eaN" = unescape "NaN" ∧ ¬number.Same "\\u004eaN" "NaN") ∧
    (unescape "\\u0063ode" = unescape "code" ∧
      Metadata.read (Utf8.encode "\x7b\"\\u0063ode\":\"A\"\x7d") [] = .ok ⟨none, none⟩ ∧
      Metadata.read (Utf8.encode "\x7b\"code\":\"A\"\x7d") [] = .ok ⟨some "A", none⟩) := by
  refine ⟨⟨by decide +kernel, fun hsame => ?_⟩, ⟨by decide +kernel, fun hsame => ?_⟩,
    by decide +kernel, by decide +kernel, by decide +kernel⟩
  · have hsame := Results.Agree.eq_iff.1 (hsame 0 0 [] [])
    revert hsame
    decide +kernel
  · have hsame := Results.Agree.eq_iff.1 (hsame 0 0 [] [])
    revert hsame
    decide +kernel

end WireShapes
