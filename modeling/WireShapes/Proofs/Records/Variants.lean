import WireShapes.Proofs.Json.Legal
import WireShapes.Proofs.Records.Order

/-!
The one variant of a payload.

* `payload_exclusive`: what is read of an object, by the members that are given in it
-/

namespace WireShapes

open Json Schema

/-- **A payload has exactly one variant.** If one member is given, once, that is the variant, whatever
other entries there are and wherever they stand: entries of unknown keys, and entries of any key that are
`null`. If members are given more than once, nothing is read. If none is given, a client reads an unknown
variant, and a server reads nothing. -/
theorem payload_exclusive (F : Flavour) (p : Piece) (spaced : p.Spaced) (text : Spells p.tree p.text)
    (depth : p.tree.depth ≤ 128) (entries : List (String × Tree)) (object : p.tree = .object entries)
    (keys : ∀ e ∈ entries, ∃ key, unescape e.1 = .ok key) :
    (∀ m ∈ records.members .payload, ∀ u, given (records.members .payload) entries = [(m.name, u)] →
      ∀ (toks : List Token) (d : Draft), toks.map Token.lexeme = u.lexemes →
        records.read F m.target (toks.map .ok) = (.ok (some d), []) →
        ∃ x, records.read F .payload (tokenize p.bytes) = (.ok (some x), []) ∧ IsVariant records F m d x) ∧
    (2 ≤ (given (records.members .payload) entries).length →
      ∃ e, (records.read F .payload (tokenize p.bytes)).1 = .error e) ∧
    (given (records.members .payload) entries = [] →
      if F = .client then records.read F .payload (tokenize p.bytes) = (.ok (some (.built .unknown)), [])
      else ∃ e, (records.read F .payload (tokenize p.bytes)).1 = .error e) := by
  have hdoc : RecordShape.Documentary .payload := RecordShape.documentary_of_mem (by decide)
  have shape : records.shape .payload = .union (records.members .payload) := rfl
  obtain ⟨toks, hlex, htoks⟩ := tokenize_of_piece spaced text depth
  rw [htoks, ← List.append_nil (toks.map _)]
  rw [object] at hlex
  refine ⟨fun m hm u sole toks' d hlex' hvalue => ?_, fun mixed => ?_, fun nothing => ?_⟩
  · rw [← List.append_nil (toks'.map _)] at hvalue
    have value := ((read_eq_ok_iff records_documents (records_documents.member _ hdoc m hm).1 hlex').1 hvalue).2
    obtain ⟨x, hx, hvariant⟩ := readsAs_sole records_documents hdoc shape keys records_wellFormed hm sole value
    exact ⟨x, (read_eq_ok_iff records_documents hdoc hlex).2 ⟨rfl, hx⟩, hvariant⟩
  · exact read_eq_error records_documents hdoc hlex (not_readsAs_mixed records_documents hdoc shape keys mixed) []
  · have hiff := readsAs_nothing_iff (F := F) records_documents hdoc shape keys nothing
    split
    · next hF => exact (read_eq_ok_iff records_documents hdoc hlex).2 ⟨rfl, (hiff _).2 ⟨hF, rfl⟩⟩
    · next hF => exact read_eq_error records_documents hdoc hlex (fun o ho => hF ((hiff o).1 ho).1) []

/-- Entries that say nothing of a payload: one of an unknown key, and members that are `null`. -/
def strayFields : List Field :=
  [⟨[], "z", [0x09], ⟨[], .array [], [0x5B, 0x5D], []⟩⟩, ⟨[], "count", [], ⟨[], .null, wordBytes "null", []⟩⟩,
    ⟨[0x20], "text", [], ⟨[], .null, wordBytes "null", []⟩⟩]

def seven : Decimal.Numeral := ⟨false, ⟨['7'], by decide, List.all_eq_true.1 rfl⟩, none, none, by decide⟩

def countField : Field := ⟨[], "c\\u006funt", [], ⟨[], .number (.natural 7), Utf8.encodeChars seven.chars, [0x0A]⟩⟩

/-- An object that gives a count so many times, among entries that say nothing. -/
def strewnPayload (times : Nat) : Piece :=
  objectPiece (strayFields ++ (List.replicate times countField ++ strayFields))

theorem spells_strayFields : ∀ f ∈ strayFields, f.Spaced ∧ Spells f.value.tree f.value.text := by
  intro f hf
  simp only [strayFields, List.mem_cons, List.not_mem_nil, or_false] at hf
  rcases hf with rfl | rfl | rfl
  · exact ⟨⟨body_of_plain (by decide), by decide, by decide, by decide⟩, .emptyArray blank_nil⟩
  · exact ⟨⟨body_of_plain (by decide), by decide, by decide, by decide⟩, .wordNull⟩
  · exact ⟨⟨body_of_plain (by decide), by decide, by decide, by decide⟩, .wordNull⟩

theorem spells_countField : countField.Spaced ∧ Spells countField.value.tree countField.value.text := by
  have hkey : Body countField.key.toList :=
    .char (by decide) (by decide) (by decide) (.escape (body_of_plain (by decide)))
  exact ⟨⟨hkey, by decide, by decide, by decide⟩, spells_numeral (.natural ⟨rfl, rfl⟩ rfl rfl)⟩

theorem mem_strewn {times : Nat} {f : Field}
    (h : f ∈ strayFields ++ (List.replicate times countField ++ strayFields)) : f ∈ strayFields ∨ f = countField := by
  rcases List.mem_append.1 h with hf | hf
  · exact .inl hf
  · exact (List.mem_append.1 hf).symm.imp_right List.eq_of_mem_replicate

theorem spells_strewnPayload (times : Nat) : Spells (strewnPayload times).tree (strewnPayload times).text := by
  refine spells_objectPiece fun f hf => ?_
  rcases mem_strewn hf with hf | rfl
  · exact spells_strayFields f hf
  · exact spells_countField

def strewnEntries (times : Nat) : List (String × Tree) :=
  (strayFields ++ (List.replicate times countField ++ strayFields)).map Field.entry

theorem keys_strewnEntries (times : Nat) : ∀ e ∈ strewnEntries times, ∃ key, unescape e.1 = .ok key := by
  have hstray : ∀ e ∈ strayFields.map Field.entry, ∃ key, unescape e.1 = .ok key := by
    simp only [strayFields, List.map_cons, List.map_nil, List.forall_mem_cons]
    exact ⟨⟨"z", by cbv⟩, ⟨"count", by cbv⟩, ⟨"text", by cbv⟩, fun _ h => by cases h⟩
  intro e he
  obtain ⟨f, hf, rfl⟩ := List.mem_map.1 he
  rcases mem_strewn hf with hf | rfl
  · exact hstray _ (List.mem_map_of_mem hf)
  · exact ⟨"count", by cbv⟩

def countMember : Schema.Member RecordShape := RecordShape.optional "count" .int .body

theorem given_strewnEntries (times : Nat) : given (records.members .payload) (strewnEntries times) =
    List.replicate times ("count", .number (.natural 7)) := by
  have hstray : given (records.members .payload) (strayFields.map Field.entry) = [] := by cbv
  have hcount : ∀ entries, given (records.members .payload) (countField.entry :: entries) =
      ("count", .number (.natural 7)) :: given (records.members .payload) entries := fun entries =>
    given_known (by simp [countField]) (by cbv) (m := countMember) (by cbv)
  rw [strewnEntries, List.map_append, List.map_append, given_append, given_append, hstray, List.nil_append,
    List.append_nil, List.map_replicate]
  induction times with
  | zero => rfl
  | succ times ih => rw [List.replicate_succ, hcount, ih, List.replicate_succ]

/-- The token of the count, wherever it stands. -/
def countTokens : List Token := [⟨0, .number (.natural 7)⟩]

theorem read_countTokens :
    records.read .client countMember.target (countTokens.map .ok) = (.ok (some (.integer 7)), []) := by
  have hnumber : readInteger.Reads [.number (Number.ofInt 7)] (some 7) := reads_readInteger (by decide)
  have hreads : (records.read .client .int).Reads [.number (Number.ofInt 7)] (some (.integer 7)) := by
    refine Reader.Reads.rounds fun rounds hrounds => ?_
    obtain ⟨rounds, rfl⟩ := Nat.exists_eq_add_one_of_ne_zero (by omega : rounds ≠ 0)
    rw [Schema.readAt]
    exact hnumber.map fun o => o.map Draft.integer
  exact hreads countTokens [] rfl

theorem strewnPayload_read :
    (strewnPayload 1).bytes = Utf8.encode
      "\x7b\"z\"\t:[],\"count\":null, \"text\":null,\"c\\u006funt\":7\n,\"z\"\t:[],\"count\":null, \"text\":null\x7d" ∧
    ((strewnPayload 1).Spaced ∧ Spells (strewnPayload 1).tree (strewnPayload 1).text ∧
      (strewnPayload 1).tree.depth ≤ 128 ∧ (strewnPayload 1).tree = .object (strewnEntries 1) ∧
      ∀ e ∈ strewnEntries 1, ∃ key, unescape e.1 = .ok key) ∧
    (countMember ∈ records.members .payload ∧
      given (records.members .payload) (strewnEntries 1) = [(countMember.name, .number (.natural 7))] ∧
      countTokens.map Token.lexeme = (Tree.number (.natural 7)).lexemes ∧
      records.read .client countMember.target (countTokens.map .ok) = (.ok (some (.integer 7)), [])) ∧
    (∃ x, records.read .client .payload (tokenize (strewnPayload 1).bytes) = (.ok (some x), []) ∧
      IsVariant records .client countMember (.integer 7) x) ∧
    (∃ e, (records.read .server .payload (tokenize (strewnPayload 2).bytes)).1 = .error e) ∧
    records.read .client .payload (tokenize (strewnPayload 0).bytes) = (.ok (some (.built .unknown)), []) := by
  have hmember : countMember ∈ records.members .payload := .tail _ (.head _)
  have htokens : countTokens.map Token.lexeme = (Tree.number (.natural 7)).lexemes := by
    simp [countTokens, Tree.lexemes]
  have one := payload_exclusive .client (strewnPayload 1) (by decide) (spells_strewnPayload 1) (by decide) _ rfl
    (keys_strewnEntries 1)
  have two := payload_exclusive .server (strewnPayload 2) (by decide) (spells_strewnPayload 2) (by decide) _ rfl
    (keys_strewnEntries 2)
  have noCount := payload_exclusive .client (strewnPayload 0) (by decide) (spells_strewnPayload 0) (by decide) _ rfl
    (keys_strewnEntries 0)
  refine ⟨by decide, ⟨by decide, spells_strewnPayload 1, by decide, rfl, keys_strewnEntries 1⟩,
    ⟨hmember, given_strewnEntries 1, htokens, read_countTokens⟩, ?_, ?_, ?_⟩
  · exact one.1 countMember hmember _ (given_strewnEntries 1) countTokens _ htokens read_countTokens
  · exact two.2.1 (by rw [← strewnEntries, given_strewnEntries]; decide)
  · exact noCount.2.2 (given_strewnEntries 0)

end WireShapes
