import Mathlib
import WireShapes.Proofs.Records.Documents
import WireShapes.Proofs.Schema.Order

/-!
What the readers of the records service do not look at.

* `records_read_alike`: the order of entries, blanks, the spelling of keys and entries of unknown keys
-/

namespace WireShapes

open Json Schema

/-- **Readers look at the members that they know and at nothing else**: of two texts whose values give the
same members, in whatever order and spelling and among whatever other entries, both are read if one is, as
the same draft but for the order of fields, and the same becomes of both. -/
theorem records_read_alike (F : Flavour) (n : RecordShape)
    (hn : n ∈ [RecordShape.item, .record, .node, .linked, .payload]) (p p' : Piece) (spaced : p.Spaced)
    (spaced' : p'.Spaced) (text : Spells p.tree p.text) (text' : Spells p'.tree p'.text)
    (depth : p.tree.depth ≤ 128) (depth' : p'.tree.depth ≤ 128) (alike : Alike records n p.tree p'.tree)
    (o : Option Draft) (rest : Tokens) (h : records.read F n (tokenize p.bytes) = (.ok o, rest)) :
    ∃ o', records.read F n (tokenize p'.bytes) = (.ok o', rest) ∧ Option.Rel Draft.Same o o' ∧
      records.decode F n p'.bytes = records.decode F n p.bytes := by
  obtain ⟨toks, hlex, htoks⟩ := tokenize_of_piece spaced text depth
  obtain ⟨toks', hlex', htoks'⟩ := tokenize_of_piece spaced' text' depth'
  have hread := h
  rw [htoks, ← List.append_nil (toks.map _)] at hread
  obtain ⟨rfl, o', ho', hsame⟩ :=
    alike.reads records_documents (RecordShape.documentary_of_mem hn) hlex hread
  have hread' : records.read F n (tokenize p'.bytes) = (.ok o', []) := by
    rw [htoks', ← List.append_nil (toks'.map _)]
    exact ho' toks' [] hlex'
  exact ⟨o', hread', hsame, decode_of_same hsame h hread'⟩

/-- An object without blanks around it. -/
def objectPiece (fields : List Field) : Piece :=
  ⟨[], .object (fields.map Field.entry), 0x7B :: (commaed (fields.map Field.bytes) ++ [0x7D]), []⟩

theorem spells_objectPiece {first : Field} {fields : List Field}
    (h : ∀ f ∈ first :: fields, f.Spaced ∧ Spells f.value.tree f.value.text) :
    Spells (objectPiece (first :: fields)).tree (objectPiece (first :: fields)).text :=
  .object (fun f hf => (h f hf).1) fun f hf => (h f hf).2

def idField : Field := ⟨[], "id", [], ⟨[], .string "ab", literal "ab", []⟩⟩

def tagsField : Field := ⟨[0x20], "tags", [], ⟨[0x0A], .array [], [0x5B, 0x5D], []⟩⟩

/-- A record as a payload. -/
def plainPayload : Piece := objectPiece [⟨[], "record", [], objectPiece [idField, tagsField]⟩]

/-- The same record in another order, with another spelling of a key and after another entry. -/
def spelledPayload : Piece :=
  objectPiece [⟨[], "z", [0x09], ⟨[], .array [], [0x5B, 0x5D], []⟩⟩,
    ⟨[], "\\u0072ecord", [], objectPiece [tagsField, idField]⟩]

theorem spells_idField : idField.Spaced ∧ Spells idField.value.tree idField.value.text :=
  ⟨⟨body_of_plain (by decide), by decide, by decide, by decide⟩, .string (body_of_plain (by decide))⟩

theorem spells_tagsField : tagsField.Spaced ∧ Spells tagsField.value.tree tagsField.value.text :=
  ⟨⟨body_of_plain (by decide), by decide, by decide, by decide⟩, .emptyArray blank_nil⟩

theorem spells_plainPayload : Spells plainPayload.tree plainPayload.text := by
  refine spells_objectPiece fun f hf => ?_
  rw [List.mem_singleton.1 hf]
  refine ⟨⟨body_of_plain (by decide), by decide, by decide, by decide⟩, ?_⟩
  exact spells_objectPiece (by simp [spells_idField, spells_tagsField])

theorem spells_spelledPayload : Spells spelledPayload.tree spelledPayload.text := by
  refine spells_objectPiece fun f hf => ?_
  simp only [List.mem_cons, List.not_mem_nil, or_false] at hf
  rcases hf with rfl | rfl
  · exact ⟨⟨body_of_plain (by decide), by decide, by decide, by decide⟩, .emptyArray blank_nil⟩
  · refine ⟨⟨.escape (body_of_plain (by decide)), by decide, by decide, by decide⟩, ?_⟩
    exact spells_objectPiece (by simp [spells_idField, spells_tagsField])

theorem recognized_record (u v : Tree) :
    recognized (records.members .record) [("id", u), ("tags", v)] = [("id", u), ("tags", v)] ∧
      recognized (records.members .record) [("tags", v), ("id", u)] = [("tags", v), ("id", u)] := by
  cbv

theorem recognized_payload (t u : Tree) :
    recognized (records.members .payload) [("record", t)] = [("record", t)] ∧
      recognized (records.members .payload) [("z", u), ("\\u0072ecord", t)] = [("record", t)] := by
  cbv

theorem alike_record (u v : Tree) :
    Alike records .record (.object [("id", u), ("tags", v)]) (.object [("tags", v), ("id", u)]) := by
  have shape : records.shape .record = .struct (records.members .record) := rfl
  refine alike_of_perm (.inl shape) (orderly_of_nodup ["id", "tags"] (by cbv) (by decide))
    (orderly_of_nodup ["tags", "id"] (by cbv) (by decide)) ?_
  rw [(recognized_record u v).1, (recognized_record u v).2]
  exact .swap _ _ []

theorem alike_payload {t t' : Tree} (h : Alike records .record t t') (u : Tree) :
    Alike records .payload (.object [("record", t)]) (.object [("z", u), ("\\u0072ecord", t')]) := by
  have shape : records.shape .payload = .union (records.members .payload) := rfl
  refine .object (.inr shape) (orderly_of_nodup ["record"] (by cbv) (by decide))
    (orderly_of_nodup ["z", "record"] (by cbv) (by decide)) (fun name => ?_) fun m hm x x' hx hx' => ?_
  · rw [(recognized_payload t u).1, (recognized_payload t' u).2]
    simp
  · rw [(recognized_payload t u).1, List.mem_singleton, Prod.mk.injEq] at hx
    rw [(recognized_payload t' u).2, List.mem_singleton, Prod.mk.injEq] at hx'
    obtain ⟨hname, rfl⟩ := hx
    obtain ⟨-, rfl⟩ := hx'
    have htarget : ∀ m ∈ records.members .payload, m.name = "record" → m.target = .record := by decide
    rw [htarget m hm hname]
    exact h

def payloadTokens : List Token :=
  [⟨0, .startObject⟩, ⟨1, .key "record"⟩, ⟨10, .startObject⟩, ⟨11, .key "id"⟩, ⟨16, .string "ab"⟩,
    ⟨22, .key "tags"⟩, ⟨30, .startArray⟩, ⟨31, .endArray⟩, ⟨32, .endObject⟩, ⟨33, .endObject⟩]

theorem tokenize_plainPayload : tokenize plainPayload.bytes = payloadTokens.map .ok := by
  decide +kernel

/-- What a server reads of the record. -/
def payloadDraft : Draft := .variant "record" (.struct [("id", .text "ab"), ("tags", .list [])])

theorem read_plainPayload :
    records.read .server .payload (tokenize plainPayload.bytes) = (.ok (some payloadDraft), []) := by
  rw [tokenize_plainPayload]
  cbv

theorem spelledPayload_read :
    plainPayload.bytes = Utf8.encode "\x7b\"record\":\x7b\"id\":\"ab\", \"tags\":\n[]\x7d\x7d" ∧
    spelledPayload.bytes =
      Utf8.encode "\x7b\"z\"\t:[],\"\\u0072ecord\":\x7b \"tags\":\n[],\"id\":\"ab\"\x7d\x7d" ∧
    RecordShape.payload ∈ [RecordShape.item, .record, .node, .linked, .payload] ∧
    (plainPayload.Spaced ∧ Spells plainPayload.tree plainPayload.text ∧ plainPayload.tree.depth ≤ 128) ∧
    (spelledPayload.Spaced ∧ Spells spelledPayload.tree spelledPayload.text ∧
      spelledPayload.tree.depth ≤ 128) ∧
    Alike records .payload plainPayload.tree spelledPayload.tree ∧
    records.read .server .payload (tokenize plainPayload.bytes) = (.ok (some payloadDraft), []) ∧
    ∃ o, records.read .server .payload (tokenize spelledPayload.bytes) = (.ok o, []) ∧
      Option.Rel Draft.Same (some payloadDraft) o ∧
      records.decode .server .payload spelledPayload.bytes =
        records.decode .server .payload plainPayload.bytes := by
  have alike : Alike records .payload plainPayload.tree spelledPayload.tree :=
    alike_payload (alike_record (.string "ab") (.array [])) (.array [])
  exact ⟨by decide, by decide, by decide, ⟨by decide, spells_plainPayload, by decide⟩,
    ⟨by decide, spells_spelledPayload, by decide⟩, alike, read_plainPayload,
    records_read_alike .server .payload (by decide) plainPayload spelledPayload (by decide) (by decide)
      spells_plainPayload spells_spelledPayload (by decide) (by decide) alike _ _ read_plainPayload⟩

end WireShapes
