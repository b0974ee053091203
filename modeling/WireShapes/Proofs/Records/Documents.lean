import Mathlib
import WireShapes.Proofs.Json.Documents
import WireShapes.Proofs.Json.Positions
import WireShapes.Proofs.Records.Validation
import WireShapes.Proofs.Schema.Leniency
import WireShapes.Proofs.Schema.RoundTrip

/-!
Texts of the documents of the records service.

* `RecordShape.Documentary`: the shapes whose values have neither streams nor bytes in them
* `records_documents`: they refer to each other only
* `records_decode_toJson`: the text of a value of one of the service's documents stands for the value
* `records_servers_agree`: both kinds of servers make the same of any text
* `records_client_accepts`: a client takes every text that a server takes
* `records_readers_extent`: wherever readers start in a text, they take exactly one value
-/

namespace WireShapes

open Json Schema

/-! ### What is written and read -/

/-- The values of the shape have neither streams nor bytes in them. -/
def RecordShape.Documentary (n : RecordShape) : Prop :=
  n ∉ [bytes, recordEvents, subscribeOutput, publishInput, recordArchived]

instance (n : RecordShape) : Decidable n.Documentary := inferInstanceAs (Decidable (¬_))

theorem records_documents : DocumentClass records RecordShape.Documentary where
  member n hn := by
    revert hn
    cases n <;> decide
  item n inner hn hshape := by
    cases n <;> cases hshape <;> decide
  solid n hn := by
    revert hn
    cases n <;> simp [RecordShape.Documentary, records, RecordShape.shape]

theorem RecordShape.documentary_of_mem {n : RecordShape}
    (h : n ∈ [RecordShape.item, .record, .node, .linked, .payload]) : n.Documentary := by
  revert h
  cases n <;> decide

/-- **What is written for an item, a record, a node, a chain of links or a payload is read as the same
value**, on either side of the wire and whatever its texts are, and no token is left. A client's value
is any that has what it needs, a server's any that keeps the rules. -/
theorem records_decode_toJson (F : Flavour) (n : RecordShape)
    (hn : n ∈ [RecordShape.item, .record, .node, .linked, .payload]) (v : Value)
    (hv : Conforms records F n v) (hdepth : v.toNode.tree.depth ≤ 128) :
    records.decode F n (Utf8.encode v.toJson) = .ok (some v, []) :=
  hv.decode_toJson records_wellFormed records_documents (RecordShape.documentary_of_mem hn) hdepth

/-- A tree of two nodes with a quote, a control character and an emoji in their texts. -/
def twoNodes : Value :=
  .struct [("value", .text "a\"b\x01"), ("children", .list [.struct [("value", .text "😀")]])]

theorem conforms_twoNodes : Conforms records .server .node twoNodes := by
  have text : ∀ s, Conforms records .server .string (.text s) := fun s =>
    .text rfl rfl fun _ => admits_free s
  refine .struct rfl (by decide) (by decide) fun m hm v hv => ?_
  simp only [List.mem_cons, List.not_mem_nil, or_false] at hm
  rcases hm with rfl | rfl <;> cases hv
  · exact text _
  · refine .list rfl fun v hv => ?_
    rw [List.mem_singleton.1 hv]
    refine .struct rfl (by decide) (by decide) fun m hm v hv => ?_
    simp only [List.mem_cons, List.not_mem_nil, or_false] at hm
    rcases hm with rfl | rfl <;> cases hv
    exact text _

theorem twoNodes_round_trip : Conforms records .server .node twoNodes ∧ twoNodes.toNode.tree.depth = 3 ∧
    records.decode .server .node (Utf8.encode twoNodes.toJson) = .ok (some twoNodes, []) :=
  ⟨conforms_twoNodes, rfl, records_decode_toJson .server .node (by decide) twoNodes conforms_twoNodes
    (by decide)⟩

/-! ### What different sides make of a text -/

/-- **Both kinds of servers make the same of any text**: the same failure to read it, the same violation
on the same way to it, or values that are written the same. -/
theorem records_servers_agree (n : RecordShape)
    (hn : n ∈ [RecordShape.item, .record, .node, .linked, .payload]) (text : List UInt8) :
    (∃ e, records.decode .server n text = .error e ∧ records.decode .internal n text = .error e) ∨
      ∃ v w rest, records.decode .server n text = .ok (v, rest) ∧
        records.decode .internal n text = .ok (w, rest) ∧ v.map Value.toJson = w.map Value.toJson :=
  decode_of_checks records_wellFormed records_documents rfl rfl (RecordShape.documentary_of_mem hn) text

/-- An id with a capital in it: no server takes it. -/
def capitalItem : List UInt8 := Utf8.encode "\x7b\"id\":\"Ab\"\x7d"

theorem capitalItem_alike : RecordShape.item ∈ [RecordShape.item, .record, .node, .linked, .payload] ∧
    ((∃ e, records.decode .server .item capitalItem = .error e ∧
      records.decode .internal .item capitalItem = .error e) ∨
      ∃ v w rest, records.decode .server .item capitalItem = .ok (v, rest) ∧
        records.decode .internal .item capitalItem = .ok (w, rest) ∧
        v.map Value.toJson = w.map Value.toJson) :=
  ⟨by decide, records_servers_agree .item (by decide) capitalItem⟩

/-- **A client takes every text that a server takes**, unless an object in it repeats a key, and what
both hold is written the same. The value at the start of the text counts; whatever comes after it is left
by both. -/
theorem records_client_accepts (F : Flavour) (hF : F.checks = true) (n : RecordShape)
    (hn : n ∈ [RecordShape.item, .record, .node, .linked, .payload]) (text : List UInt8)
    (distinct : ∀ t, StartsWith text t → t.DistinctKeys) (v : Option Value) (rest : Tokens)
    (h : records.decode F n text = .ok (v, rest)) :
    ∃ w, records.decode .client n text = .ok (w, rest) ∧ w.map Value.toJson = v.map Value.toJson :=
  decode_client records_wellFormed records_documents hF (RecordShape.documentary_of_mem hn) distinct h

/-- An item as a server holds it. -/
def taggedItem : Value := .struct [("id", .constrained (.text "ab")), ("tags", .list [.text "x\"y"])]

theorem conforms_taggedItem : Conforms records .server .item taggedItem := by
  refine .struct rfl (by decide) (by decide) fun m hm v hv => ?_
  simp only [List.mem_cons, List.not_mem_nil, or_false] at hm
  rcases hm with rfl | rfl <;> cases hv
  · exact .text rfl rfl fun _ => (admits_id_iff "ab").2 ⟨by decide, by simp⟩
  · refine .list rfl fun v hv => ?_
    rw [List.mem_singleton.1 hv]
    exact .text rfl rfl fun _ => admits_free _

theorem distinctKeys_taggedItem (t : Tree) (h : StartsWith (Utf8.encode taggedItem.toJson) t) :
    t.DistinctKeys :=
  h.unique (conforms_taggedItem.startsWith_toJson records_wellFormed (by decide)) ▸
    conforms_taggedItem.distinctKeys records_wellFormed

theorem decode_taggedItem :
    records.decode .server .item (Utf8.encode taggedItem.toJson) = .ok (some taggedItem, []) :=
  conforms_taggedItem.decode_toJson records_wellFormed records_documents (by decide) (by decide)

theorem taggedItem_accepted : Flavour.server.checks = true ∧
    RecordShape.item ∈ [RecordShape.item, .record, .node, .linked, .payload] ∧
    (∀ t, StartsWith (Utf8.encode taggedItem.toJson) t → t.DistinctKeys) ∧
    records.decode .server .item (Utf8.encode taggedItem.toJson) = .ok (some taggedItem, []) ∧
    ∃ w, records.decode .client .item (Utf8.encode taggedItem.toJson) = .ok (w, []) ∧
      w.map Value.toJson = some taggedItem.toJson :=
  ⟨rfl, by decide, distinctKeys_taggedItem, decode_taggedItem,
    records_client_accepts .server rfl .item (by decide) _ distinctKeys_taggedItem (some taggedItem) []
      decode_taggedItem⟩

/-! ### How far readers read -/

/-- **Wherever a reader starts in a text, it takes exactly one value**: readers of documents, and of
items, records, nodes, chains of links and payloads on all sides, take the tokens that would be skipped
in their place. From between two entries of a container, what is skipped goes up to the end of that
container. -/
theorem records_readers_extent (text : List UInt8) (ts : Tokens) (position : ts <:+ tokenize text) :
    (∀ (d : Document) (rest : Tokens), Reader.document ts = (.ok d, rest) → OneValue ts rest) ∧
    (∀ (F : Flavour) (n : RecordShape), n ∈ [RecordShape.item, .record, .node, .linked, .payload] →
      ∀ (o : Option Draft) (rest : Tokens), records.read F n ts = (.ok o, rest) → OneValue ts rest) ∧
    ∀ (opened : List Token) (inner : Tokens) (ys : List Lexeme), ts = opened.map .ok ++ inner →
      Cut (opened.map Token.lexeme) ys → ∀ rest : Tokens,
        Reader.skipToEnd inner = (.ok (), rest) ↔ ∃ closing : List Token,
          inner = closing.map .ok ++ rest ∧ Cut (opened.map Token.lexeme) (closing.map Token.lexeme) := by
  refine ⟨fun d rest h => ?_, fun F n hn o rest h => ?_, fun opened inner ys hts hopened rest => ?_⟩
  · exact oneValue_of_skipValue position (skips_document ts d rest h)
  · have hsolid := (records_documents.solid n (RecordShape.documentary_of_mem hn)).2
    exact oneValue_of_skipValue position (skips_readAt _ hsolid ts o rest h)
  · exact skipToEnd_iff (hts ▸ position) hopened rest

/-- An item in an array, in which an entry of an unknown key comes first. -/
def nestedItem : List UInt8 := Utf8.encode "[\x7b\"x\":[\x7b\x7d],\"id\":\"ab\"\x7d,2]"

def itemTokens : List Token :=
  [⟨1, .startObject⟩, ⟨2, .key "x"⟩, ⟨6, .startArray⟩, ⟨7, .startObject⟩, ⟨8, .endObject⟩, ⟨9, .endArray⟩,
    ⟨11, .key "id"⟩, ⟨16, .string "ab"⟩, ⟨20, .endObject⟩]

def closingTokens : List Token := [⟨22, .number (.natural 2)⟩, ⟨23, .endArray⟩]

theorem tokenize_nestedItem :
    tokenize nestedItem = ((⟨0, .startArray⟩ :: itemTokens) ++ closingTokens).map .ok := by
  decide +kernel

theorem read_itemTokens : records.read .server .item ((itemTokens ++ closingTokens).map .ok) =
    (.ok (some (.struct [("id", .text "ab")])), closingTokens.map .ok) := by
  cbv

theorem cut_itemTokens (left : List Tree) :
    Cut ((⟨0, .startArray⟩ :: itemTokens).map Token.lexeme) (itemLexemes left ++ [.endArray]) :=
  .array [.object [("x", .array [.object []]), ("id", .string "ab")]] left

theorem nestedItem_extent : (itemTokens ++ closingTokens).map .ok <:+ tokenize nestedItem ∧
    RecordShape.item ∈ [RecordShape.item, .record, .node, .linked, .payload] ∧
    records.read .server .item ((itemTokens ++ closingTokens).map .ok) =
      (.ok (some (.struct [("id", .text "ab")])), closingTokens.map .ok) ∧
    OneValue ((itemTokens ++ closingTokens).map .ok) (closingTokens.map .ok) ∧
    Reader.skipToEnd (closingTokens.map .ok) = (.ok (), []) := by
  have hitem : (itemTokens ++ closingTokens).map .ok <:+ tokenize nestedItem :=
    ⟨[.ok ⟨0, .startArray⟩], tokenize_nestedItem.symm⟩
  refine ⟨hitem, by decide, read_itemTokens,
    (records_readers_extent nestedItem _ hitem).2.1 .server .item (by decide) _ _ read_itemTokens,
    ((records_readers_extent nestedItem (tokenize nestedItem) List.suffix_rfl).2.2
      (⟨0, .startArray⟩ :: itemTokens) _ _ ?_ (cut_itemTokens []) []).2 ⟨closingTokens, by simp, ?_⟩⟩
  · rw [tokenize_nestedItem, List.map_append]
  · exact cut_itemTokens [.number (.natural 2)]

end WireShapes
