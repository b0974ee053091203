import WireShapes.Proofs.Records.Validation
import WireShapes.Proofs.Schema.Exchange

/-!
Requests about records, from a client to a server.

* `routed_record`: the path of a record leads back to its id
* `Acceptable`: the texts of an input are as the model asks
* `records_request_exact`: a server takes exactly the input that the client sent, or names the first
  member that is not as the model asks; there is no other outcome
-/

namespace WireShapes

open Schema Http

namespace Records

/-- The operations that send no events. -/
def exchanges : List (Schema.Operation RecordShape) := [getRecord, putRecord]

theorem exchanges_subset {op : Schema.Operation RecordShape} (h : op ∈ exchanges) : op ∈ operations :=
  List.mem_append_left [subscribe, publish] h

theorem mem_members_exchange {op : Schema.Operation RecordShape} (h : op ∈ exchanges)
    {m : Schema.Member RecordShape} (hm : m ∈ records.members op.input) :
    m = RecordShape.idMember .label ∨ m = RecordShape.optional "verbose" .bool (.query "verbose") ∨
      m = RecordShape.optional "tags" .tags (.query "tag") ∨
      m = RecordShape.optional "trace" .string (.header "x-trace") ∨
      m = RecordShape.optional "title" .title .body := by
  simp only [exchanges, List.mem_cons, List.not_mem_nil, or_false] at h
  rcases h with rfl | rfl <;>
    simp only [Schema.members, records, RecordShape.shape, getRecord, putRecord, List.mem_cons,
      List.not_mem_nil, or_false] at hm <;> tauto

theorem uri_exchange {op : Schema.Operation RecordShape} (h : op ∈ exchanges) :
    op.uri = "/records/\x7bid\x7d" := by
  simp only [exchanges, List.mem_cons, List.not_mem_nil, or_false] at h
  rcases h with rfl | rfl <;> rfl

theorem apart_exchange {op : Schema.Operation RecordShape} (h : op ∈ exchanges) :
    Apart (records.members op.input) where
  placed m hm := by
    rcases mem_members_exchange h hm with rfl | rfl | rfl | rfl | rfl
    · exact .inl rfl
    · exact .inr (.inl ⟨_, rfl⟩)
    · exact .inr (.inl ⟨_, rfl⟩)
    · exact .inr (.inr (.inl ⟨_, rfl⟩))
    · exact .inr (.inr (.inr rfl))
  query := by
    simp only [exchanges, List.mem_cons, List.not_mem_nil, or_false] at h
    rcases h with rfl | rfl <;>
      simp [KeysApart, Schema.members, records, RecordShape.shape, getRecord, putRecord,
        RecordShape.idMember, RecordShape.optional]
  header := by
    simp only [exchanges, List.mem_cons, List.not_mem_nil, or_false] at h
    rcases h with rfl | rfl <;>
      simp [NamesApart, Schema.members, records, RecordShape.shape, getRecord, putRecord,
        RecordShape.idMember, RecordShape.optional]
  form m hm name hname := by
    rcases mem_members_exchange h hm with rfl | rfl | rfl | rfl | rfl <;> cases hname
    exact fieldName_ne (by decide)

/-! ### Paths -/

theorem uriPieces_record :
    uriPieces "/records/\x7bid\x7d" = [.literal "/records/", .label "id" false] := by
  with_unfolding_all rfl

theorem templateSegments_record :
    templateSegments "/records/\x7bid\x7d" = [.literal "records".toList, .label "id".toList] := by
  with_unfolding_all rfl

def recordPath (id : String) : String := "/records/" ++ Percent.encode id

theorem toList_recordPath (id : String) :
    (recordPath id).toList = '/' :: ("records".toList ++ '/' :: (Percent.encode id).toList) := by
  rw [recordPath, String.toList_append]
  rfl

theorem matchPath_recordPath {id : String} (h : (Percent.encode id).toList ≠ []) :
    matchPath "/records/\x7bid\x7d" (recordPath id) = some [("id", id)] := by
  have hparts : pathSegments (recordPath id).toList = ["records".toList, (Percent.encode id).toList] := by
    have hdrop : (recordPath id).toList.dropWhile (· == '/') =
        "records".toList ++ '/' :: (Percent.encode id).toList := by
      rw [toList_recordPath]
      rfl
    rw [pathSegments, hdrop, Text.splitOn_append (by decide),
      Text.splitOn_of_not_mem (separator_not_mem_encode id (by decide))]
  have hne : (Percent.encode id).toList.isEmpty = false := by simpa using h
  rw [matchPath, templateSegments_record, hparts]
  simp [matchSegments, hne, labelValue?_encode]

theorem writePath_record {v : Value} {id path : String} (hid : v.get? "id" = some (.text id))
    (h : writePath v (uriPieces "/records/\x7bid\x7d") = .ok path) :
    path = recordPath id ∧ (Percent.encode id).toList ≠ [] := by
  have hlabel : writeLabel (((v.get? "id").map Value.plain).getD "") false = Percent.encode id := by
    rw [hid]
    rfl
  simp only [uriPieces_record, writePath, hlabel] at h
  split at h
  · cases h
  · next hne =>
    have hpath : "/records/" ++ (Percent.encode id ++ "") = path := Except.ok.inj h
    rw [String.append_empty] at hpath
    exact ⟨hpath.symm, by simpa using hne⟩

/-- **The path of a record leads back to its id.** -/
theorem routed_record {op : Schema.Operation RecordShape} (hop : op ∈ exchanges) {v : Value} {id : String}
    (hid : v.get? "id" = some (.text id)) {path : String}
    (h : writePath v (uriPieces op.uri) = .ok path) : Routed records op v path := by
  rw [uri_exchange hop] at h
  obtain ⟨rfl, hne⟩ := writePath_record hid h
  have hclean : ∀ d ∈ ['?', '#'], d ∉ (recordPath id).toList := by
    intro d hd
    have hin : d ∈ ['/', '?', '#', '&', '='] := List.mem_cons_of_mem _ (List.mem_append_left ['&', '='] hd)
    have hplain : d ∉ '/' :: ("records".toList ++ ['/']) := by
      simp only [List.mem_cons, List.not_mem_nil, or_false] at hd
      rcases hd with rfl | rfl <;> decide
    rw [toList_recordPath, List.append_cons, ← List.cons_append, List.mem_append, not_or]
    exact ⟨hplain, separator_not_mem_encode id hin⟩
  refine ⟨by rw [toList_recordPath]; rfl, hclean _ (by decide), hclean _ (by decide), [("id", id)], ?_, ?_, ?_⟩
  · rw [uri_exchange hop, matchPath_recordPath hne]
  · intro l hl
    rw [List.mem_singleton.1 hl]
    exact ⟨.text id, hid, rfl⟩
  · intro m hm hplace
    rcases mem_members_exchange hop hm with rfl | rfl | rfl | rfl | rfl
    · exact List.mem_singleton.2 rfl
    all_goals cases hplace

/-! ### Inputs -/

/-- The texts of an input are as the model asks. -/
def Acceptable (members : List (Schema.Member RecordShape)) (v : Value) : Prop :=
  ∀ m ∈ members, ∀ s, v.get? m.name = some (.text s) → m.target.AllowsText s

/-- What a client gives for a member is as a server asks if its text is. -/
theorem meets_member {F : Flavour} (hF : F.checks = true) {op : Schema.Operation RecordShape}
    (hop : op ∈ exchanges) {m : Schema.Member RecordShape} (hm : m ∈ records.members op.input) {w : Value}
    (hw : Conforms records .client m.target w) (hallowed : ∀ s, w = .text s → m.target.AllowsText s) :
    Meets records F m.target (w.draft F) := by
  have text : ∀ {n : RecordShape} {rule : TextRule} {w : Value}, records.shape n = .text rule →
      Conforms records .client n w → (∀ s, w = .text s → n.AllowsText s) → Meets records F n (w.draft F) := by
    intro n rule w shape hw hallowed
    obtain ⟨s, rfl, -⟩ := hw.of_text shape
    exact (meets_text_iff hF n s).2 (hallowed s rfl)
  rcases mem_members_exchange hop hm with rfl | rfl | rfl | rfl | rfl
  · exact text rfl hw hallowed
  · obtain ⟨b, rfl⟩ := hw.of_boolean rfl
    exact .boolean rfl
  · have shape : records.shape .tags = .list .string := rfl
    obtain ⟨items, rfl, each⟩ := hw.of_list shape
    rw [Value.draft, itemDrafts_eq]
    refine .list shape fun d hd => ?_
    obtain ⟨u, hu, rfl⟩ := List.mem_map.1 hd
    exact text rfl (each u hu) fun _ _ => trivial
  · exact text rfl hw hallowed
  · exact text rfl hw hallowed

/-- What the parts of a request have to carry. -/
theorem portable_exchange {F : Flavour} {op : Schema.Operation RecordShape} (hop : op ∈ exchanges)
    {fields : List (String × Value)} (hv : Conforms records .client op.input (.struct fields))
    (htrace : ∀ s, Entries.get? "trace" fields = some (.text s) → Visible s)
    (htags : Entries.get? "tags" fields ≠ some (.list [])) :
    Portable records F (records.members op.input) fields := by
  obtain ⟨members, shape, order, -, each⟩ := hv.struct_inv
  obtain rfl := members_of_struct shape
  refine ⟨fun f hf => ?_, fun m hm key hkey => ?_, fun m hm name hname w hw => ?_,
    fun m hm hplace w hw => ?_⟩
  · obtain ⟨m, hm, -, hget⟩ := get?_of_mem_fields records_wellFormed shape order hf
    refine (each m hm _ hget).ne_stream ?_
    rcases mem_members_exchange hop hm with rfl | rfl | rfl | rfl | rfl <;> exact fun h => by cases h
  · intro hget
    rcases mem_members_exchange hop hm with rfl | rfl | rfl | rfl | rfl
    · cases hkey
    · obtain ⟨b, hb⟩ := (each _ hm _ hget).of_boolean rfl
      cases hb
    · exact htags hget
    · cases hkey
    · cases hkey
  · rcases mem_members_exchange hop hm with rfl | rfl | rfl | rfl | rfl <;> cases hname
    obtain ⟨s, rfl, -⟩ := (each _ hm w hw).of_text rfl
    exact htrace s hw
  · rcases mem_members_exchange hop hm with rfl | rfl | rfl | rfl | rfl <;> cases hplace
    obtain ⟨s, rfl, -⟩ := (each _ hm w hw).of_text rfl
    exact ⟨readsValue_text rfl s, .string, (by decide : 0 < Json.maxDepth)⟩

/-- The first member of a list whose text is not as the model asks. -/
theorem first_unacceptable {members : List (Schema.Member RecordShape)} {v : Value}
    (h : ¬Acceptable members v) :
    ∃ before m after s, members = before ++ m :: after ∧ Acceptable before v ∧
      v.get? m.name = some (.text s) ∧ ¬m.target.AllowsText s := by
  induction members with
  | nil => exact absurd (fun m hm => by simp at hm) h
  | cons a rest ih =>
    by_cases ha : ∀ s, v.get? a.name = some (.text s) → a.target.AllowsText s
    · have hrest : ¬Acceptable rest v := fun hall => h fun m hm => by
        rcases List.mem_cons.1 hm with rfl | hm
        · exact ha
        · exact hall m hm
      obtain ⟨before, m, after, s, rfl, hbefore, hget, hs⟩ := ih hrest
      refine ⟨a :: before, m, after, s, rfl, fun b hb => ?_, hget, hs⟩
      rcases List.mem_cons.1 hb with rfl | hb
      · exact ha
      · exact hbefore b hb
    · simp only [not_forall] at ha
      obtain ⟨s, hget, hs⟩ := ha
      exact ⟨[], a, rest, s, rfl, fun m hm => by simp at hm, hget, hs⟩

section Reading

variable {F : Flavour} {op : Schema.Operation RecordShape} {fields : List (String × Value)} {r : Request}

theorem idMember_mem (hop : op ∈ exchanges) : RecordShape.idMember .label ∈ records.members op.input := by
  simp only [exchanges, List.mem_cons, List.not_mem_nil, or_false] at hop
  rcases hop with rfl | rfl <;> exact List.mem_cons_self

theorem readRequest_exchange (hop : op ∈ exchanges)
    (hv : Conforms records .client op.input (.struct fields))
    (htrace : ∀ s, Entries.get? "trace" fields = some (.text s) → Visible s)
    (htags : Entries.get? "tags" fields ≠ some (.list []))
    (hr : writeRequest records op (.struct fields) = .ok r) :
    records.readRequest F op r =
      match records.build F op.input (.struct (fieldDrafts F fields)) with
      | .ok w => .ok w
      | .error e => .error (.violation e.message) := by
  obtain ⟨members, shape, -, standing, each⟩ := hv.struct_inv
  obtain rfl := members_of_struct shape
  have hmem := idMember_mem hop
  obtain ⟨w, hw⟩ := Option.isSome_iff_exists.1 (standing _ hmem (.inl rfl))
  obtain ⟨id, rfl, -⟩ := (each _ hmem w hw).of_text rfl
  have hid : Value.get? "id" (.struct fields) = some (.text id) := hw
  exact readRequest_written records_wellFormed (operation_bound (exchanges_subset hop))
    (apart_exchange hop) hv (portable_exchange hop hv htrace htags)
    (fun _ hpath => routed_record hop hid hpath) hr

/-- The members that come before any that is not as the model asks are built. -/
theorem members_built (hF : F.checks = true) (hop : op ∈ exchanges)
    (hv : Conforms records .client op.input (.struct fields)) {m : Schema.Member RecordShape}
    (hm : m ∈ records.members op.input)
    (hallowed : ∀ s, Entries.get? m.name fields = some (.text s) → m.target.AllowsText s) :
    (∀ d, Entries.get? m.name (fieldDrafts F fields) = some d → Meets records F m.target d) ∧
      (m.required = true → m.default = none →
        (Entries.get? m.name (fieldDrafts F fields)).isSome = true) := by
  obtain ⟨members, shape, -, standing, each⟩ := hv.struct_inv
  obtain rfl := members_of_struct shape
  rw [get?_fieldDrafts, Option.isSome_map]
  refine ⟨fun d hd => ?_, fun hreq _ => standing m hm (.inl hreq)⟩
  obtain ⟨w, hw, rfl⟩ := Option.map_eq_some_iff.1 hd
  exact meets_member hF hop hm (each m hm w hw) fun s hs => hallowed s (hs ▸ hw)

/-- An input whose texts are as the model asks is built, with nothing added or lost. -/
theorem build_acceptable (hF : F.checks = true) (hop : op ∈ exchanges)
    (hv : Conforms records .client op.input (.struct fields))
    (h : Acceptable (records.members op.input) (.struct fields)) :
    ∃ w, records.build F op.input (.struct (fieldDrafts F fields)) = .ok w ∧ w.bare = .struct fields := by
  obtain ⟨members, shape⟩ := input_struct (exchanges_subset hop)
  obtain rfl := members_of_struct shape
  have hbuilt := fun m hm => members_built hF hop hv hm (h m hm)
  have hmeets : Meets records F op.input (.struct (fieldDrafts F fields)) :=
    .struct shape (fun m hm => (hbuilt m hm).2) fun m hm => (hbuilt m hm).1
  obtain ⟨w, hw, -⟩ := hmeets.build_holds records_wellFormed
  refine ⟨w, hw, hv.bare_of_build records_wellFormed hF ?_⟩
  rw [Value.draft, finished_of_checks hF]
  exact hw

theorem build_unacceptable (hF : F.checks = true) (hop : op ∈ exchanges)
    (hv : Conforms records .client op.input (.struct fields))
    {before after : List (Schema.Member RecordShape)} {m : Schema.Member RecordShape} {s : String}
    (hsplit : records.members op.input = before ++ m :: after) (hbefore : Acceptable before (.struct fields))
    (hget : Entries.get? m.name fields = some (.text s)) (hs : ¬m.target.AllowsText s) :
    ∃ rule e, records.shape m.target = .text rule ∧
      textViolation? rule (records.shapeId m.target) s = some e ∧
      records.build F op.input (.struct (fieldDrafts F fields)) = .error (.member m.name e) := by
  obtain ⟨members, shape, -, -, each⟩ := hv.struct_inv
  obtain rfl := members_of_struct shape
  obtain ⟨rule, hrule⟩ := (each m (by rw [hsplit]; simp) _ hget).text_inv
  cases he : textViolation? rule (records.shapeId m.target) s with
  | none =>
    have hmeets : Meets records F m.target (.text s) :=
      .text hrule fun _ => (textViolation?_eq_none_iff rule _ s).1 he
    exact absurd ((meets_text_iff hF _ s).1 hmeets) hs
  | some e =>
    refine ⟨rule, e, hrule, he, ?_⟩
    have hfails : records.build F m.target (.text s) = .error e := by
      rw [build, checkText, hrule]
      simp [checked, hF, he]
    refine build_struct_eq_error records_wellFormed (hsplit ▸ shape) (fun a ha => ?_) ?_ hfails
    · have hmem : a ∈ records.members op.input := hsplit ▸ List.mem_append_left _ ha
      obtain ⟨hmeets, hneeded⟩ := members_built (F := F) hF hop hv hmem (hbefore a ha)
      refine ⟨fun d hd => ?_, hneeded⟩
      obtain ⟨w, hw, -⟩ := (hmeets d hd).build_holds records_wellFormed
      exact ⟨w, hw⟩
    · rw [get?_fieldDrafts, hget]
      rfl

end Reading

end Records

open Records

/-- **A server takes exactly the input that the client sent, or names the first member that is not as
the model asks.** -/
theorem records_request_exact {F : Flavour} (hF : F.checks = true) {op : Schema.Operation RecordShape}
    (hop : op ∈ [getRecord, putRecord]) {v : Value} (hv : Conforms records .client op.input v)
    (htrace : ∀ s, v.get? "trace" = some (.text s) → Visible s)
    (htags : v.get? "tags" ≠ some (.list [])) {r : Request} (hr : writeRequest records op v = .ok r) :
    (Acceptable (records.members op.input) v →
      ∃ w, records.readRequest F op r = .ok w ∧ Conforms records F op.input w ∧ w.bare = v) ∧
    (¬Acceptable (records.members op.input) v →
      ∃ before m after s rule e, records.members op.input = before ++ m :: after ∧ Acceptable before v ∧
        v.get? m.name = some (.text s) ∧ records.shape m.target = .text rule ∧
        textViolation? rule (records.shapeId m.target) s = some e ∧
        records.readRequest F op r = .error (.violation (Violation.member m.name e).message)) := by
  obtain ⟨members, shape⟩ := input_struct (exchanges_subset hop)
  obtain ⟨fields, rfl⟩ := hv.of_struct shape
  have hread := readRequest_exchange (F := F) hop hv htrace htags hr
  refine ⟨fun h => ?_, fun h => ?_⟩
  · obtain ⟨w, hbuilt, hbare⟩ := build_acceptable hF hop hv h
    rw [hbuilt] at hread
    exact ⟨w, hread, conforms_of_readRequest records_wellFormed (operation_bound (exchanges_subset hop))
      shape hread, hbare⟩
  · obtain ⟨before, m, after, s, hsplit, hbefore, hget, hs⟩ := first_unacceptable h
    obtain ⟨rule, e, hrule, he, hbuilt⟩ := build_unacceptable hF hop hv hsplit hbefore hget hs
    rw [hbuilt] at hread
    exact ⟨before, m, after, s, rule, e, hsplit, hbefore, hget, hrule, he, hread⟩

/-- An input with texts that have to be escaped in the query and in the body. -/
def taggedInput : Value :=
  .struct [("id", .text "abc"), ("tags", .list [.text "a&b=c", .text ""]), ("trace", .text "t 1"),
    ("title", .text "é\"?")]

def taggedRequest : Request :=
  ⟨"PUT", "/records/abc?tag=a%26b%3Dc&tag=",
    [("x-trace", Utf8.encode "t 1"), ("content-type", Utf8.encode "application/json")],
    Utf8.encode "\x7b\"title\":\"é\\\"?\"\x7d"⟩

theorem conforms_taggedInput : Conforms records .client .putRecordInput taggedInput := by
  have text : ∀ (n : RecordShape) rule s, records.shape n = .text rule →
      Conforms records .client n (.text s) := fun n rule s shape =>
    .text shape rfl fun h => by cases h
  refine .struct rfl (by decide) (by decide) fun m hm v hv => ?_
  simp only [List.mem_cons, List.not_mem_nil, or_false] at hm
  rcases hm with rfl | rfl | rfl | rfl <;> cases hv
  · exact text .id _ _ rfl
  · refine .list rfl fun v hv => ?_
    simp only [List.mem_cons, List.not_mem_nil, or_false] at hv
    rcases hv with rfl | rfl
    · exact text .string _ _ rfl
    · exact text .string _ _ rfl
  · exact text .string _ _ rfl
  · exact text .title _ _ rfl

theorem writeRequest_tagged : writeRequest records putRecord taggedInput = .ok taggedRequest := by
  with_unfolding_all rfl

theorem taggedInput_acceptable : Acceptable (records.members .putRecordInput) taggedInput := by
  intro m hm s hs
  simp only [Schema.members, records, RecordShape.shape, List.mem_cons, List.not_mem_nil, or_false] at hm
  rcases hm with rfl | rfl | rfl | rfl <;> cases hs
  · exact ⟨by decide, by simp⟩
  · trivial
  · exact ⟨by decide, by decide⟩

theorem taggedInput_exchanged : writeRequest records putRecord taggedInput = .ok taggedRequest ∧
    ∃ w, records.readRequest .server putRecord taggedRequest = .ok w ∧
      Conforms records .server .putRecordInput w ∧ w.bare = taggedInput :=
  ⟨writeRequest_tagged, (records_request_exact rfl (by simp) conforms_taggedInput
    (fun s hs => by cases hs; exact ⟨by decide, by simp⟩) (by simp [taggedInput, Value.get?, Entries.get?])
    writeRequest_tagged).1 taggedInput_acceptable⟩

end WireShapes
