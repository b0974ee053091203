import WireShapes.Proofs.ErrorBody
import WireShapes.Proofs.Records.Documents
import WireShapes.Proofs.Schema.Exchange

/-!
Responses about records, from a server to a client.

* `rank`: how deep the values of the shapes in the body of a response go
* `readParts_record`: a client reads from the parts of a response what a server wrote into them
* `records_response_exact`: outputs and errors reach the client as the server meant them
-/

namespace WireShapes

open Schema Http

namespace Records

/-! ### The shapes of responses -/

/-- The outputs that are no streams, and the error. -/
def answers : List RecordShape := [.getRecordOutput, .putRecordOutput, .recordNotFound]

theorem mem_members_answer {n : RecordShape} (h : n ∈ answers) {m : Schema.Member RecordShape}
    (hm : m ∈ records.members n) :
    m = RecordShape.optional "record" .record .body ∨ m = RecordShape.optional "etag" .string (.header "etag") ∨
      m = RecordShape.optional "created" .bool .body ∨ m = RecordShape.optional "message" .string .body := by
  simp only [answers, List.mem_cons, List.not_mem_nil, or_false] at h
  rcases h with rfl | rfl | rfl <;>
    simp only [Schema.members, records, RecordShape.shape, List.mem_cons, List.not_mem_nil, or_false]
      at hm <;> tauto

theorem answer_struct {n : RecordShape} (h : n ∈ answers) : ∃ members, records.shape n = .struct members := by
  simp only [answers, List.mem_cons, List.not_mem_nil, or_false] at h
  rcases h with rfl | rfl | rfl <;> exact ⟨_, rfl⟩

theorem documentary_answer {n : RecordShape} (h : n ∈ answers) : n.Documentary := by
  revert h
  cases n <;> decide

theorem answerable {n : RecordShape} (h : n ∈ answers) : Answerable records n where
  apart := {
    placed := fun m hm => by
      rcases mem_members_answer h hm with rfl | rfl | rfl | rfl
      · exact .inr (.inr (.inr rfl))
      · exact .inr (.inr (.inl ⟨_, rfl⟩))
      · exact .inr (.inr (.inr rfl))
      · exact .inr (.inr (.inr rfl))
    query := by
      simp only [answers, List.mem_cons, List.not_mem_nil, or_false] at h
      rcases h with rfl | rfl | rfl <;>
        simp [KeysApart, Schema.members, records, RecordShape.shape, RecordShape.optional]
    header := by
      simp only [answers, List.mem_cons, List.not_mem_nil, or_false] at h
      rcases h with rfl | rfl | rfl <;>
        simp [NamesApart, Schema.members, records, RecordShape.shape, RecordShape.optional]
    form := fun m hm name hname => by
      rcases mem_members_answer h hm with rfl | rfl | rfl | rfl <;> cases hname
      exact fieldName_ne (by decide) }
  placed m hm := by
    rcases mem_members_answer h hm with rfl | rfl | rfl | rfl
    · exact .inr rfl
    · exact .inl ⟨_, rfl⟩
    · exact .inr rfl
    · exact .inr rfl
  header m hm name hname := by
    rcases mem_members_answer h hm with rfl | rfl | rfl | rfl <;> cases hname
    exact .inl (.inl ⟨_, rfl⟩)

/-- How deep the values of the shapes in the body of a response go. -/
def rank : RecordShape → Nat
  | .record => 2
  | .tags => 1
  | _ => 0

/-- The shapes in the body of a response. -/
def Bodily (n : RecordShape) : Prop :=
  n ∈ [RecordShape.record, .tags, .string, .bool, .id, .title, .status, .priority]

instance (n : RecordShape) : Decidable (Bodily n) := inferInstanceAs (Decidable (n ∈ _))

theorem records_ranked : Ranked records Bodily rank where
  member n hn := by
    revert hn
    cases n <;> decide
  item n inner hn hshape := by
    revert hn
    cases n <;> cases hshape <;> decide

theorem depth_answer {F : Flavour} {n : RecordShape} (h : n ∈ answers) {m : Schema.Member RecordShape}
    (hm : m ∈ records.members n) {w : Value} (hw : Conforms records F m.target w) :
    w.toNode.tree.depth < Json.maxDepth := by
  have hbodily : Bodily m.target ∧ rank m.target + 1 < Json.maxDepth := by
    rcases mem_members_answer h hm with rfl | rfl | rfl | rfl <;> decide
  exact Nat.lt_of_le_of_lt (hw.depth_le records_wellFormed records_ranked hbodily.1) hbodily.2

/-! ### Reading them -/

section Reading

variable {F : Flavour} {n : RecordShape} {fields : List (String × Value)}

/-- What travels in the header fields of a response is visible. -/
def HeadersVisible (n : RecordShape) (v : Value) : Prop :=
  ∀ m ∈ records.members n, ∀ name, m.place = .header name → ∀ w, v.get? m.name = some w → Visible w.plain

theorem headersVisible_getRecord {v : Value} (hv : Conforms records F .getRecordOutput v)
    (hetag : ∀ s, v.get? "etag" = some (.text s) → Visible s) : HeadersVisible .getRecordOutput v := by
  obtain ⟨fields, rfl⟩ := hv.of_struct rfl
  obtain ⟨members, shape, -, -, each⟩ := hv.struct_inv
  obtain rfl := members_of_struct shape
  intro m hm name hname w hw
  rcases mem_members_answer (by decide) hm with rfl | rfl | rfl | rfl <;> cases hname
  obtain ⟨s, rfl⟩ := (each _ hm w hw).of_freeText rfl
  exact hetag s hw

/-- Nothing travels in the header fields of the others. -/
theorem headersVisible_others (h : n ∈ [RecordShape.putRecordOutput, .recordNotFound]) (v : Value) :
    HeadersVisible n v := by
  intro m hm name hname
  simp only [List.mem_cons, List.not_mem_nil, or_false] at h
  rcases h with rfl | rfl <;> cases List.mem_singleton.1 hm <;> cases hname

/-- **A client reads from the parts of a response what a server wrote into them**, whatever header
fields come before. -/
theorem readParts_record (h : n ∈ answers) (hv : Conforms records F n (.struct fields))
    (hvisible : HeadersVisible n (.struct fields)) (before : Headers)
    (hbefore : getAll "etag" before = []) (status : Nat) :
    ∃ headers, writeHeaders (.struct fields) (records.members n) = .ok headers ∧
      records.readParts n ⟨status, before ++ headers ++ (writeBody (.struct fields) (records.members n)).1,
        (writeBody (.struct fields) (records.members n)).2⟩ = .ok (Value.struct fields).bare := by
  refine ⟨_, writeHeaders_visible hvisible, ?_⟩
  refine hv.readParts_server records_wellFormed records_documents (documentary_answer h) (answerable h)
    hvisible (fun m hm _ w hw => ?_) (fun m hm name hname => ?_) rfl rfl
  · obtain ⟨members, shape, -, -, each⟩ := hv.struct_inv
    obtain rfl := members_of_struct shape
    exact depth_answer h hm (each m hm w hw)
  · rcases mem_members_answer h hm with rfl | rfl | rfl | rfl <;> cases hname
    exact hbefore

theorem readResponse_output {op : Schema.Operation RecordShape} (hop : op ∈ [getRecord, putRecord])
    {v : Value} (hv : Conforms records F op.output v) (hvisible : HeadersVisible op.output v) :
    ∃ r, records.writeResponse op v = .ok r ∧ records.readResponse op r = .ok v.bare := by
  have hanswer : op.output ∈ answers := by
    simp only [List.mem_cons, List.not_mem_nil, or_false] at hop
    rcases hop with rfl | rfl <;> decide
  have hsuccess : 200 ≤ op.status ∧ op.status < 300 := by
    simp only [List.mem_cons, List.not_mem_nil, or_false] at hop
    rcases hop with rfl | rfl <;> decide
  obtain ⟨members, shape⟩ := answer_struct hanswer
  obtain ⟨fields, rfl⟩ := hv.of_struct shape
  obtain ⟨headers, hheaders, hread⟩ := readParts_record hanswer hv hvisible [] rfl op.status
  rw [List.nil_append] at hread
  refine ⟨⟨op.status, headers ++ (writeBody (.struct fields) (records.members op.output)).1,
    (writeBody (.struct fields) (records.members op.output)).2⟩, ?_, ?_⟩
  · rw [writeResponse, hheaders, Results.ok_bind]
  · rw [readResponse, hread]
    simp [Response.isSuccess, hsuccess]

/-- The fields of the error with a message or without. -/
def messageFields (message : Option String) : List (String × Value) :=
  (message.map fun s => ("message", Value.text s)).toList

theorem recordNotFound_eq {v : Value} (hv : Conforms records F .recordNotFound v) :
    ∃ message, v = .struct (messageFields message) := by
  obtain ⟨fields, rfl⟩ := hv.of_struct rfl
  obtain ⟨members, shape, order, -, each⟩ := hv.struct_inv
  obtain rfl := members_of_struct shape
  have hfields : fields = ((Entries.get? "message" fields).map ("message", ·)).toList := by
    refine (Entries.eq_filterMap_of_sublist (by decide) order).trans ?_
    cases hw : Entries.get? "message" fields <;>
      simp [Schema.members, records, RecordShape.shape, RecordShape.optional, hw]
  cases hw : Entries.get? "message" fields with
  | none => exact ⟨none, by rw [hfields, hw]; rfl⟩
  | some w =>
    have hconf := each (RecordShape.optional "message" .string .body) List.mem_cons_self w hw
    obtain ⟨s, rfl⟩ := hconf.of_freeText rfl
    exact ⟨some s, by rw [hfields, hw]; rfl⟩

theorem body_messageFields (message : Option String) :
    (writeBody (.struct (messageFields message)) (records.members .recordNotFound)).2 =
      Utf8.encode (messageNode message).write := by
  have hbytes : (writeBody (.struct (messageFields message)) (records.members .recordNotFound)).2 =
      bodyBytes (records.members .recordNotFound) (.struct (messageFields message)) := rfl
  have hall : bodyFields (records.members .recordNotFound) (messageFields message) =
      messageFields message := by
    rw [bodyFields, List.filter_eq_self]
    intro f hf
    obtain ⟨s, -, rfl⟩ := Option.map_eq_some_iff.1 (Option.mem_toList.1 hf)
    exact mem_bodyNames.2 ⟨_, List.mem_cons_self, rfl, rfl⟩
  have hnode : (Value.struct (messageFields message)).toNode = messageNode message := by
    cases message <;> rfl
  rw [hbytes, bodyBytes_struct, hall, Value.toJson, hnode]

/-- **The error reaches the client as what it is**, whatever its message says. -/
theorem readResponse_recordNotFound {v : Value} (hv : Conforms records F .recordNotFound v) :
    ∃ r, records.writeErrorResponse .recordNotFound 404 v = .ok r ∧
      records.readResponse getRecord r = .error (.modeled .recordNotFound v) := by
  obtain ⟨message, rfl⟩ := recordNotFound_eq hv
  have hbare : (Value.struct (messageFields message)).bare = .struct (messageFields message) := by
    cases message <;> rfl
  have hbefore : getAll "etag" [(errorTypeHeader, Utf8.encode "RecordNotFound")] = [] := by
    have hne : fieldName errorTypeHeader ≠ fieldName "etag" := fieldName_ne (by decide)
    simp [getAll, hne]
  obtain ⟨headers, hheaders, hread⟩ := readParts_record (by decide) hv (headersVisible_others (by decide) _) _
    hbefore 404
  rw [hbare] at hread
  have hname : Visible "RecordNotFound" := ⟨by decide, by simp⟩
  have hmeta := metadata_read hname (by decide) (by decide) message
    (headers ++ (writeBody (.struct (messageFields message)) (records.members .recordNotFound)).1)
  rw [← body_messageFields] at hmeta
  refine ⟨⟨404, (errorTypeHeader, Utf8.encode "RecordNotFound") :: headers ++
    (writeBody (.struct (messageFields message)) (records.members .recordNotFound)).1,
    (writeBody (.struct (messageFields message)) (records.members .recordNotFound)).2⟩, ?_, ?_⟩
  · rw [writeErrorResponse, hheaders, Results.ok_bind]
    rfl
  · have hfind : getRecord.errors.find? (fun e => some "RecordNotFound" == some (records.name e.1)) =
        some (.recordNotFound, 404) := by decide
    rw [readResponse, readFailure]
    simp only [List.cons_append, hmeta, hfind]
    simp only [List.cons_append, List.nil_append] at hread
    rw [hread]
    simp [Response.isSuccess]

end Reading

end Records

open Records

/-- **Outputs and errors reach the client as the server meant them**: the same members with the same
content, and an error as that error, with its message. -/
theorem records_response_exact (F : Flavour) :
    (∀ v, Conforms records F .getRecordOutput v → (∀ s, v.get? "etag" = some (.text s) → Visible s) →
      ∃ r, records.writeResponse getRecord v = .ok r ∧ records.readResponse getRecord r = .ok v.bare) ∧
    (∀ v, Conforms records F .putRecordOutput v →
      ∃ r, records.writeResponse putRecord v = .ok r ∧ records.readResponse putRecord r = .ok v.bare) ∧
    (∀ v, Conforms records F .recordNotFound v →
      ∃ r, records.writeErrorResponse .recordNotFound 404 v = .ok r ∧
        records.readResponse getRecord r = .error (.modeled .recordNotFound v)) := by
  refine ⟨fun v hv hetag => ?_, fun v hv => ?_, fun v hv => readResponse_recordNotFound hv⟩
  · exact readResponse_output (by simp) hv (headersVisible_getRecord hv hetag)
  · exact readResponse_output (by simp) hv (headersVisible_others (by decide) v)

/-- An output as a server holds it, and an error whose message looks like a code. -/
def storedOutput : Value :=
  .struct [("record", .struct [("id", .constrained (.text "abc")), ("tags", .list [.text "x"]),
    ("title", .constrained (.text "é\"")), ("status", .symbol "active"),
    ("priority", .constrained (.integer 3))]), ("etag", .text "v 1")]

def lostRecord : Value := .struct [("message", .text "a#Throttled: \"b\"")]

theorem conforms_storedOutput : Conforms records .server .getRecordOutput storedOutput := by
  have hstring : ∀ s, Conforms records .server .string (.text s) := fun s =>
    .text rfl rfl fun _ => admits_free s
  refine .struct rfl (by decide) (by decide) fun m hm v hv => ?_
  simp only [List.mem_cons, List.not_mem_nil, or_false] at hm
  rcases hm with rfl | rfl <;> cases hv
  · refine .struct rfl (by decide) (by decide) fun m hm v hv => ?_
    simp only [List.mem_cons, List.not_mem_nil, or_false] at hm
    rcases hm with rfl | rfl | rfl | rfl | rfl <;> cases hv
    · exact .text rfl rfl fun _ => (admits_id_iff "abc").2 ⟨by decide, by simp⟩
    · refine .list rfl fun v hv => ?_
      rw [List.mem_singleton.1 hv]
      exact hstring "x"
    · exact .text rfl rfl fun _ => (admits_title_iff "é\"").2 ⟨by decide, by decide⟩
    · exact .symbol rfl fun _ => by decide
    · refine .integer rfl rfl (by decide) fun _ bounds hbounds => ?_
      cases hbounds
      decide
  · exact hstring "v 1"

theorem conforms_lostRecord : Conforms records .server .recordNotFound lostRecord := by
  refine .struct rfl (by decide) (by decide) fun m hm v hv => ?_
  cases List.mem_singleton.1 hm
  cases hv
  exact .text rfl rfl fun _ => admits_free _

theorem storedOutput_answered :
    (∃ r, records.writeResponse getRecord storedOutput = .ok r ∧
      records.readResponse getRecord r = .ok storedOutput.bare) ∧
    ∃ r, records.writeErrorResponse .recordNotFound 404 lostRecord = .ok r ∧
      records.readResponse getRecord r = .error (.modeled .recordNotFound lostRecord) :=
  ⟨(records_response_exact .server).1 storedOutput conforms_storedOutput
    (fun s hs => by cases hs; exact ⟨by decide, by simp⟩),
    (records_response_exact .server).2.2 lostRecord conforms_lostRecord⟩

end WireShapes
