import WireShapes.Proofs.Records.Validation
import WireShapes.Proofs.Schema.Events

/-!
Events of records, from one side to the other.

* `eventful`: the structures that messages carry
* `payable_eventful`: all of them come back, an archived record if it has a reason
* `marshall_archived`: without a reason the message is the same as with an empty one
* `records_events_exact`: what comes back of every event and every error
-/

namespace WireShapes

open Schema

namespace Records

variable {F G : Flavour} {n : RecordShape} {fields : List (String × Value)}

/-- The structures that messages carry. -/
def eventful : List RecordShape := [.recordCreated, .recordArchived, .throttled]

theorem mem_members_eventful (h : n ∈ eventful) {m : Schema.Member RecordShape}
    (hm : m ∈ records.members n) :
    m = RecordShape.optional "id" .string .eventHeader ∨ m = RecordShape.optional "title" .string .body ∨
      m = RecordShape.optional "message" .string .body ∨
      n = .recordArchived ∧ m = RecordShape.optional "reason" .bytes .eventPayload := by
  simp only [eventful, List.mem_cons, List.not_mem_nil, or_false] at h
  rcases h with rfl | rfl | rfl <;>
    simp only [Schema.members, records, RecordShape.shape, List.mem_cons, List.not_mem_nil, or_false]
      at hm <;> tauto

/-- Header fields of these structures hold texts, under names of their own. -/
theorem eventShape_of_placed (h : n ∈ eventful)
    (placed : ∀ m ∈ records.members n, m.place = .eventHeader ∨ payloadMember? (records.members n) = some m ∨
      payloadMember? (records.members n) = none ∧ m.place = .body) : EventShape records n where
  header m hm hplace := by
    rcases mem_members_eventful h hm with rfl | rfl | rfl | ⟨-, rfl⟩ <;> cases hplace
    exact .inl ⟨_, rfl⟩
  placed := placed
  named m hm hplace := by
    rcases mem_members_eventful h hm with rfl | rfl | rfl | ⟨-, rfl⟩ <;> cases hplace
    decide

theorem eventShape_created : EventShape records .recordCreated := by
  refine eventShape_of_placed (by decide) fun m hm => ?_
  simp only [Schema.members, records, RecordShape.shape, List.mem_cons, List.not_mem_nil, or_false] at hm
  rcases hm with rfl | rfl
  · exact .inl rfl
  · exact .inr (.inr ⟨rfl, rfl⟩)

theorem eventShape_archived : EventShape records .recordArchived := by
  refine eventShape_of_placed (by decide) fun m hm => ?_
  simp only [Schema.members, records, RecordShape.shape, List.mem_cons, List.not_mem_nil, or_false] at hm
  rcases hm with rfl | rfl
  · exact .inl rfl
  · exact .inr (.inl rfl)

theorem unruled_eventful (h : n ∈ eventful) :
    ∀ m ∈ records.members n, Unruled (records.shape m.target) := by
  intro m hm
  rcases mem_members_eventful h hm with rfl | rfl | rfl | ⟨-, rfl⟩
  · exact .inl rfl
  · exact .inl rfl
  · exact .inl rfl
  · exact .inr rfl

/-- The payloads of all of them come back, that of an archived record if it has a reason. -/
theorem payable_eventful (h : n ∈ eventful) (hv : Conforms records F n (.struct fields))
    (hreason : n = .recordArchived → ∃ bytes, Entries.get? "reason" fields = some (.blob bytes)) :
    Payable records F n fields := by
  obtain ⟨members, shape, order, -, each⟩ := hv.struct_inv
  obtain rfl := members_of_struct shape
  refine ⟨?_, ?_, ?_⟩
  · intro m hm
    have hplace : m.place = .eventPayload := by simpa using List.find?_some hm
    rcases mem_members_eventful h (List.mem_of_find?_eq_some hm) with rfl | rfl | rfl | ⟨hn, rfl⟩
    · cases hplace
    · cases hplace
    · cases hplace
    · exact hreason hn
  · intro f hf
    obtain ⟨m, hm, -, hget⟩ := get?_of_mem_fields records_wellFormed shape order hf
    refine (each m hm _ hget).ne_stream ?_
    rcases unruled_eventful h m hm with htext | hblob
    · simp [htext]
    · simp [hblob]
  · intro m hm hplace w hw
    have hstring : records.shape m.target = .text .free := by
      rcases mem_members_eventful h hm with rfl | rfl | rfl | ⟨-, rfl⟩
      · rfl
      · rfl
      · rfl
      · cases hplace
    have hmember := each m hm w hw
    refine ⟨?_, hmember.plain records_wellFormed, ?_⟩
    · obtain ⟨s, rfl⟩ := hmember.of_freeText hstring
      exact readsValue_text hstring s
    · obtain ⟨s, rfl⟩ := hmember.of_freeText hstring
      show 0 < Json.maxDepth
      decide

/-! ### An archived record without a reason -/

def archivedFields (id : Option String) (reason : Option (List UInt8)) : List (String × Value) :=
  (id.map fun s => ("id", Value.text s)).toList ++ (reason.map fun bytes => ("reason", Value.blob bytes)).toList

theorem conforms_archivedFields (id : Option String) (reason : Option (List UInt8)) :
    Conforms records F .recordArchived (.struct (archivedFields id reason)) := by
  refine .struct rfl ?_ ?_ ?_
  · cases id <;> cases reason <;> simp [archivedFields, RecordShape.optional]
  · intro m hm hstanding
    simp only [List.mem_cons, List.not_mem_nil, or_false] at hm
    rcases hm with rfl | rfl <;> exact absurd hstanding (by decide)
  · intro m hm w hw
    simp only [List.mem_cons, List.not_mem_nil, or_false] at hm
    rcases hm with rfl | rfl
    · cases id with
      | none => cases reason <;> cases hw
      | some s =>
        cases hw
        exact .text rfl (by cases F <;> rfl) fun _ => admits_free s
    · cases id <;> cases reason <;> cases hw <;> exact .blob rfl

theorem archived_eq (hv : Conforms records F .recordArchived (.struct fields)) :
    ∃ id reason, fields = archivedFields id reason := by
  obtain ⟨members, shape, order, -, each⟩ := hv.struct_inv
  obtain rfl := members_of_struct shape
  have hfields : fields = ((Entries.get? "id" fields).map ("id", ·)).toList ++
      ((Entries.get? "reason" fields).map ("reason", ·)).toList := by
    refine (Entries.eq_filterMap_of_sublist (by decide) order).trans ?_
    cases hid : Entries.get? "id" fields <;> cases hreason : Entries.get? "reason" fields <;>
      simp [Schema.members, records, RecordShape.shape, RecordShape.optional, hid, hreason]
  have hid : ∃ id : Option String, Entries.get? "id" fields = id.map Value.text := by
    cases hw : Entries.get? "id" fields with
    | none => exact ⟨none, rfl⟩
    | some w =>
      have hmember := each (RecordShape.optional "id" .string .eventHeader) List.mem_cons_self w hw
      obtain ⟨s, rfl⟩ := hmember.of_freeText rfl
      exact ⟨some s, rfl⟩
  have hreason : ∃ reason : Option (List UInt8), Entries.get? "reason" fields = reason.map Value.blob := by
    cases hw : Entries.get? "reason" fields with
    | none => exact ⟨none, rfl⟩
    | some w =>
      have hmember := each (RecordShape.optional "reason" .bytes .eventPayload)
        (List.mem_cons_of_mem _ List.mem_cons_self) w hw
      obtain ⟨bytes, rfl⟩ := hmember.of_blob rfl
      exact ⟨some bytes, rfl⟩
  obtain ⟨id, hid⟩ := hid
  obtain ⟨reason, hreason⟩ := hreason
  refine ⟨id, reason, ?_⟩
  rw [hfields, hid, hreason]
  cases id <;> cases reason <;> rfl

/-- Without a reason the message is the same as with an empty one. -/
theorem marshall_archived (id : Option String) :
    records.marshall recordEvents (.variant "archived" (.struct (archivedFields id none))) =
      records.marshall recordEvents (.variant "archived" (.struct (archivedFields id (some [])))) := by
  cases id <;> rfl

/-- With a reason an archived record comes back as it was. -/
theorem archived_comes_back (G : Flavour) (id : Option String) (bytes : List UInt8) :
    ∃ message,
      records.marshall recordEvents (.variant "archived" (.struct (archivedFields id (some bytes)))) =
        .ok message ∧
      records.unmarshall G recordEvents message =
        .ok (.event (.variant "archived" (.struct (archivedFields id (some bytes))))) := by
  have hv : Conforms records G .recordArchived (.struct (archivedFields id (some bytes))) :=
    conforms_archivedFields id (some bytes)
  have hpay := payable_eventful (by decide) hv fun _ => ⟨bytes, by cases id <;> rfl⟩
  exact unmarshall_marshall records_wellFormed eventShape_archived rfl hv hpay

end Records

open Records

/-- **Events and errors come back as they were sent**, whichever sides send and receive them, except that
an archived record without a reason comes back with an empty one. -/
theorem records_events_exact (F G : Flavour) :
    (∀ v, Conforms records F .recordCreated v →
      ∃ message, records.marshall recordEvents (.variant "created" v) = .ok message ∧
        records.unmarshall G recordEvents message = .ok (.event (.variant "created" v))) ∧
    (∀ v, Conforms records F .recordArchived v → (v.get? "reason").isSome = true →
      ∃ message, records.marshall recordEvents (.variant "archived" v) = .ok message ∧
        records.unmarshall G recordEvents message = .ok (.event (.variant "archived" v))) ∧
    (∀ v, Conforms records F .recordArchived v → v.get? "reason" = none →
      ∃ message w, records.marshall recordEvents (.variant "archived" v) = .ok message ∧
        records.unmarshall G recordEvents message = .ok (.event (.variant "archived" w)) ∧
        w.get? "id" = v.get? "id" ∧ w.get? "reason" = some (.blob [])) ∧
    (∀ v, Conforms records F .throttled v →
      records.unmarshall G recordEvents (records.marshallError recordEvents (.modeled .throttled v)) =
        .ok (.failure (.modeled .throttled v))) := by
  refine ⟨?_, ?_, ?_, ?_⟩
  · intro v hv
    obtain ⟨fields, rfl⟩ := hv.of_struct rfl
    have hv' : Conforms records G .recordCreated (.struct fields) := hv.transfer G (unruled_eventful (by decide))
    have hpay := payable_eventful (by decide) hv' fun h => absurd h (by decide)
    exact unmarshall_marshall records_wellFormed eventShape_created rfl hv' hpay
  · intro v hv hreason
    obtain ⟨fields, rfl⟩ := hv.of_struct rfl
    obtain ⟨id, reason, rfl⟩ := archived_eq hv
    cases reason with
    | none => cases id <;> simp [Value.get?, archivedFields, Entries.get?] at hreason
    | some bytes => exact archived_comes_back G id bytes
  · intro v hv hreason
    obtain ⟨fields, rfl⟩ := hv.of_struct rfl
    obtain ⟨id, reason, rfl⟩ := archived_eq hv
    cases reason with
    | some bytes => cases id <;> simp [Value.get?, archivedFields, Entries.get?] at hreason
    | none =>
      obtain ⟨message, hmessage, hback⟩ := archived_comes_back G id []
      refine ⟨message, _, (marshall_archived id).trans hmessage, hback, ?_, ?_⟩
      · cases id <;> rfl
      · cases id <;> rfl
  · intro v hv
    obtain ⟨fields, rfl⟩ := hv.of_struct rfl
    have hv' : Conforms records G .throttled (.struct fields) := hv.transfer G (unruled_eventful (by decide))
    have hpay := payable_eventful (by decide) hv' fun h => absurd h (by decide)
    refine unmarshall_marshallError records_wellFormed ?_ rfl rfl hv' hpay
    intro m hm
    cases List.mem_singleton.1 hm
    rfl

/-- A record that was archived without a reason. -/
def quietly : Value := .struct (archivedFields (some "abc") none)

/-- An event with a title and no id, and an error with a message, from a server to a client. -/
theorem untitled_exchanged :
    (∃ message, records.marshall recordEvents (.variant "created" (.struct [("title", .text "é")])) = .ok message ∧
      records.unmarshall .client recordEvents message =
        .ok (.event (.variant "created" (.struct [("title", .text "é")])))) ∧
    (∃ message, records.marshall recordEvents (.variant "archived" (.struct [("reason", .blob [0, 255])])) =
        .ok message ∧
      records.unmarshall .client recordEvents message =
        .ok (.event (.variant "archived" (.struct [("reason", .blob [0, 255])])))) ∧
    (∃ message w, records.marshall recordEvents (.variant "archived" quietly) = .ok message ∧
      records.unmarshall .client recordEvents message = .ok (.event (.variant "archived" w)) ∧
      w.get? "id" = quietly.get? "id" ∧ w.get? "reason" = some (.blob [])) ∧
    records.unmarshall .client recordEvents
        (records.marshallError recordEvents (.modeled .throttled (.struct [("message", .text "busy")]))) =
      .ok (.failure (.modeled .throttled (.struct [("message", .text "busy")]))) := by
  have hstring : ∀ s, Conforms records .server .string (.text s) := fun s =>
    .text rfl rfl fun _ => admits_free s
  obtain ⟨hcreated, hgiven, habsent, hthrottled⟩ := records_events_exact .server .client
  refine ⟨hcreated _ ?_, hgiven _ (conforms_archivedFields none (some [0, 255])) rfl,
    habsent _ (conforms_archivedFields (some "abc") none) rfl, hthrottled _ ?_⟩
  · refine .struct rfl (by decide) (by decide) ?_
    intro m hm w hw
    simp only [List.mem_cons, List.not_mem_nil, or_false] at hm
    rcases hm with rfl | rfl <;> cases hw
    exact hstring "é"
  · refine .struct rfl (by decide) (by decide) ?_
    intro m hm w hw
    cases List.mem_singleton.1 hm
    cases hw
    exact hstring "busy"

/-- Without a reason the record does not come back as it was. -/
theorem quietly_gains_reason :
    Conforms records .server .recordArchived quietly ∧ quietly.get? "reason" = none ∧
    ∃ message, records.marshall recordEvents (.variant "archived" quietly) = .ok message ∧
      records.unmarshall .client recordEvents message ≠ .ok (.event (.variant "archived" quietly)) := by
  obtain ⟨message, hmessage, hback⟩ := archived_comes_back .client (some "abc") []
  refine ⟨conforms_archivedFields (some "abc") none, rfl, message, ?_, ?_⟩
  · exact (marshall_archived (some "abc")).trans hmessage
  · rw [hback]
    simp [quietly, archivedFields]

end WireShapes
