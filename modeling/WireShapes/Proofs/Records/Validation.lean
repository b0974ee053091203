import WireShapes.Proofs.Pattern.WholeText
import WireShapes.Proofs.Schema.Intake
import WireShapes.Records

/-!
The checks of the records service.

* `records_wellFormed`, `operation_bound`: the schema and the operations are well formed
* `RecordShape.AllowsText`, `AllowsInteger`, `Kept`: what the model asks of the values of each shape,
  in plain terms
* `kept_of_conforms`: a value that conforms is as the model asks
* `records_checks_exact`: whatever a server lets pass is as the model asks, all the way down, and
  whatever is as the model asks passes with nothing added or lost
-/

namespace WireShapes

open Schema

/-! ### The schema -/

theorem records_wellFormed : WellFormed records where
  nodup n := by cases n <;> decide
  default n m hm v hv F := by
    -- the status of a record is the only member that has a default
    have hstatus : m.target = .status ∧ v = .symbol "active" := by
      cases n <;> simp [Schema.members, records, RecordShape.shape, RecordShape.idMember,
        RecordShape.optional, RecordShape.streamMember] at hm <;> aesop
    obtain ⟨ht, rfl⟩ := hstatus
    rw [ht]
    exact .symbol rfl fun _ => by decide

theorem labelNames_record : labelNames "/records/\x7bid\x7d" = ["id"] := by
  with_unfolding_all rfl

theorem labelNames_events : labelNames "/records/\x7bid\x7d/events" = ["id"] := by
  with_unfolding_all rfl

theorem labelNames_operation {op : Schema.Operation RecordShape} (h : op ∈ Records.operations) :
    labelNames op.uri = ["id"] := by
  simp only [Records.operations, List.mem_cons, List.not_mem_nil, or_false] at h
  rcases h with rfl | rfl | rfl | rfl
  · exact labelNames_record
  · exact labelNames_record
  · exact labelNames_events
  · exact labelNames_events

theorem mem_members_input {op : Schema.Operation RecordShape} (h : op ∈ Records.operations)
    {m : Schema.Member RecordShape} (hm : m ∈ records.members op.input) :
    m = RecordShape.idMember .label ∨ m = RecordShape.optional "verbose" .bool (.query "verbose") ∨
      m = RecordShape.optional "tags" .tags (.query "tag") ∨
      m = RecordShape.optional "trace" .string (.header "x-trace") ∨
      m = RecordShape.optional "title" .title .body ∨ m = RecordShape.streamMember := by
  simp only [Records.operations, List.mem_cons, List.not_mem_nil, or_false] at h
  rcases h with rfl | rfl | rfl | rfl <;>
    simp only [Schema.members, records, RecordShape.shape, Records.getRecord, Records.putRecord,
      Records.subscribe, Records.publish, List.mem_cons, List.not_mem_nil, or_false] at hm <;> tauto

theorem input_struct {op : Schema.Operation RecordShape} (h : op ∈ Records.operations) :
    ∃ members, records.shape op.input = .struct members := by
  simp only [Records.operations, List.mem_cons, List.not_mem_nil, or_false] at h
  rcases h with rfl | rfl | rfl | rfl <;> exact ⟨_, rfl⟩

theorem operation_bound {op : Schema.Operation RecordShape} (h : op ∈ Records.operations) :
    op.Bound records where
  label m hm hname := by
    rw [labelNames_operation h] at hname
    rcases mem_members_input h hm with rfl | rfl | rfl | rfl | rfl | rfl
    · exact .inl (.inl ⟨_, rfl⟩)
    all_goals exact absurd hname (by decide)
  query m hm key hkey := by
    rcases mem_members_input h hm with rfl | rfl | rfl | rfl | rfl | rfl
    · cases hkey
    · exact .inl (.inr rfl)
    · exact .inr ⟨.string, rfl, .inl ⟨_, rfl⟩⟩
    all_goals cases hkey
  header m hm name hname := by
    rcases mem_members_input h hm with rfl | rfl | rfl | rfl | rfl | rfl
    · cases hname
    · cases hname
    · cases hname
    · exact .inl (.inl ⟨_, rfl⟩)
    all_goals cases hname
  stream m hm hplace := by
    rcases mem_members_input h hm with rfl | rfl | rfl | rfl | rfl | rfl
    · cases hplace
    · cases hplace
    · cases hplace
    · cases hplace
    · cases hplace
    · rfl

/-! ### What the model asks -/

namespace RecordShape

def AllowsText : RecordShape → String → Prop
  | id, s => (1 ≤ s.length ∧ s.length ≤ 16) ∧ ∀ c ∈ s.toList, 'a' ≤ c ∧ c ≤ 'z'
  | title, s => 1 ≤ s.length ∧ s.length ≤ 5
  | status, s => s = "active" ∨ s = "archived"
  | string, _ => True
  | _, _ => False

def AllowsInteger : RecordShape → Int → Prop
  | priority, k => 1 ≤ k ∧ k ≤ 5
  | int, k => -2147483648 ≤ k ∧ k ≤ 2147483647
  | _, _ => False

/-- The members that every value of a shape has. -/
def needs : RecordShape → List String
  | item => ["id"]
  | record => ["id", "status"]
  | node => ["value"]
  | getRecordInput => ["id"]
  | putRecordInput => ["id"]
  | subscribeInput => ["id"]
  | subscribeOutput => ["events"]
  | publishInput => ["id", "events"]
  | _ => []

/-- What the model asks of a value of a shape, whatever stands in it. -/
def Kept (F : Flavour) (n : RecordShape) (v : Value) : Prop :=
  match n with
  | id => ∃ s, v = hold F true (.text s) ∧ id.AllowsText s
  | title => ∃ s, v = hold F true (.text s) ∧ title.AllowsText s
  | priority => ∃ k, v = hold F true (.integer k) ∧ priority.AllowsInteger k
  | status => ∃ s, v = .symbol s ∧ status.AllowsText s
  | string => ∃ s, v = .text s
  | int => ∃ k, v = .integer k ∧ int.AllowsInteger k
  | bool => ∃ b, v = .boolean b
  | bytes => ∃ b, v = .blob b
  | tags => ∃ items, v = .list items
  | nodes => ∃ items, v = .list items
  | payload => ∃ name w, v = .variant name w ∧ name ∈ ["text", "count", "record"]
  | recordEvents => v = .stream
  | n => ∃ fields, v = .struct fields ∧ (fields.map Prod.fst).Sublist ((records.members n).map (·.name)) ∧
      ∀ name ∈ n.needs, (Entries.get? name fields).isSome = true

end RecordShape

theorem admits_id_iff (s : String) :
    TextRule.Admits ⟨some ⟨1, 16⟩, some "^[a-z]+$"⟩ s ↔ RecordShape.id.AllowsText s := by
  constructor
  · rintro ⟨hlen, hpat⟩
    exact ⟨hlen _ rfl, ((Pattern.isMatch_smallLetters s).1 (hpat _ rfl)).2⟩
  · rintro ⟨hlen, hall⟩
    refine ⟨fun _ h => Option.some.inj h ▸ hlen, fun _ h => Option.some.inj h ▸ ?_⟩
    refine (Pattern.isMatch_smallLetters s).2 ⟨fun hnil => ?_, hall⟩
    rw [← String.length_toList, hnil] at hlen
    exact absurd hlen.1 (by decide)

theorem admits_title_iff (s : String) :
    TextRule.Admits ⟨some ⟨1, 5⟩, none⟩ s ↔ RecordShape.title.AllowsText s := by
  constructor
  · intro h
    exact h.length _ rfl
  · intro h
    exact ⟨fun _ hb => Option.some.inj hb ▸ h, fun _ hp => by cases hp⟩

theorem fits_w32_iff (k : Int) : IntWidth.w32.fits k = true ↔ RecordShape.int.AllowsInteger k := by
  unfold IntWidth.fits RecordShape.AllowsInteger
  rw [show IntWidth.w32.bound = 2147483648 from rfl]
  simp only [Bool.and_eq_true, decide_eq_true_eq]
  omega

/-! ### Values that conform -/

theorem exists_member_of_needs (n : RecordShape) :
    ∀ name ∈ n.needs, ∃ m ∈ records.members n, m.name = name ∧ m.Standing := by
  cases n <;> decide

theorem kept_struct {F : Flavour} {n : RecordShape} {members : List (Schema.Member RecordShape)} {v : Value}
    (shape : records.shape n = .struct members)
    (h : ∃ fields, v = .struct fields ∧ (fields.map Prod.fst).Sublist ((records.members n).map (·.name)) ∧
      ∀ name ∈ n.needs, (Entries.get? name fields).isSome = true) : n.Kept F v := by
  cases n <;> first | exact h | cases shape

/-- **A value that conforms where rules are checked is as the model asks.** -/
theorem kept_of_conforms {F : Flavour} (hF : F.checks = true) {n : RecordShape} {v : Value}
    (h : Conforms records F n v) : n.Kept F v := by
  cases h with
  | @text _ rule s _ shape form admits =>
    cases n <;> cases shape
    · exact ⟨s, form.trans (by unfold hold; split <;> rfl)⟩
    · exact ⟨s, form, (admits_id_iff s).1 (admits hF)⟩
    · exact ⟨s, form, (admits_title_iff s).1 (admits hF)⟩
  | @integer _ range k _ shape form fits inRange =>
    cases n <;> cases shape
    · exact ⟨k, form.trans (by unfold hold; split <;> rfl), (fits_w32_iff k).1 fits⟩
    · exact ⟨k, form, inRange hF _ rfl⟩
  | @boolean _ b shape => cases n <;> cases shape; exact ⟨b, rfl⟩
  | @blob _ bytes shape => cases n <;> cases shape; exact ⟨bytes, rfl⟩
  | @symbol _ constants s shape listed =>
    cases n <;> cases shape
    exact ⟨s, rfl, by simpa [RecordShape.AllowsText] using listed hF⟩
  | @list _ _ items shape _ =>
    cases n <;> cases shape
    · exact ⟨items, rfl⟩
    · exact ⟨items, rfl⟩
  | @struct _ members fields shape order standing _ =>
    have hm := members_of_struct shape
    refine kept_struct shape ⟨fields, rfl, hm ▸ order, fun name hname => ?_⟩
    obtain ⟨m, hmem, rfl, hst⟩ := exists_member_of_needs n name hname
    exact standing m (hm ▸ hmem) hst
  | @variant _ members m w shape mem _ =>
    cases n <;> cases shape
    exact ⟨m.name, w, rfl, List.mem_map.2 ⟨m, mem, rfl⟩⟩
  | unknown client _ =>
    subst client
    cases hF
  | stream shape => cases n <;> cases shape; rfl

/-! ### Drafts within the rules -/

theorem meets_text_iff {F : Flavour} (hF : F.checks = true) (n : RecordShape) (s : String) :
    Meets records F n (.text s) ↔ n.AllowsText s := by
  constructor
  · intro h
    cases h with
    | text shape admits =>
      cases n <;> cases shape
      · trivial
      · exact (admits_id_iff s).1 (admits hF)
      · exact (admits_title_iff s).1 (admits hF)
    | symbol shape listed =>
      cases n <;> cases shape
      simpa [RecordShape.AllowsText] using listed hF
  · intro h
    cases n <;> first
      | exact .text rfl fun _ => (admits_id_iff s).2 h
      | exact .text rfl fun _ => (admits_title_iff s).2 h
      | exact .text rfl fun _ => admits_free s
      | exact .symbol rfl fun _ => by simpa [RecordShape.AllowsText] using h
      | exact h.elim

theorem meets_integer_iff {F : Flavour} (hF : F.checks = true) (n : RecordShape) (k : Int) :
    Meets records F n (.integer k) ↔ n.AllowsInteger k := by
  constructor
  · intro h
    cases h with
    | integer shape fits inRange =>
      cases n <;> cases shape
      · exact (fits_w32_iff k).1 fits
      · exact inRange hF _ rfl
  · intro h
    cases n with
    | int => exact .integer rfl ((fits_w32_iff k).2 h) fun _ _ hb => by cases hb
    | priority =>
      have hk : RecordShape.int.AllowsInteger k := by
        unfold RecordShape.AllowsInteger at h ⊢
        omega
      exact .integer rfl ((fits_w32_iff k).2 hk) fun _ _ hb => Option.some.inj hb ▸ h
    | _ => exact h.elim

/-! ### The checks -/

/-- **A server checks exactly what the model asks.** Of whatever text is read and checked, and of
whatever request is taken, every part is as the model asks. And every draft that gives only what the
model allows, with no member missing that has to be there, is built into a value that has exactly what
the draft gives, and the defaults for the rest; the model allows a simple value where
`RecordShape.AllowsText` and `RecordShape.AllowsInteger` do. -/
theorem records_checks_exact (F : Flavour) (hF : F.checks = true) :
    (∀ (n : RecordShape) (text : List UInt8) (v : Value) (rest : Json.Tokens),
      records.decode F n text = .ok (some v, rest) →
        ∀ k w, Part records k w n v → k.Kept F w) ∧
    (∀ op ∈ Records.operations, ∀ (r : Http.Request) (v : Value),
      records.readRequest F op r = .ok v → ∀ k w, Part records k w op.input v → k.Kept F w) ∧
    (∀ (n : RecordShape) (d : Draft), Meets records F n d →
      ∃ v, records.build F n d = .ok v ∧ Holds records F n d v) ∧
    (∀ n s, Meets records F n (.text s) ↔ n.AllowsText s) ∧
    ∀ n k, Meets records F n (.integer k) ↔ n.AllowsInteger k := by
  refine ⟨fun n text v rest hv k w hw => ?_, fun op hop r v hv k w hw => ?_,
    fun n d hd => hd.build_holds records_wellFormed, meets_text_iff hF, meets_integer_iff hF⟩
  · have hconf := conforms_of_decode records_wellFormed hv
    exact kept_of_conforms hF (hconf.part records_wellFormed hw)
  · obtain ⟨members, hshape⟩ := input_struct hop
    have hconf := conforms_of_readRequest records_wellFormed (operation_bound hop) hshape hv
    exact kept_of_conforms hF (hconf.part records_wellFormed hw)

/-- A variant with a record in it, as it is before the checks. -/
def draftOfRecord : Draft :=
  .variant "record" (.struct [("priority", .integer 5), ("id", .text "abc"), ("title", .text "ééééé")])

theorem meets_draftOfRecord : Meets records .server .payload draftOfRecord := by
  refine .variant (m := RecordShape.optional "record" .record .body) rfl (by simp) ?_
  refine .struct rfl (by decide) fun m hm d hd => ?_
  simp only [List.mem_cons, List.not_mem_nil, or_false] at hm
  rcases hm with rfl | rfl | rfl | rfl | rfl <;> cases hd
  · exact (meets_text_iff rfl .id "abc").2 ⟨by decide, by simp⟩
  · exact (meets_text_iff rfl .title "ééééé").2 ⟨by decide, by decide⟩
  · exact (meets_integer_iff rfl .priority 5).2 ⟨by decide, by decide⟩

/-- The record of the variant passes, and its status is the default. -/
theorem draftOfRecord_built : Flavour.server.checks = true ∧ Meets records .server .payload draftOfRecord ∧
    (∃ v, records.build .server .payload draftOfRecord = .ok v ∧
      Holds records .server .payload draftOfRecord v) ∧
    records.build .server .payload draftOfRecord = .ok (.variant "record" (.struct
      [("id", .constrained (.text "abc")), ("title", .constrained (.text "ééééé")),
        ("status", .symbol "active"), ("priority", .constrained (.integer 5))])) :=
  ⟨rfl, meets_draftOfRecord, (records_checks_exact .server rfl).2.2.1 _ _ meets_draftOfRecord,
    by with_unfolding_all rfl⟩

end WireShapes
