import WireShapes.Proofs.Schema.Exchange
import WireShapes.Schema.Event

/-!
Messages of an event stream give back the members that were put into them.

* `EventShape`: structures that can be events: texts in header fields, and one member or an object as
  the payload
* `string?_written`, `readEventHeaders_carried`: a member in a header field is found there
* `readEventPayload_carried`: the payload gives the members that are not in header fields
* `readEvent_written`: from the message of a value that value is read
* `unmarshall_marshall`, `unmarshall_marshallError`: events and errors come back as they were
* `Conforms.transfer`: values without rules are the same on all sides
-/

namespace WireShapes.Schema

open Json WireShapes.Stream

variable {ν : Type} {S : Schema ν} {F G : Flavour} {v : Value} {n : ν}

/-- Structures that can be events. -/
structure EventShape (S : Schema ν) (n : ν) : Prop where
  header : ∀ m ∈ S.members n, m.place = .eventHeader → TextShape (S.shape m.target)
  /-- A member that is the payload leaves no room for an object. -/
  placed : ∀ m ∈ S.members n, m.place = .eventHeader ∨ payloadMember? (S.members n) = some m ∨
    payloadMember? (S.members n) = none ∧ m.place = .body
  named : ∀ m ∈ S.members n, m.place = .eventHeader →
    m.name ∉ [messageTypeHeader, eventTypeHeader, exceptionTypeHeader, contentTypeHeader]

/-! ### Header fields -/

theorem find_eventHeaders {members : List (Member ν)} (hnd : (members.map (·.name)).Nodup) {m : Member ν}
    (hm : m ∈ members) (hplace : m.place = .eventHeader) :
    (eventHeaders v members).find? (·.1 == m.name) =
      (v.get? m.name).map fun w => textHeader m.name w.plain := by
  induction members with
  | nil => simp at hm
  | cons a rest ih =>
    rw [List.map_cons, List.nodup_cons] at hnd
    rcases List.mem_cons.1 hm with rfl | hrest
    · -- no later member has the name
      have hlater : (eventHeaders v rest).find? (·.1 == m.name) = none := by
        rw [List.find?_eq_none]
        intro h hh hname
        obtain ⟨b, hb, hfield⟩ := List.mem_filterMap.1 hh
        have hsame : b.name = m.name := by
          split at hfield
          · rw [← Option.some.inj hfield] at hname
            exact eq_of_beq hname
          · cases hfield
        exact hnd.1 (hsame ▸ List.mem_map.2 ⟨b, hb, rfl⟩)
      have hcons : eventHeaders v (m :: rest) =
          ((v.get? m.name).map fun w => textHeader m.name w.plain).toList ++ eventHeaders v rest := by
        unfold eventHeaders
        rw [List.filterMap_cons, hplace]
        cases v.get? m.name <;> rfl
      rw [hcons]
      cases v.get? m.name with
      | none => simpa using hlater
      | some w => simp [textHeader]
    · have hne : a.name ≠ m.name := fun h => hnd.1 (h ▸ List.mem_map.2 ⟨m, hrest, rfl⟩)
      have hskip : (eventHeaders v (a :: rest)).find? (·.1 == m.name) =
          (eventHeaders v rest).find? (·.1 == m.name) := by
        unfold eventHeaders
        rw [List.filterMap_cons]
        split
        · rfl
        · next h hfield =>
          split at hfield
          · rw [← Option.some.inj hfield]
            simp [textHeader, hne]
          · cases hfield
      rw [hskip]
      exact ih hnd.2 hrest

/-- **A member is found in its header field**, whatever fields of other names come before. -/
theorem string?_written {members : List (Member ν)} (hnd : (members.map (·.name)).Nodup) {m : Member ν}
    (hm : m ∈ members) (hplace : m.place = .eventHeader) {before : List (String × HeaderValue)}
    (hbefore : m.name ∉ before.map Prod.fst) (payload : List UInt8) :
    (⟨before ++ eventHeaders v members, payload⟩ : Message).string? m.name =
      .ok ((v.get? m.name).map Value.plain) := by
  have hnone : before.find? (·.1 == m.name) = none := by
    rw [List.find?_eq_none]
    intro h hh hname
    exact hbefore (eq_of_beq hname ▸ List.mem_map.2 ⟨h, hh, rfl⟩)
  unfold Message.string? Message.header?
  simp only [List.find?_append, hnone, Option.none_or, find_eventHeaders hnd hm hplace]
  cases v.get? m.name <;> rfl

theorem readEventHeaders_carried {message : Message} {members : List (Member ν)}
    (each : ∀ m ∈ members, m.place = .eventHeader →
      message.string? m.name = .ok ((v.get? m.name).map Value.plain) ∧
      ∀ w, v.get? m.name = some w → w.draft F = .text w.plain)
    {p : String → Prop} {fields : List (String × Draft)} (h : Carried F v p fields) :
    ∃ after, readEventHeaders message members fields = .ok after ∧
      Carried F v (fun x => p x ∨ Among (· = .eventHeader) members x) after := by
  induction members generalizing p fields with
  | nil => exact ⟨fields, rfl, h.among_nil⟩
  | cons m rest ih =>
    have hrest := fun m hm => each m (List.mem_cons_of_mem _ hm)
    rw [readEventHeaders]
    by_cases hplace : m.place = .eventHeader
    · obtain ⟨hstring, htext⟩ := each m List.mem_cons_self hplace
      rw [if_pos hplace, hstring, Results.ok_bind]
      cases hw : v.get? m.name with
      | some w =>
        obtain ⟨after, hafter, hc⟩ := ih hrest (h.give hw)
        rw [htext w hw] at hafter
        exact ⟨after, hafter, hc.among_cons hplace⟩
      | none =>
        obtain ⟨after, hafter, hc⟩ := ih hrest (h.skip hw)
        exact ⟨after, hafter, hc.among_cons hplace⟩
    · obtain ⟨after, hafter, hc⟩ := ih hrest h
      rw [if_neg hplace]
      exact ⟨after, hafter, hc.among_cons_of_not hplace⟩

/-! ### Payloads -/

/-- What the payload of an event needs in order to come back: a member that is the payload is there, and
members in an object are read from their texts. -/
structure Payable (S : Schema ν) (F : Flavour) (n : ν) (fields : List (String × Value)) : Prop where
  present : ∀ m, payloadMember? (S.members n) = some m → ∃ bytes, Entries.get? m.name fields = some (.blob bytes)
  solid : ∀ f ∈ fields, f.2 ≠ .stream
  body : ∀ m ∈ S.members n, m.place = .body → ∀ w, Entries.get? m.name fields = some w →
    ReadsValue S F m.target w ∧ w.toNode.Plain ∧ w.toNode.tree.depth < maxDepth

theorem readEventPayload_carried (hS : WellFormed S) (hE : EventShape S n)
    {fields : List (String × Value)}
    (order : (fields.map Prod.fst).Sublist ((S.members n).map (·.name))) (hpay : Payable S F n fields)
    {p : String → Prop} {given : List (String × Draft)} (h : Carried F (.struct fields) p given) :
    ∃ after q, S.readEventPayload F n (eventPayload (.struct fields) (S.members n)).2 given = .ok after ∧
      Carried F (.struct fields) q after ∧
      ∀ x, p x ∨ Among (· ≠ .eventHeader) (S.members n) x → q x := by
  unfold readEventPayload eventPayload
  cases hmember : payloadMember? (S.members n) with
  | some m =>
    obtain ⟨bytes, hbytes⟩ := hpay.present m hmember
    have hget : (Value.struct fields).get? m.name = some (.blob bytes) := hbytes
    have hcarried := h.give hget
    simp only [hmember, hget, blobBytes]
    refine ⟨_, _, rfl, hcarried, ?_⟩
    rintro x (hp | ⟨other, hother, hplace, rfl⟩)
    · exact .inl hp
    · rcases hE.placed other hother with hheader | hsame | ⟨hnone, -⟩
      · exact absurd hheader hplace
      · rw [hmember] at hsame
        exact .inr (congrArg Member.name (Option.some.inj hsame).symm)
      · rw [hmember] at hnone
        cases hnone
  | none =>
    obtain ⟨after, hafter, hc⟩ := readBody_carried (hS.nodup n) order hpay.solid hpay.body h
    simp only [hmember, hafter]
    refine ⟨after, _, rfl, hc, ?_⟩
    rintro x (hp | ⟨other, hother, hplace, rfl⟩)
    · exact .inl hp
    · rcases hE.placed other hother with hheader | hsome | ⟨-, hbody⟩
      · exact absurd hheader hplace
      · rw [hmember] at hsome
        cases hsome
      · exact .inr ⟨other, hother, hbody, rfl⟩

/-! ### Events -/

/-- The fields before those of the members: what kind of message it is, and of which form. -/
def leading (messageType kind name form : String) : List (String × HeaderValue) :=
  [textHeader messageTypeHeader messageType, textHeader kind name, textHeader contentTypeHeader form]

theorem envelope_event (name form : String) (fields : List (String × HeaderValue)) (payload : List UInt8) :
    Envelope.read ⟨leading "event" eventTypeHeader name form ++ fields, payload⟩ =
      .ok ⟨"event", name, some form⟩ := by
  simp [Envelope.read, leading, textHeader, Message.stringOf, Message.string?, Message.header?, nameHeader,
    messageTypeHeader, eventTypeHeader, contentTypeHeader, bind, Except.bind]

theorem envelope_exception (name form : String) (fields : List (String × HeaderValue)) (payload : List UInt8) :
    Envelope.read ⟨leading "exception" exceptionTypeHeader name form ++ fields, payload⟩ =
      .ok ⟨"exception", name, some form⟩ := by
  simp [Envelope.read, leading, textHeader, Message.stringOf, Message.string?, Message.header?, nameHeader,
    messageTypeHeader, exceptionTypeHeader, contentTypeHeader, bind, Except.bind]

/-- **From the message of a value that value is read.** -/
theorem readEvent_written (hS : WellFormed S) (hE : EventShape S n) {fields : List (String × Value)}
    (hv : Conforms S F n (.struct fields)) (hpay : Payable S F n fields) {kind : String}
    (hkind : kind ∈ [eventTypeHeader, exceptionTypeHeader]) (messageType name form what : String) :
    S.readEvent F n what ⟨leading messageType kind name form ++ eventHeaders (.struct fields) (S.members n),
      (eventPayload (.struct fields) (S.members n)).2⟩ = .ok (.struct fields) := by
  obtain ⟨members, shape, order, standing, each⟩ := hv.struct_inv
  obtain rfl := members_of_struct shape
  have hfound : ∀ m ∈ S.members n, m.place = .eventHeader →
      (⟨leading messageType kind name form ++ eventHeaders (.struct fields) (S.members n),
        (eventPayload (.struct fields) (S.members n)).2⟩ : Message).string? m.name =
          .ok (((Value.struct fields).get? m.name).map Value.plain) ∧
      ∀ w, (Value.struct fields).get? m.name = some w → w.draft F = .text w.plain := by
    intro m hm hplace
    have hother : m.name ∉ (leading messageType kind name form).map Prod.fst := by
      intro hin
      refine hE.named m hm hplace ?_
      simp only [leading, textHeader, List.map_cons, List.map_nil, List.mem_cons, List.not_mem_nil,
        or_false] at hin hkind ⊢
      rcases hin with h | h | h
      · exact .inl h
      · rcases hkind with rfl | rfl
        · exact .inr (.inl h)
        · exact .inr (.inr (.inl h))
      · exact .inr (.inr (.inr h))
    refine ⟨string?_written (hS.nodup n) hm hplace hother _, ?_⟩
    intro w hw
    exact (each m hm w hw).plain_of_text (hE.header m hm hplace)
  obtain ⟨given, hgiven, hheaders⟩ := readEventHeaders_carried hfound carried_nil
  obtain ⟨after, q, hafter, hcarried, hall⟩ := readEventPayload_carried hS hE order hpay hheaders
  have hin : ∀ m ∈ S.members n, q m.name := by
    intro m hm
    apply hall
    by_cases hplace : m.place = .eventHeader
    · exact .inl (.inr ⟨m, hm, hplace, rfl⟩)
    · exact .inr ⟨m, hm, hplace, rfl⟩
  have hbuild : S.build F n (.struct after) = .ok (.struct fields) := by
    rw [build_of_carried hin hcarried]
    exact build_fieldDrafts hS shape order standing fun m hm w hw => (each m hm w hw).build_draft hS
  rw [readEvent, hgiven, Results.ok_bind, hafter, Results.ok_bind, hbuild]

section Stream

variable {es : EventStream ν} {name : String} {fields : List (String × Value)}

theorem marshall_struct (hn : Entries.get? name es.events = some n) :
    S.marshall es (.variant name (.struct fields)) =
      .ok ⟨leading "event" eventTypeHeader name (eventPayload (.struct fields) (S.members n)).1 ++
        eventHeaders (.struct fields) (S.members n), (eventPayload (.struct fields) (S.members n)).2⟩ := by
  unfold marshall
  simp only [hn]
  rfl

/-- **An event comes back from its message as it was.** -/
theorem unmarshall_marshall (hS : WellFormed S) (hE : EventShape S n)
    (hn : Entries.get? name es.events = some n) (hv : Conforms S F n (.struct fields))
    (hpay : Payable S F n fields) :
    ∃ message, S.marshall es (.variant name (.struct fields)) = .ok message ∧
      S.unmarshall F es message = .ok (.event (.variant name (.struct fields))) := by
  refine ⟨_, marshall_struct hn, ?_⟩
  have hread := readEvent_written hS hE hv hpay List.mem_cons_self "event" name
    (eventPayload (.struct fields) (S.members n)).1 s!"`{name}` event"
  rw [unmarshall, envelope_event, Results.ok_bind]
  simp only [hn, if_pos, hread, Results.ok_bind]

/-- Members that all travel in an object are the object that is written for the whole value. -/
theorem bodyBytes_all (hS : WellFormed S) (hbody : ∀ m ∈ S.members n, m.place = .body)
    (hv : Conforms S F n (.struct fields)) :
    bodyBytes (S.members n) (.struct fields) = Utf8.encode (Value.struct fields).toJson := by
  obtain ⟨members, shape, order, -, -⟩ := hv.struct_inv
  obtain rfl := members_of_struct shape
  have hall : bodyFields (S.members n) fields = fields := by
    unfold bodyFields
    rw [List.filter_eq_self]
    intro f hf
    obtain ⟨m, hm, hname, -⟩ := get?_of_mem_fields hS shape order hf
    exact mem_bodyNames.2 ⟨m, hm, hbody m hm, hname⟩
  rw [bodyBytes_struct, hall]

/-- **An error whose members all travel in an object comes back from its message as it was.** -/
theorem unmarshall_marshallError [DecidableEq ν] (hS : WellFormed S)
    (hbody : ∀ m ∈ S.members n, m.place = .body)
    (hname : (es.errors.find? fun e => decide (e.2 = n)) = some (name, n))
    (hn : Entries.get? name es.errors = some n) (hv : Conforms S F n (.struct fields))
    (hpay : Payable S F n fields) :
    S.unmarshall F es (S.marshallError es (.modeled n (.struct fields))) =
      .ok (.failure (.modeled n (.struct fields))) := by
  have hno : payloadMember? (S.members n) = none := by
    unfold payloadMember?
    rw [List.find?_eq_none]
    intro m hm
    rw [hbody m hm]
    decide
  have hheaders : eventHeaders (.struct fields) (S.members n) = [] := by
    unfold eventHeaders
    rw [List.filterMap_eq_nil_iff]
    intro m hm
    rw [hbody m hm]
  have hE : EventShape S n := by
    refine ⟨?_, fun m hm => .inr (.inr ⟨hno, hbody m hm⟩), ?_⟩ <;>
    · intro m hm hplace
      rw [hbody m hm] at hplace
      cases hplace
  have hmessage : S.marshallError es (.modeled n (.struct fields)) =
      ⟨leading "exception" exceptionTypeHeader name "application/json" ++
        eventHeaders (.struct fields) (S.members n), (eventPayload (.struct fields) (S.members n)).2⟩ := by
    rw [hheaders, List.append_nil]
    unfold marshallError eventPayload
    simp only [hname, hno, bodyBytes_all hS hbody hv]
    rfl
  have hread := readEvent_written hS hE hv hpay (List.mem_cons_of_mem _ List.mem_cons_self) "exception" name
    "application/json" s!"`{name}` exception"
  rw [hmessage, unmarshall, envelope_exception, Results.ok_bind]
  simp [hn, hread, Results.ok_bind]

end Stream

/-! ### Values without rules -/

/-- The values of the shape have no rule to keep and no type of their own. -/
def Unruled (shape : Shape ν) : Prop := shape = .text .free ∨ shape = .blob

/-- **A structure of values without rules is the same on all sides.** -/
theorem Conforms.transfer (G : Flavour) (hmembers : ∀ m ∈ S.members n, Unruled (S.shape m.target))
    {fields : List (String × Value)} (h : Conforms S F n (.struct fields)) :
    Conforms S G n (.struct fields) := by
  obtain ⟨members, shape, order, standing, each⟩ := h.struct_inv
  obtain rfl := members_of_struct shape
  refine .struct shape order standing ?_
  intro m hm w hw
  have hmember := each m hm w hw
  rcases hmembers m hm with htext | hblob
  · obtain ⟨s, rfl⟩ := hmember.of_freeText htext
    exact .text htext (by cases G <;> rfl) fun _ => admits_free s
  · obtain ⟨bytes, rfl⟩ := hmember.of_blob hblob
    exact .blob hblob

end WireShapes.Schema
