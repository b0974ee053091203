import WireShapes.Proofs.Code.Growth
import WireShapes.Proofs.Code.Places
import WireShapes.Proofs.Model.Distinct

/-!
The code for event streams.

* `EventParts`, `ErrorParts`, `StreamParts`: the code for an event, an error and a stream, in parts
* `StreamParts.code`: the code for a stream, from its parts
* `StreamParts.Placed`: what each part does with the members of its event or error
* `members_placed`: all code for event streams is made of such parts
-/

namespace WireShapes.Code

open Generator

/-! ### Parts -/

structure EventParts where
  member : Member
  target : Shape
  /-- Fills the builder from a message. -/
  reading : List Step
  /-- Binds the payload of a message. -/
  payload : List Step
  contentType : String
  /-- Adds header fields to a message. -/
  headers : List Step

structure ErrorParts where
  member : Member
  target : Shape
  /-- Fills the builder from a message. -/
  reading : List Step
  /-- Binds the payload of a message. -/
  payload : List Step

structure StreamParts where
  shape : Shape
  events : List EventParts
  errors : List ErrorParts

def EventParts.readArm (s : Scope) (shape : Shape) (e : EventParts) : Step :=
  eventReadArm s shape e.member e.target e.reading

def EventParts.writeArm (s : Scope) (shape : Shape) (e : EventParts) : Step :=
  eventWriteArm s shape e.member e.payload e.contentType e.headers

def ErrorParts.readArm (s : Scope) (shape : Shape) (e : ErrorParts) : Step :=
  errorReadArm s shape e.member e.target e.reading

def ErrorParts.writeArm (s : Scope) (shape : Shape) (e : ErrorParts) : Step :=
  errorWriteArm s shape e.member e.payload

/-- The type that reads the messages of the stream, the type that writes its events and the type that
writes its errors. -/
def StreamParts.code (s : Scope) (p : StreamParts) : List Step :=
  let events := p.events.map (·.member)
  messageReader s p.shape events (p.events.map (EventParts.readArm s p.shape))
      (p.errors.map (ErrorParts.readArm s p.shape))
    ++ [.blank]
    ++ eventMessageWriter s p.shape
      (p.events.map (EventParts.writeArm s p.shape) ++ unknownWriteArms s p.shape events)
    ++ [.blank]
    ++ errorMessageWriter s p.shape
      (p.errors.map (ErrorParts.writeArm s p.shape) ++ [unhandledWriteArm s p.shape])
    ++ [.blank, .needs .support, .needs .http]

/-- An event is written to the places that it is read from. These are places of all its members, unless
one stands beside the payload. -/
structure EventParts.Placed (s : Scope) (written : List Function) (e : EventParts) : Prop where
  target : s.model.target e.member = .ok e.target
  reads : ReadsFrom s written e.target (eventPlaces e.target) e.reading
  writes : WritesTo s written e.target (eventPlaces e.target) e.payload e.headers
  all : ((eventPlaces e.target).map Prod.fst).Perm e.target.members ↔ OnePayload e.target
  apart : Apart e.target → ((eventPlaces e.target).map Prod.snd).Nodup

/-- An error is read from the places of an event, and written under keys. These are the same places exactly
if all its members travel in the object, and then no member is left out. -/
structure ErrorParts.Placed (s : Scope) (written : List Function) (e : ErrorParts) : Prop where
  target : s.model.target e.member = .ok e.target
  reads : ReadsFrom s written e.target (eventPlaces e.target) e.reading
  writes : e.target.isStruct = true → WritesTo s written e.target (errorPlaces s e.target) e.payload []
  same : errorPlaces s e.target = eventPlaces e.target ↔ AllInObject s e.target
  all : AllInObject s e.target → ((eventPlaces e.target).map Prod.fst).Perm e.target.members
  apart : Apart e.target → ((eventPlaces e.target).map Prod.snd).Nodup

/-- Every member of the stream has its part, as an event or as an error, and the parts keep to the places of
their members. -/
structure StreamParts.Placed (s : Scope) (written : List Function) (p : StreamParts) : Prop where
  complete : ∀ member ∈ p.shape.members, ∃ target, s.model.target member = .ok target ∧
    ((target.isError = false ∧ ∃ e ∈ p.events, e.member = member) ∨
      (target.isError = true ∧ ∃ e ∈ p.errors, e.member = member))
  events : ∀ e ∈ p.events, e.Placed s written
  errors : ∀ e ∈ p.errors, e.Placed s written

/-! ### Arms -/

variable {s : Scope} {f f' : Functions} {shape : Shape} {member : Member}

/-- The arm, which is made of its code in this way, reads an event or an error from the places of an
event. -/
def ReadsArm (s : Scope) (make : Member → Shape → List Step → Step) (written : List Function) (member : Member)
    (arm : Step) : Prop :=
  ∃ target reading, s.model.target member = .ok target ∧ make member target reading = arm ∧
    ReadsFrom s written target (eventPlaces target) reading

/-- The arm writes an event to its places. -/
def WritesEvent (s : Scope) (shape : Shape) (written : List Function) (member : Member) (arm : Step) : Prop :=
  ∃ target payload contentType headers, s.model.target member = .ok target ∧
    eventWriteArm s shape member payload contentType headers = arm ∧
    WritesTo s written target (eventPlaces target) payload headers

/-- The arm writes an error under keys. -/
def WritesError (s : Scope) (shape : Shape) (written : List Function) (member : Member) (arm : Step) : Prop :=
  ∃ target payload, s.model.target member = .ok target ∧ errorWriteArm s shape member payload = arm ∧
    (target.isStruct = true → WritesTo s written target (errorPlaces s target) payload [])

/-- Generation of an arm keeps what is there, and the arm does this with the functions that are written then,
and with more of them. -/
structure Arms (s : Scope) (P : List Function → Member → Step → Prop) (each : Member → Generator Step) :
    Prop where
  moves : ∀ member, Moves (Keeps s) (each member)
  does : ∀ member f arm f', Sound s [] f → Runs (each member) f arm f' → P f'.written member arm
  mono : ∀ {written more member arm}, written ⊆ more → P written member arm → P more member arm

section Arms

variable {P : List Function → Member → Step → Prop} {each : Member → Generator Step} {members : List Member}
  {arms : List Step}

theorem Arms.moves_mapM (h : Arms s P each) (members : List Member) : Moves (Keeps s) (members.mapM each) :=
  Moves.mapM (course_keeps s) fun member _ => h.moves member

/-- **One arm for each member**: what an arm does with the functions that are written when it is generated,
it does with those that are written in the end. -/
theorem Arms.all (h : Arms s P each) (hs : Sound s [] f) (hrun : Runs (members.mapM each) f arms f')
    {written : List Function} (hsub : f'.written ⊆ written) : List.Forall₂ (P written) members arms := by
  refine (runs_mapM (course_keeps s) (fun member _ => h.moves member) hrun).imp ?_
  rintro member arm ⟨before, after, hbefore, hrun, hafter⟩
  have hdoes := h.does member before arm after (hbefore.sound [] hs) hrun
  exact h.mono (List.Subset.trans hafter.written.subset hsub) hdoes

end Arms

theorem eventStructure_target {target : Shape} (h : eventStructure s member = .ok target) :
    s.model.target member = .ok target := by
  unfold eventStructure at h
  obtain ⟨found, hfound, h⟩ := Results.bind_eq_ok_iff.1 h
  split at h
  · rw [hfound, Except.ok.inj h]
  · cases h

theorem moves_eventStructure {α : Type} {k : Shape → Generator α}
    (hk : ∀ target, s.Listed target → Moves (Keeps s) (k target)) :
    Moves (Keeps s) (Generator.lift (eventStructure s member) >>= k) :=
  (moves_lift (course_keeps s) _).bind (course_keeps s) fun target h =>
    hk target (listed_of_target (eventStructure_target (gives_lift h)))

theorem ReadsArm.mono {make : Member → Shape → List Step → Step} {written more : List Function} {arm : Step}
    (hsub : written ⊆ more) (h : ReadsArm s make written member arm) : ReadsArm s make more member arm := by
  obtain ⟨target, reading, htarget, harm, hreads⟩ := h
  exact ⟨target, reading, htarget, harm, hreads.mono hsub⟩

theorem arms_eventReading (s : Scope) (shape : Shape) :
    Arms s (ReadsArm s (eventReadArm s shape)) (eventReading s shape) where
  moves member := by
    have hR := course_keeps s
    unfold eventReading
    refine moves_eventStructure fun target ht => ?_
    exact (moves_readEvent ht).bind hR fun _ _ => moves_pure hR _
  does member f arm f' hs h := by
    unfold eventReading at h
    obtain ⟨target, htarget, h⟩ := runs_lift_bind.1 h
    obtain ⟨reading, _, hreading, h⟩ := runs_bind.1 h
    obtain ⟨rfl, rfl⟩ := runs_pure.1 h
    have htarget := eventStructure_target htarget
    exact ⟨target, reading, htarget, rfl, reads_readEvent (listed_of_target htarget) hs hreading⟩
  mono := ReadsArm.mono

theorem arms_errorReading (s : Scope) (shape : Shape) :
    Arms s (ReadsArm s (errorReadArm s shape)) (errorReading s shape) where
  moves member := by
    have hR := course_keeps s
    unfold errorReading
    refine moves_target hR fun target ht => ?_
    exact (moves_readEvent ht).bind hR fun _ _ => moves_pure hR _
  does member f arm f' hs h := by
    unfold errorReading at h
    obtain ⟨target, htarget, h⟩ := runs_lift_bind.1 h
    obtain ⟨reading, _, hreading, h⟩ := runs_bind.1 h
    obtain ⟨rfl, rfl⟩ := runs_pure.1 h
    exact ⟨target, reading, htarget, rfl, reads_readEvent (listed_of_target htarget) hs hreading⟩
  mono := ReadsArm.mono

theorem arms_eventWriting (s : Scope) (shape : Shape) : Arms s (WritesEvent s shape) (eventWriting s shape) where
  moves member := by
    have hR := course_keeps s
    unfold eventWriting
    refine moves_eventStructure fun target ht => ?_
    refine (moves_writePayload ht).bind hR fun pair _ => ?_
    exact (moves_lift hR _).bind hR fun _ _ => moves_pure hR _
  does member f arm f' hs h := by
    unfold eventWriting at h
    obtain ⟨target, htarget, h⟩ := runs_lift_bind.1 h
    obtain ⟨⟨payload, contentType⟩, _, hpayload, h⟩ := runs_bind.1 h
    obtain ⟨headers, hheaders, h⟩ := runs_lift_bind.1 h
    obtain ⟨rfl, rfl⟩ := runs_pure.1 h
    have htarget := eventStructure_target htarget
    have hwrites := writes_writePayload (listed_of_target htarget) hs hpayload hheaders
    exact ⟨target, payload, contentType, headers, htarget, rfl, hwrites⟩
  mono := by
    rintro written more member arm hsub ⟨target, payload, contentType, headers, htarget, harm, hwrites⟩
    exact ⟨target, payload, contentType, headers, htarget, harm, hwrites.mono hsub⟩

theorem arms_errorWriting (s : Scope) (shape : Shape) : Arms s (WritesError s shape) (errorWriting s shape) where
  moves member := by
    have hR := course_keeps s
    unfold errorWriting
    refine moves_target hR fun target ht => ?_
    exact (calls_writerWithin s _ target ht).bind hR fun _ _ => moves_pure hR _
  does member f arm f' hs h := by
    unfold errorWriting at h
    obtain ⟨target, htarget, h⟩ := runs_lift_bind.1 h
    obtain ⟨function, _, hfunction, h⟩ := runs_bind.1 h
    obtain ⟨rfl, rfl⟩ := runs_pure.1 h
    refine ⟨target, _, htarget, rfl, fun hstruct => ?_⟩
    obtain ⟨members, hmembers⟩ : ∃ members, target.kind = .struct members := by
      unfold Shape.isStruct at hstruct
      split at hstruct
      · next members hkind => exact ⟨members, hkind⟩
      · cases hstruct
    obtain ⟨g, hg, his, hhandles⟩ := handles_writerFunction (listed_of_target htarget) hmembers hs hfunction
    obtain rfl := his.name
    have hown : target.members = members := by
      unfold Shape.members
      rw [hmembers]
    unfold errorPlaces
    rw [hown]
    exact .object .nil ⟨g, hg, his.shape, by rw [his.form]; rfl, hhandles, rfl⟩
  mono := by
    rintro written more member arm hsub ⟨target, payload, htarget, harm, hwrites⟩
    exact ⟨target, payload, htarget, harm, fun hstruct => (hwrites hstruct).mono hsub⟩

/-! ### Streams -/

/-- Arms that read and arms that write are those of parts. -/
theorem exists_parts {α : Type} (key : α → Member) (read write : α → Step) (Q : α → Prop)
    {R W : Member → Step → Prop}
    (hpart : ∀ member r w, R member r → W member w → ∃ p, Q p ∧ key p = member ∧ read p = r ∧ write p = w)
    {members : List Member} {reads writes : List Step} (hr : List.Forall₂ R members reads)
    (hw : List.Forall₂ W members writes) :
    ∃ parts : List α, parts.map key = members ∧ parts.map read = reads ∧ parts.map write = writes ∧
      ∀ p ∈ parts, Q p := by
  induction hr generalizing writes with
  | nil =>
    cases hw
    exact ⟨[], rfl, rfl, rfl, fun p hp => by cases hp⟩
  | cons hread _ ih =>
    cases hw with
    | cons hwrite hrest =>
      obtain ⟨p, hq, rfl, rfl, rfl⟩ := hpart _ _ _ hread hwrite
      obtain ⟨parts, rfl, rfl, rfl, hall⟩ := ih hrest
      refine ⟨p :: parts, rfl, rfl, rfl, ?_⟩
      intro other hother
      rcases List.mem_cons.1 hother with rfl | hother
      · exact hq
      · exact hall other hother

/-- A member of a stream is an event or an error, after what it targets. -/
theorem event_or_error {events errors : List Member} (hevents : s.streamEvents shape = .ok events)
    (herrors : s.streamErrors shape = .ok errors) (hm : member ∈ shape.members) :
    ∃ target, s.model.target member = .ok target ∧
      ((target.isError = false ∧ member ∈ events) ∨ (target.isError = true ∧ member ∈ errors)) := by
  unfold Scope.streamEvents at hevents
  unfold Scope.streamErrors at herrors
  obtain ⟨sorted, hsorted, hevents⟩ := Results.bind_eq_ok_iff.1 hevents
  obtain ⟨again, hagain, herrors⟩ := Results.bind_eq_ok_iff.1 herrors
  cases hevents
  cases herrors
  obtain rfl := Except.ok.inj (hsorted.symm.trans hagain)
  unfold Scope.unionMembers at hsorted
  unfold Shape.members at hm
  cases hkind : shape.kind with
  | union members =>
    simp only [hkind] at hsorted hm
    obtain ⟨pair, hpair, hsorted⟩ := Results.exists_of_mapM hsorted hm
    obtain ⟨target, htarget, hsorted⟩ := Results.bind_eq_ok_iff.1 hsorted
    cases hsorted
    refine ⟨target, htarget, ?_⟩
    cases herror : target.isError with
    | false =>
      rw [herror] at hpair
      exact .inl ⟨rfl, List.mem_map.2 ⟨_, List.mem_filter.2 ⟨hpair, rfl⟩, rfl⟩⟩
    | true =>
      rw [herror] at hpair
      exact .inr ⟨rfl, List.mem_map.2 ⟨_, List.mem_filter.2 ⟨hpair, rfl⟩, rfl⟩⟩
  | _ => simp [hkind] at hsorted

theorem moves_eventReader (s : Scope) (shape : Shape) : Moves (Keeps s) (eventReader s shape) := by
  have hR := course_keeps s
  unfold eventReader
  refine (moves_lift hR _).bind hR fun events _ => (moves_lift hR _).bind hR fun errors _ => ?_
  refine ((arms_eventReading s shape).moves_mapM events).bind hR fun _ _ => ?_
  exact ((arms_errorReading s shape).moves_mapM errors).bind hR fun _ _ => moves_pure hR _

theorem moves_eventWriter (s : Scope) (shape : Shape) : Moves (Keeps s) (eventWriter s shape) := by
  have hR := course_keeps s
  unfold eventWriter
  refine (moves_lift hR _).bind hR fun events _ => ?_
  exact ((arms_eventWriting s shape).moves_mapM events).bind hR fun _ _ => moves_pure hR _

theorem moves_streamErrorWriter (s : Scope) (shape : Shape) : Moves (Keeps s) (streamErrorWriter s shape) := by
  have hR := course_keeps s
  unfold streamErrorWriter
  refine (moves_lift hR _).bind hR fun errors _ => ?_
  exact ((arms_errorWriting s shape).moves_mapM errors).bind hR fun _ _ => moves_pure hR _

theorem moves_streamCode (s : Scope) (shape : Shape) : Moves (Keeps s) (streamCode s shape) := by
  have hR := course_keeps s
  unfold streamCode
  refine (moves_eventReader s shape).bind hR fun _ _ => (moves_eventWriter s shape).bind hR fun _ _ => ?_
  exact (moves_streamErrorWriter s shape).bind hR fun _ _ => moves_pure hR _

theorem exists_eventParts {written : List Function} {members : List Member} {reads writes : List Step}
    (hr : List.Forall₂ (ReadsArm s (eventReadArm s shape) written) members reads)
    (hw : List.Forall₂ (WritesEvent s shape written) members writes) :
    ∃ parts : List EventParts, parts.map (·.member) = members ∧ parts.map (EventParts.readArm s shape) = reads ∧
      parts.map (EventParts.writeArm s shape) = writes ∧ ∀ p ∈ parts, p.Placed s written := by
  refine exists_parts _ _ _ (EventParts.Placed s written) ?_ hr hw
  rintro member r w ⟨target, reading, htarget, rfl, hreads⟩
  rintro ⟨other, payload, contentType, headers, hother, rfl, hwrites⟩
  obtain rfl := Except.ok.inj (htarget.symm.trans hother)
  exact ⟨⟨member, target, reading, payload, contentType, headers⟩,
    ⟨htarget, hreads, hwrites, perm_eventPlaces target, nodup_eventPlaces⟩, rfl, rfl, rfl⟩

theorem exists_errorParts {written : List Function} {members : List Member} {reads writes : List Step}
    (hr : List.Forall₂ (ReadsArm s (errorReadArm s shape) written) members reads)
    (hw : List.Forall₂ (WritesError s shape written) members writes) :
    ∃ parts : List ErrorParts, parts.map (·.member) = members ∧ parts.map (ErrorParts.readArm s shape) = reads ∧
      parts.map (ErrorParts.writeArm s shape) = writes ∧ ∀ p ∈ parts, p.Placed s written := by
  refine exists_parts _ _ _ (ErrorParts.Placed s written) ?_ hr hw
  rintro member r w ⟨target, reading, htarget, rfl, hreads⟩ ⟨other, payload, hother, rfl, hwrites⟩
  obtain rfl := Except.ok.inj (htarget.symm.trans hother)
  exact ⟨⟨member, target, reading, payload⟩,
    ⟨htarget, hreads, hwrites, errorPlaces_eq_iff s target, fun h => (perm_eventPlaces target).2 h.onePayload,
      nodup_eventPlaces⟩,
    rfl, rfl, rfl⟩

theorem arms_eventReader (hs : Sound s [] f) {code : List Step} (h : Runs (eventReader s shape) f code f')
    {written : List Function} (hsub : f'.written ⊆ written) :
    ∃ events errors eventReads errorReads, s.streamEvents shape = .ok events ∧ s.streamErrors shape = .ok errors ∧
      code = messageReader s shape events eventReads errorReads ∧
      List.Forall₂ (ReadsArm s (eventReadArm s shape) written) events eventReads ∧
      List.Forall₂ (ReadsArm s (errorReadArm s shape) written) errors errorReads := by
  unfold eventReader at h
  obtain ⟨events, hevents, h⟩ := runs_lift_bind.1 h
  obtain ⟨errors, herrors, h⟩ := runs_lift_bind.1 h
  obtain ⟨eventReads, middle, heventReads, h⟩ := runs_bind.1 h
  obtain ⟨errorReads, _, herrorReads, h⟩ := runs_bind.1 h
  obtain ⟨rfl, rfl⟩ := runs_pure.1 h
  have hfirst := (arms_eventReading s shape).moves_mapM events _ _ _ heventReads
  have hsecond := (arms_errorReading s shape).moves_mapM errors _ _ _ herrorReads
  refine ⟨events, errors, eventReads, errorReads, hevents, herrors, rfl, ?_, ?_⟩
  · exact (arms_eventReading s shape).all hs heventReads (List.Subset.trans hsecond.written.subset hsub)
  · exact (arms_errorReading s shape).all (hfirst.sound [] hs) herrorReads hsub

theorem arms_eventWriter (hs : Sound s [] f) {code : List Step} (h : Runs (eventWriter s shape) f code f')
    {events : List Member} (hevents : s.streamEvents shape = .ok events) {written : List Function}
    (hsub : f'.written ⊆ written) :
    ∃ arms, code = eventMessageWriter s shape (arms ++ unknownWriteArms s shape events) ∧
      List.Forall₂ (WritesEvent s shape written) events arms := by
  unfold eventWriter at h
  obtain ⟨same, hsame, h⟩ := runs_lift_bind.1 h
  obtain rfl := Except.ok.inj (hevents.symm.trans hsame)
  obtain ⟨arms, _, harms, h⟩ := runs_bind.1 h
  obtain ⟨rfl, rfl⟩ := runs_pure.1 h
  exact ⟨arms, rfl, (arms_eventWriting s shape).all hs harms hsub⟩

theorem arms_streamErrorWriter (hs : Sound s [] f) {code : List Step}
    (h : Runs (streamErrorWriter s shape) f code f') {errors : List Member}
    (herrors : s.streamErrors shape = .ok errors) {written : List Function} (hsub : f'.written ⊆ written) :
    ∃ arms, code = errorMessageWriter s shape (arms ++ [unhandledWriteArm s shape]) ∧
      List.Forall₂ (WritesError s shape written) errors arms := by
  unfold streamErrorWriter at h
  obtain ⟨same, hsame, h⟩ := runs_lift_bind.1 h
  obtain rfl := Except.ok.inj (herrors.symm.trans hsame)
  obtain ⟨arms, _, harms, h⟩ := runs_bind.1 h
  obtain ⟨rfl, rfl⟩ := runs_pure.1 h
  exact ⟨arms, rfl, (arms_errorWriting s shape).all hs harms hsub⟩

/-- **The code for a stream is made of parts** that keep to the places of their members. -/
theorem parts_of_streamCode (hs : Sound s [] f) {code : List Step} (h : Runs (streamCode s shape) f code f') :
    ∃ p : StreamParts, p.shape = shape ∧ p.code s = code ∧ p.Placed s f'.written := by
  unfold streamCode at h
  obtain ⟨reader, f₁, hreader, h⟩ := runs_bind.1 h
  obtain ⟨writer, f₂, hwriter, h⟩ := runs_bind.1 h
  obtain ⟨errorWriter, f₃, herrorWriter, h⟩ := runs_bind.1 h
  obtain ⟨rfl, rfl⟩ := runs_pure.1 h
  have hfirst := moves_eventReader s shape _ _ _ hreader
  have hsecond := moves_eventWriter s shape _ _ _ hwriter
  have hthird := moves_streamErrorWriter s shape _ _ _ herrorWriter
  have hs₁ := hfirst.sound [] hs
  have hs₂ := hsecond.sound [] hs₁
  have hsub₂ := hthird.written.subset
  have hsub₁ := (hsecond.written.trans hthird.written).subset
  obtain ⟨events, errors, eventReads, errorReads, hevents, herrors, rfl, hreadEvents, hreadErrors⟩ :=
    arms_eventReader hs hreader hsub₁
  obtain ⟨eventWrites, rfl, hwriteEvents⟩ := arms_eventWriter hs₁ hwriter hevents hsub₂
  obtain ⟨errorWrites, rfl, hwriteErrors⟩ :=
    arms_streamErrorWriter hs₂ herrorWriter herrors (List.Subset.refl _)
  -- an arm that reads and an arm that writes are the two sides of one part
  obtain ⟨eventParts, rfl, rfl, rfl, heventParts⟩ := exists_eventParts hreadEvents hwriteEvents
  obtain ⟨errorParts, rfl, rfl, rfl, herrorParts⟩ := exists_errorParts hreadErrors hwriteErrors
  refine ⟨⟨shape, eventParts, errorParts⟩, rfl, rfl, ?_, heventParts, herrorParts⟩
  intro member hmember
  obtain ⟨target, htarget, hside⟩ := event_or_error hevents herrors hmember
  refine ⟨target, htarget, ?_⟩
  rcases hside with ⟨hevent, hin⟩ | ⟨herror, hin⟩
  · exact .inl ⟨hevent, List.mem_map.1 hin⟩
  · exact .inr ⟨herror, List.mem_map.1 hin⟩

theorem StreamParts.Placed.mono {written more : List Function} (hsub : written ⊆ more) {p : StreamParts}
    (h : p.Placed s written) : p.Placed s more := by
  refine ⟨h.complete, fun e he => ?_, fun e he => ?_⟩
  · have hplaced := h.events e he
    exact ⟨hplaced.target, hplaced.reads.mono hsub, hplaced.writes.mono hsub, hplaced.all,
      hplaced.apart⟩
  · have hplaced := h.errors e he
    exact ⟨hplaced.target, hplaced.reads.mono hsub, fun hstruct => (hplaced.writes hstruct).mono hsub,
      hplaced.same, hplaced.all, hplaced.apart⟩

theorem exists_streamParts {written : List Function} {shapes : List Shape} {streams : List (List Step)}
    (h : List.Forall₂
      (fun shape code => ∃ p : StreamParts, p.shape = shape ∧ p.code s = code ∧ p.Placed s written)
      shapes streams) :
    ∃ parts : List StreamParts, parts.map (·.shape) = shapes ∧
      parts.flatMap (StreamParts.code s) = streams.flatten ∧ ∀ p ∈ parts, p.Placed s written := by
  induction h with
  | nil => exact ⟨[], rfl, rfl, fun p hp => by cases hp⟩
  | cons hhead _ ih =>
    obtain ⟨p, rfl, rfl, hplaced⟩ := hhead
    obtain ⟨parts, rfl, hcode, hparts⟩ := ih
    refine ⟨p :: parts, rfl, by rw [List.flatMap_cons, List.flatten_cons, hcode], ?_⟩
    intro other hother
    rcases List.mem_cons.1 hother with rfl | hother
    · exact hplaced
    · exact hparts other hother

/-- **The module of event streams is made of parts**, one after the other. -/
theorem parts_of_eventModule (hs : Sound s [] f) {code : List Step} (h : Runs s.eventModule f code f') :
    ∃ parts : List StreamParts, parts.map (·.shape) = s.model.userShapes.filter Shape.isEventStream ∧
      parts.flatMap (StreamParts.code s) = code ∧ ∀ p ∈ parts, p.Placed s f'.written := by
  unfold Scope.eventModule at h
  obtain ⟨streams, last, hstreams, h⟩ := runs_bind.1 h
  obtain ⟨rfl, rfl⟩ := runs_pure.1 h
  have hall := runs_mapM (course_keeps s) (fun shape _ => moves_streamCode s shape) hstreams
  refine exists_streamParts (hall.imp ?_)
  rintro shape code ⟨before, after, hbefore, hrun, hafter⟩
  obtain ⟨p, hshape, hcode, hplaced⟩ := parts_of_streamCode (hbefore.sound [] hs) hrun
  exact ⟨p, hshape, hcode, hplaced.mono hafter.written.subset⟩

/-! ### All modules -/

/-- The functions of all shapes come first, and with them all is sound. -/
theorem moves_shapeFunctions (hm : s.model.Distinct) : Moves (Keeps s) s.shapeFunctions := by
  have hR := course_keeps s
  refine Moves.forM hR fun shape hshape => ?_
  have hlisted : s.Listed shape := by
    refine Model.get?_of_mem hm ?_
    have huser : shape ∈ s.model.userShapes := (List.mem_filter.1 hshape).1
    exact (List.mem_filter.1 huser).1
  refine (calls_writerWithin s _ shape hlisted).bind hR fun _ _ => ?_
  exact (calls_readerWithin s _ shape hlisted).bind hR fun _ _ => moves_pure hR _

/-- **The code for event streams keeps to the places of members.** Every event stream of the model has its
parts in the module of event streams, and the functions that these call are those that are generated with
it. Models from documents are distinct, by `distinct_loadModel` and `Model.distinct_prepare`. -/
theorem members_placed {m : Model} {settings : Settings} {modules : List Fragment} (hm : m.Distinct)
    (h : generate m settings = .ok modules) :
    ∃ (s : Scope) (functions : Functions) (parts : List StreamParts), Scope.make m settings = .ok s ∧
      Fragment.ofSteps "event_stream_serde" (parts.flatMap (StreamParts.code s)) ∈ modules ∧
      Fragment.merge "protocol_serde" [functions.writers, functions.readers] ∈ modules ∧
      parts.map (·.shape) = m.userShapes.filter Shape.isEventStream ∧
      ∀ p ∈ parts, p.Placed s functions.written := by
  unfold generate at h
  obtain ⟨s, hmake, h⟩ := Results.bind_eq_ok_iff.1 h
  obtain ⟨types, -, h⟩ := Results.bind_eq_ok_iff.1 h
  obtain ⟨errors, -, h⟩ := Results.bind_eq_ok_iff.1 h
  have hmodel : s.model = m := by rw [Scope.eq_of_make hmake]
  cases hexchange : s.exchange {} with
  | mk result functions =>
    cases result with
    | error e => simp [hexchange] at h
    | ok events =>
      simp only [hexchange] at h
      cases h
      have hrun : Runs s.exchange {} events functions := hexchange
      unfold Scope.exchange at hrun
      obtain ⟨u, f₁, hshapes, hrun⟩ := runs_bind.1 hrun
      obtain ⟨code, f₂, hevents, hrun⟩ := runs_bind.1 hrun
      obtain ⟨v, f₃, hmessages, hrun⟩ := runs_bind.1 hrun
      obtain ⟨rfl, rfl⟩ := runs_pure.1 hrun
      have hs₁ := (moves_shapeFunctions (hmodel ▸ hm) _ _ _ hshapes).sound [] (sound_nil s)
      obtain ⟨parts, hparts, rfl, hplaced⟩ := parts_of_eventModule hs₁ hevents
      have hgrows : f₂.written <+: functions.written := grows_messageFunctions s _ _ _ hmessages
      refine ⟨s, functions, parts, hmake, by simp, by simp, hmodel ▸ hparts, ?_⟩
      intro p hp
      exact (hplaced p hp).mono hgrows.subset

/-- **Generation succeeds** if that of all items, of the errors and of all functions does. -/
theorem generate_ok {m : Model} {settings : Settings} (hmake : Scope.make m settings = .ok s)
    (hitems : ∀ shape ∈ s.model.userShapes, ∃ items, s.shapeItems shape = .ok items)
    (herrors : ∃ errors, s.errorModule = .ok errors) (hexchange : ∃ events, (s.exchange {}).1 = .ok events) :
    ∃ modules, generate m settings = .ok modules := by
  obtain ⟨errors, herrors⟩ := herrors
  obtain ⟨events, hexchange⟩ := hexchange
  obtain ⟨types, htypes⟩ : ∃ types, s.modelModule = .ok types := by
    unfold Scope.modelModule
    obtain ⟨sections, hsections⟩ := Results.mapM_ok (k := fun shape => do
        let items ← s.shapeItems shape
        .ok (shapeSection shape items)) fun shape hshape => by
      obtain ⟨items, hitems⟩ := hitems shape hshape
      exact ⟨_, by rw [hitems, Results.ok_bind]⟩
    exact ⟨_, by rw [hsections, Results.ok_bind]⟩
  unfold generate
  rw [hmake, Results.ok_bind, htypes, Results.ok_bind, herrors, Results.ok_bind]
  cases hrun : s.exchange {} with
  | mk result functions =>
    rw [hrun] at hexchange
    cases hexchange
    exact ⟨_, rfl⟩

/-! ### A stream -/

/-- An event with a header field and a title. -/
def opened : Shape :=
  ⟨⟨"t#Opened"⟩, .struct [⟨"id", ⟨"smithy.api#String"⟩, { eventHeader := true }⟩,
    ⟨"title", ⟨"smithy.api#String"⟩, {}⟩], {}⟩

/-- A number for a header field. -/
def refusedCode : Member := ⟨"code", ⟨"smithy.api#Integer"⟩, { eventHeader := true }⟩

def refused : Shape := ⟨⟨"t#Refused"⟩, .struct [refusedCode], { error := some .client }⟩

def refusal : Member := ⟨"refused", refused.id, {}⟩

def happenings : Shape :=
  ⟨⟨"t#Happenings"⟩, .union [⟨"opened", opened.id, {}⟩, refusal], { streaming := true }⟩

def eventful : Model :=
  ⟨[simpleShape "String" .string, simpleShape "Integer" (.number .integer), opened, refused, happenings]⟩

def eventfulScope : Scope := ⟨eventful, .client, [], []⟩

theorem happenings_placed :
    eventful.Distinct ∧ ∃ modules, generate eventful .client = .ok modules ∧
      ∃ (s : Scope) (functions : Functions) (p : StreamParts), p.shape = happenings ∧
        Fragment.ofSteps "event_stream_serde" (p.code s) ∈ modules ∧ p.Placed s functions.written := by
  have hdistinct : eventful.Distinct := by decide
  obtain ⟨modules, hmodules⟩ : ∃ modules, generate eventful .client = .ok modules := by
    have hitems : ∀ shape ∈ eventful.userShapes, (eventfulScope.shapeItems shape).toOption.isSome = true := by
      decide +kernel
    have herrors : eventfulScope.errorModule.toOption.isSome = true := by decide +kernel
    have hexchange : (eventfulScope.exchange {}).1.toOption.isSome = true := by decide +kernel
    exact generate_ok (s := eventfulScope) rfl
      (fun shape hshape => Results.exists_of_isSome (hitems shape hshape))
      (Results.exists_of_isSome herrors) (Results.exists_of_isSome hexchange)
  obtain ⟨s, functions, parts, -, hmodule, -, hshapes, hplaced⟩ := members_placed hdistinct hmodules
  have hstreams : parts.map (·.shape) = [happenings] := hshapes.trans rfl
  obtain ⟨p, rfl, hshape⟩ := List.map_eq_singleton_iff.1 hstreams
  refine ⟨hdistinct, modules, hmodules, s, functions, p, hshape, ?_, hplaced p List.mem_cons_self⟩
  simpa using hmodule

/-- Not every error is written where it is read: its member is read from a header field, and written under
a key. -/
theorem refused_misplaced :
    refusal ∈ happenings.members ∧ refused.isError = true ∧
    ∃ (s : Scope) (reading payload : List Step) (f f' : Functions), Scope.make eventful .client = .ok s ∧
      (errorReading s happenings refusal).Runs {} (errorReadArm s happenings refusal refused reading) f ∧
      ReadsFrom s f.written refused [(refusedCode, .header "code")] reading ∧
      (errorWriting s happenings refusal).Runs {} (errorWriteArm s happenings refusal payload) f' ∧
      WritesTo s f'.written refused [(refusedCode, .key "code")] payload [] := by
  refine ⟨by simp [happenings, Shape.members], rfl, ?_⟩
  obtain ⟨reads, hreads⟩ : ∃ arm, (errorReading eventfulScope happenings refusal {}).1 = .ok arm :=
    Results.exists_of_isSome (by decide +kernel)
  obtain ⟨writes, hwrites⟩ : ∃ arm, (errorWriting eventfulScope happenings refusal {}).1 = .ok arm :=
    Results.exists_of_isSome (by decide +kernel)
  have hread : (errorReading eventfulScope happenings refusal).Runs {} reads _ := Prod.ext hreads rfl
  have hwrite : (errorWriting eventfulScope happenings refusal).Runs {} writes _ := Prod.ext hwrites rfl
  obtain ⟨target, reading, htarget, rfl, hfrom⟩ :=
    (arms_errorReading eventfulScope happenings).does refusal _ _ _ (sound_nil eventfulScope) hread
  obtain ⟨other, payload, hother, rfl, hto⟩ :=
    (arms_errorWriting eventfulScope happenings).does refusal _ _ _ (sound_nil eventfulScope) hwrite
  have hrefused : eventfulScope.model.target refusal = .ok refused := rfl
  obtain rfl := Except.ok.inj (hrefused.symm.trans htarget)
  obtain rfl := Except.ok.inj (hrefused.symm.trans hother)
  exact ⟨eventfulScope, reading, payload, _, _, rfl, hread, hfrom, hwrite, hto rfl⟩

end WireShapes.Code
