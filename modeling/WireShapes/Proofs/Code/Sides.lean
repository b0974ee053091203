import WireShapes.Code.Scope
import WireShapes.Proofs.Entries
import WireShapes.Proofs.Model.Preparation

/-!
The side of a structure.

* `Scope.direction?_eq`: the last operation that has a structure decides about its side
* `Reordered`: a model with its operations in another order
* `Unmoved`: what every order of the operations gives alike
* `streamType_eq_iff`: the type of an event stream tells the side
* `side_unmoved_iff`: the order of the operations does not matter exactly for structures that are not on
  both sides
-/

namespace WireShapes.Code

/-! ### The operation that decides -/

/-- The side on which an operation has a structure; if it has it on both, it is the output. -/
def sideOf (op : Operation) (id : ShapeId) : Option Direction :=
  if op.output = some id then some .response
  else if op.input = some id then some .request
  else none

theorem sideOf_eq_response {op : Operation} {id : ShapeId} :
    sideOf op id = some .response ↔ op.output = some id := by
  unfold sideOf
  split
  · simp [*]
  · split <;> simp [*]

theorem sideOf_eq_request {op : Operation} {id : ShapeId} :
    sideOf op id = some .request ↔ op.input = some id ∧ op.output ≠ some id := by
  unfold sideOf
  split
  · simp [*]
  · split <;> simp [*]

/-- The sides on which operations have a structure, in their order. -/
def sidesOf (m : Model) (id : ShapeId) : List Direction := m.operations.filterMap fun e => sideOf e.2 id

theorem mem_sidesOf {m : Model} {id : ShapeId} {d : Direction} :
    d ∈ sidesOf m id ↔ ∃ e ∈ m.operations, sideOf e.2 id = some d := List.mem_filterMap

/-- What is read of a state, of which every step keeps what was written unless it writes itself, is the
last that was written. -/
theorem read_foldl {σ α β : Type} {step : σ → α → σ} (read : σ → Option β) (write : α → Option β)
    (hstep : ∀ state a, read (step state a) = (write a).or (read state)) (l : List α) (state : σ) :
    read (l.foldl step state) = (l.filterMap write).getLast?.or (read state) := by
  induction l generalizing state with
  | nil => rfl
  | cons a rest ih =>
    rw [List.foldl_cons, ih, hstep]
    cases hwrite : write a with
    | none => rw [List.filterMap_cons_none hwrite, Option.none_or]
    | some value =>
      rw [List.filterMap_cons_some hwrite, List.getLast?_cons]
      cases (rest.filterMap write).getLast? <;> rfl

theorem get?_directionsOf (m : Model) (id : ShapeId) :
    Entries.get? id (directionsOf m) = (sidesOf m id).getLast? := by
  unfold directionsOf Entries.ofList sidesOf
  rw [List.foldl_flatMap, read_foldl (Entries.get? id) fun e => sideOf e.2 id, Entries.get?_nil, Option.or_none]
  rintro given ⟨-, input, output, -⟩
  -- The output is put in behind the input, so it replaces it.
  cases input <;> cases output <;> simp only [Option.map_some, Option.map_none, Option.toList_some,
    Option.toList_none, List.nil_append, List.append_nil, List.cons_append, List.foldl_cons, List.foldl_nil,
    Entries.get?_insert, sideOf, Option.some.injEq, reduceCtorEq, if_false, Option.none_or]
  all_goals split <;> first | rfl | (split <;> rfl)

variable {m m' : Model} {settings : Settings} {s s' : Scope} {id : ShapeId}

/-- **The last operation that has a structure decides about its side.** -/
theorem Scope.direction?_eq (made : Scope.make m settings = .ok s) (id : ShapeId) :
    s.direction? id = (sidesOf m id).getLast? := by
  rw [Scope.eq_of_make made]
  exact get?_directionsOf m id

/-! ### Other orders -/

def isOperation (s : Shape) : Bool := s.kind matches .operation _

/-- Only the operations of the second model stand elsewhere. -/
structure Reordered (m m' : Model) : Prop where
  perm : m'.shapes.Perm m.shapes
  others : m'.shapes.filter (fun s => !isOperation s) = m.shapes.filter (fun s => !isOperation s)

namespace Reordered

theorem refl (m : Model) : Reordered m m := ⟨.refl _, rfl⟩

/-- Every operation can be the last shape of the model. -/
theorem exists_last {e : Shape × Operation} (he : e ∈ m.operations) :
    ∃ m', Reordered m m' ∧ ∃ front, m'.operations = front ++ [e] := by
  obtain ⟨hmem, hkind⟩ := Model.mem_operations.1 he
  obtain ⟨before, after, hshapes⟩ := List.append_of_mem hmem
  refine ⟨⟨before ++ after ++ [e.1]⟩, ⟨?_, ?_⟩, Model.operations ⟨before ++ after⟩, ?_⟩
  · rw [hshapes, List.append_assoc]
    exact List.Perm.append_left _ (List.perm_append_singleton _ _)
  · simp [hshapes, isOperation, hkind]
  · simp [Model.operations, hkind]

theorem perm_operations (h : Reordered m m') : m'.operations.Perm m.operations := h.perm.filterMap _

/-- In whatever order the operations stand, there is a scope if there is one. -/
theorem exists_make (h : Reordered m m') (made : Scope.make m settings = .ok s) :
    ∃ s', Scope.make m' settings = .ok s' := by
  unfold Scope.make at made ⊢
  cases hservice : settings.service with
  | none => exact ⟨_, rfl⟩
  | some service =>
    rw [hservice] at made
    obtain ⟨shape, hexpect, -⟩ := Results.bind_eq_ok_iff.1 made
    have hget : m.get? ⟨service⟩ = some shape := by
      unfold Model.expect at hexpect
      split at hexpect
      · next hget => rw [hget, Except.ok.inj hexpect]
      · cases hexpect
    have hthere : (m'.get? ⟨service⟩).isSome = true := by
      unfold Model.get? at hget ⊢
      have hid := List.find?_some hget
      rw [List.find?_isSome]
      exact ⟨shape, h.perm.mem_iff.2 (List.mem_of_find?_eq_some hget), hid⟩
    obtain ⟨shape', hget'⟩ := Option.isSome_iff_exists.1 hthere
    simp only [Model.expect, hget', bind, Except.bind]
    exact ⟨_, rfl⟩

end Reordered

/-- A scope gives the same view, in whatever order the operations of the model stand. -/
def Unmoved {β : Type} (m : Model) (settings : Settings) (view : Scope → β) : Prop :=
  ∃ value, ∀ m', Reordered m m' → ∃ s, Scope.make m' settings = .ok s ∧ view s = value

theorem unmoved_iff {β : Type} {view : Scope → β} (made : Scope.make m settings = .ok s) :
    Unmoved m settings view ↔
      ∀ m' s', Reordered m m' → Scope.make m' settings = .ok s' → view s' = view s := by
  constructor
  · rintro ⟨value, hvalue⟩ m' s' h made'
    obtain ⟨t, ht, hview⟩ := hvalue m (.refl m)
    obtain ⟨t', ht', hview'⟩ := hvalue m' h
    obtain rfl : s = t := Except.ok.inj (made.symm.trans ht)
    obtain rfl : s' = t' := Except.ok.inj (made'.symm.trans ht')
    rw [hview, hview']
  · intro hsame
    refine ⟨view s, fun m' h => ?_⟩
    obtain ⟨s', made'⟩ := h.exists_make made
    exact ⟨s', made', hsame m' s' h made'⟩

/-! ### Structures on both sides -/

/-- One operation takes the structure and does not give it back, and one gives it back. -/
def OnBothSides (m : Model) (id : ShapeId) : Prop :=
  (∃ e ∈ m.operations, e.2.input = some id ∧ e.2.output ≠ some id) ∧ ∃ e ∈ m.operations, e.2.output = some id

theorem onBothSides_iff : OnBothSides m id ↔ ∀ d, d ∈ sidesOf m id := by
  simp only [mem_sidesOf]
  constructor
  · rintro ⟨⟨e, he, htakes⟩, e', he', hgives⟩ d
    cases d with
    | request => exact ⟨e, he, sideOf_eq_request.2 htakes⟩
    | response => exact ⟨e', he', sideOf_eq_response.2 hgives⟩
  · intro h
    obtain ⟨e, he, hside⟩ := h .request
    obtain ⟨e', he', hside'⟩ := h .response
    exact ⟨⟨e, he, sideOf_eq_request.1 hside⟩, e', he', sideOf_eq_response.1 hside'⟩

theorem Scope.direction?_eq_some_iff (made : Scope.make m settings = .ok s) (hone : ¬ OnBothSides m id)
    {d : Direction} : s.direction? id = some d ↔ ∃ e ∈ m.operations, sideOf e.2 id = some d := by
  rw [Scope.direction?_eq made, ← mem_sidesOf]
  refine ⟨List.mem_of_getLast?, fun hd => ?_⟩
  cases hlast : (sidesOf m id).getLast? with
  | none =>
    rw [List.getLast?_eq_none_iff.1 hlast] at hd
    cases hd
  | some last =>
    have hmem := List.mem_of_getLast? hlast
    cases d <;> cases last <;> first | rfl | exact (hone (onBothSides_iff.2 fun d => by cases d <;> assumption)).elim

theorem Reordered.onBothSides_iff (h : Reordered m m') : OnBothSides m' id ↔ OnBothSides m id := by
  simp only [OnBothSides, h.perm_operations.mem_iff]

/-- The order of the operations does not matter for the side of a structure that is on one side only. -/
theorem direction?_of_reordered (hone : ¬ OnBothSides m id) (h : Reordered m m')
    (made : Scope.make m settings = .ok s) (made' : Scope.make m' settings = .ok s') :
    s'.direction? id = s.direction? id := by
  ext d
  rw [Scope.direction?_eq_some_iff made' (h.onBothSides_iff.not.2 hone), Scope.direction?_eq_some_iff made hone]
  simp only [h.perm_operations.mem_iff]

theorem exists_direction? (made : Scope.make m settings = .ok s) {d : Direction} (hd : d ∈ sidesOf m id) :
    ∃ m', Reordered m m' ∧ ∃ s', Scope.make m' settings = .ok s' ∧ s'.direction? id = some d := by
  obtain ⟨e, he, hside⟩ := mem_sidesOf.1 hd
  obtain ⟨m', h, front, hoperations⟩ := Reordered.exists_last he
  obtain ⟨s', made'⟩ := h.exists_make made
  refine ⟨m', h, s', made', ?_⟩
  rw [Scope.direction?_eq made', sidesOf, hoperations, List.filterMap_append]
  simp [hside]

theorem direction?_unmoved_iff (made : Scope.make m settings = .ok s) (id : ShapeId) :
    Unmoved m settings (·.direction? id) ↔ ¬ OnBothSides m id := by
  rw [unmoved_iff made]
  constructor
  · intro hsame hboth
    have hall : ∀ d, s.direction? id = some d := by
      intro d
      obtain ⟨m', h, s', made', hside⟩ := exists_direction? made (onBothSides_iff.1 hboth d)
      rw [← hsame m' s' h made', hside]
    cases (hall .request).symm.trans (hall .response)
  · exact fun hone m' s' h made' => direction?_of_reordered hone h made made'

/-! ### The types of event streams -/

/-- The type of the end of an event stream that sends or receives. -/
def endType (settings : Settings) (events : ShapeId) (sending : Bool) : String :=
  let event := settings.root ++ "::model" ++ "::" ++ typeName events
  if sending then s!"{settings.runtimePath}::event_stream::Sender<{event}>"
  else s!"{settings.runtimePath}::event_stream::Receiver<{event}, {settings.root}::error::{typeName events}Error>"

theorem endType_inj {settings : Settings} {events : ShapeId} {sending sending' : Bool} :
    endType settings events sending' = endType settings events sending ↔ sending' = sending := by
  refine ⟨fun h => ?_, fun h => h ▸ rfl⟩
  have hlist := congrArg String.toList h
  cases sending <;> cases sending' <;> first | rfl | simp [endType, toString] at hlist

theorem streamType_eq (s : Scope) (id : ShapeId) (member : Member) :
    s.streamType id member = match s.direction? id with
      | none => .error (.unsupported id .strayStream)
      | some direction => .ok (endType s.settings member.target (s.settings.isServer == (direction == .response))) := by
  unfold Scope.streamType endType
  cases s.direction? id with
  | none => rfl
  | some direction =>
    simp only [Scope.isServer, Scope.rt, Scope.root, Scope.namedType, Scope.modelPath]
    exact (apply_ite Except.ok _ _ _).symm

/-- **The type of an event stream tells the side of its structure.** -/
theorem streamType_eq_iff (h : s'.settings = s.settings) (member : Member) :
    s'.streamType id member = s.streamType id member ↔ s'.direction? id = s.direction? id := by
  rw [streamType_eq, streamType_eq, h]
  cases s'.direction? id <;> cases s.direction? id
  case some.some side' side =>
    rw [Except.ok.injEq, endType_inj, Option.some.injEq]
    cases s.settings.isServer <;> cases side <;> cases side' <;> decide
  all_goals simp

/-- **The order of the operations does not matter exactly for structures that are not on both sides.** -/
theorem side_unmoved_iff (made : Scope.make m settings = .ok s) (id : ShapeId) (member : Member) :
    (Unmoved m settings (·.direction? id) ↔ ¬ OnBothSides m id) ∧
      (Unmoved m settings (·.streamType id member) ↔ ¬ OnBothSides m id) := by
  have hside := direction?_unmoved_iff made id
  refine ⟨hside, ?_⟩
  rw [← hside, unmoved_iff made, unmoved_iff made]
  refine forall₄_congr fun m' s' h made' => streamType_eq_iff ?_ member
  rw [Scope.eq_of_make made, Scope.eq_of_make made']

/-- One structure is what an operation takes and what another gives back. -/
def shared : Shape := ⟨⟨"t#Shared"⟩, .struct [⟨"events", ⟨"t#Events"⟩, {}⟩], {}⟩

def sharing (operations : List Shape) : Model :=
  ⟨operations ++ [shared, ⟨⟨"t#Done"⟩, .struct [], {}⟩, ⟨⟨"t#Opened"⟩, .struct [], {}⟩,
    ⟨⟨"t#Events"⟩, .union [⟨"opened", ⟨"t#Opened"⟩, {}⟩], { streaming := true }⟩]⟩

def sending : Shape := ⟨⟨"t#Send"⟩, .operation ⟨some ⟨"t#Shared"⟩, some ⟨"t#Done"⟩, []⟩, {}⟩

def receiving : Shape := ⟨⟨"t#Receive"⟩, .operation ⟨some ⟨"t#Done"⟩, some ⟨"t#Shared"⟩, []⟩, {}⟩

/-- With one of the operations alone, everything has its side for good. -/
theorem shared_unmoved : ∃ s, Scope.make (sharing [sending]) .client = .ok s ∧
    s.direction? ⟨"t#Shared"⟩ = some .request ∧ ¬ OnBothSides (sharing [sending]) ⟨"t#Shared"⟩ ∧
    Unmoved (sharing [sending]) .client (·.direction? ⟨"t#Shared"⟩) ∧
    Unmoved (sharing [sending]) .client (·.streamType ⟨"t#Shared"⟩ ⟨"events", ⟨"t#Events"⟩, {}⟩) := by
  have hone : ¬ OnBothSides (sharing [sending]) ⟨"t#Shared"⟩ := by
    rintro ⟨-, e, he, hgives⟩
    obtain rfl : e = (sending, ⟨some ⟨"t#Shared"⟩, some ⟨"t#Done"⟩, []⟩) := List.mem_singleton.1 he
    exact absurd hgives (by decide)
  have made : Scope.make (sharing [sending]) .client = .ok ⟨sharing [sending], .client,
      constrainedShapes (sharing [sending]) .client, directionsOf (sharing [sending])⟩ := rfl
  obtain ⟨hside, htype⟩ := side_unmoved_iff made ⟨"t#Shared"⟩ ⟨"events", ⟨"t#Events"⟩, {}⟩
  exact ⟨_, made, by decide, hone, hside.2 hone, htype.2 hone⟩

/-- With both, the one that stands last decides whether the client sends or receives events. -/
theorem shared_moved : Reordered (sharing [sending, receiving]) (sharing [receiving, sending]) ∧
    ∃ s s', Scope.make (sharing [sending, receiving]) .client = .ok s ∧
      Scope.make (sharing [receiving, sending]) .client = .ok s' ∧
      s.direction? ⟨"t#Shared"⟩ = some .response ∧ s'.direction? ⟨"t#Shared"⟩ = some .request ∧
      s.streamType ⟨"t#Shared"⟩ ⟨"events", ⟨"t#Events"⟩, {}⟩ =
        .ok "::shapegen_runtime::event_stream::Receiver<crate::model::Events, crate::error::EventsError>" ∧
      s'.streamType ⟨"t#Shared"⟩ ⟨"events", ⟨"t#Events"⟩, {}⟩ =
        .ok "::shapegen_runtime::event_stream::Sender<crate::model::Events>" := by
  have receiver : endType .client ⟨"t#Events"⟩ false =
      "::shapegen_runtime::event_stream::Receiver<crate::model::Events, crate::error::EventsError>" := by
    decide +kernel
  have sender : endType .client ⟨"t#Events"⟩ true =
      "::shapegen_runtime::event_stream::Sender<crate::model::Events>" := by
    decide +kernel
  refine ⟨⟨.swap _ _ _, rfl⟩, _, _, rfl, rfl, by decide, by decide, ?_, ?_⟩
  · exact (streamType_eq _ _ _).trans (congrArg Except.ok receiver)
  · exact (streamType_eq _ _ _).trans (congrArg Except.ok sender)

end WireShapes.Code
