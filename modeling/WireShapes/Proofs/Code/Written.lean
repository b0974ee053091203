import WireShapes.Proofs.Code.Traversal

/-!
What the functions that are written do.

* `ReadsKey`, `WritesKey`: code that reads or writes a member under its key
* `keyReader`, `keyWriter`: functions that do so for several members
* `Sound s pending f`: every function that is known is written, or its writing has begun, and those that
  are written handle the members that they are for
* `Keeps s`: nothing is lost, and what is sound stays so
-/

namespace WireShapes.Code

open Generator

/-! ### Code for members -/

/-- The code reads the value under the key of the member, and gives it to the builder. -/
def ReadsKey (s : Scope) (member : Member) (step : Step) : Prop :=
  ∃ target read depth, s.model.target member = .ok target ∧
    Gives (readValue s (readerWithin s depth) (some member) target) read ∧
    step = method s!"{Text.quote member.key} =>" [s!"builder = builder.{setterName member}({read});"]

/-- The code writes the member under its key, an optional one if it is there. -/
def WritesKey (s : Scope) (member : Member) (code : List Step) : Prop :=
  ∃ target value depth body, s.model.target member = .ok target ∧
    Gives (writeValue s (writerWithin s depth) s!"object.key({Text.quote member.key})" (some member) target value)
      body ∧
    ((member.isOptional = true ∧ ∃ var, value = .reference var ∧
        code = [block s!"if let Some({var}) = &input.{fieldName member}" body]) ∨
      (member.isOptional = false ∧ value = .place s!"input.{fieldName member}" ∧ code = body))

/-- The function that reads some members of a structure; all other keys are skipped. -/
def keyReader (s : Scope) (name : String) (shape : Shape) (arms : List Step) : List Step :=
  let builder := s.shapeModule shape.id ++ "::Builder"
  [block s!"pub fn {name}(value: &[u8], mut builder: {builder}) -> ::std::result::Result<{builder}, {s.rt}::json::DeserializeError>"
    (openTokens s "b\"\x7b\x7d\""
      ++ [.line s!"{s.tokenPath}::expect_start_object(tokens.next())?;",
        keyLoop s "\x7d,"
          [block "match key.to_unescaped()?.as_ref()" (arms ++ [.line s!"_ => {s.tokenPath}::skip_value(tokens)?,"])],
        trailingCheck s,
        .line "Ok(builder)"])]

def keyWriter (s : Scope) (name : String) (shape : Shape) (bodies : List (List Step)) : List Step :=
  [block s!"pub fn {name}(object: &mut {s.rt}::json::JsonObjectWriter<'_>, input: &{s.namedType shape.id})"
    bodies.flatten]

variable {s : Scope} {f f' : Functions} {shape : Shape} {name : String} {members : List Member}

theorem gives_memberLoop {depth : Nat} {loop : Step}
    (h : Gives (memberLoop s (readerWithin s depth) members) loop) :
    ∃ arms, loop = keyLoop s "\x7d,"
        [block "match key.to_unescaped()?.as_ref()" (arms ++ [.line s!"_ => {s.tokenPath}::skip_value(tokens)?,"])] ∧
      List.Forall₂ (ReadsKey s) members arms := by
  obtain ⟨f, f', h⟩ := h
  unfold memberLoop at h
  obtain ⟨arms, middle, harms, h⟩ := runs_bind.1 h
  obtain ⟨rfl, -⟩ := runs_pure.1 h
  refine ⟨arms, rfl, (gives_mapM ⟨f, middle, harms⟩).imp ?_⟩
  rintro member step ⟨before, after, h⟩
  obtain ⟨target, htarget, h⟩ := runs_lift_bind.1 h
  obtain ⟨read, _, hread, h⟩ := runs_bind.1 h
  obtain ⟨rfl, -⟩ := runs_pure.1 h
  exact ⟨target, read, depth, htarget, ⟨_, _, hread⟩, rfl⟩

theorem writesKey_of_gives {depth : Nat} {member : Member} {code : List Step}
    (h : Gives (writeMember s (writerWithin s depth) member) code) : WritesKey s member code := by
  obtain ⟨f, f', h⟩ := h
  unfold writeMember at h
  obtain ⟨target, htarget, h⟩ := runs_lift_bind.1 h
  cases hoptional : member.isOptional with
  | true =>
    simp only [hoptional, if_true] at h
    obtain ⟨var, _, -, h⟩ := runs_bind.1 h
    obtain ⟨body, _, hbody, h⟩ := runs_bind.1 h
    obtain ⟨rfl, -⟩ := runs_pure.1 h
    exact ⟨target, _, depth, body, htarget, ⟨_, _, hbody⟩, .inl ⟨hoptional, var, rfl, rfl⟩⟩
  | false =>
    simp only [hoptional] at h
    exact ⟨target, _, depth, code, htarget, ⟨_, _, h⟩, .inr ⟨hoptional, rfl, rfl⟩⟩

theorem gives_structureWriter {depth : Nat} {code : List Step}
    (h : Gives (structureWriter s (writerWithin s depth) name shape members) code) :
    ∃ bodies, code = keyWriter s name shape bodies ∧ List.Forall₂ (WritesKey s) members bodies := by
  obtain ⟨f, f', h⟩ := h
  unfold structureWriter at h
  obtain ⟨bodies, middle, hbodies, h⟩ := runs_bind.1 h
  obtain ⟨rfl, -⟩ := runs_pure.1 h
  refine ⟨bodies, rfl, (gives_mapM ⟨f, middle, hbodies⟩).imp ?_⟩
  intro member code hcode
  exact writesKey_of_gives hcode

/-! ### Soundness -/

/-- The members of an event that do not travel in header fields. -/
def eventBody (shape : Shape) : List Member := shape.members.filter fun m => !m.traits.eventHeader

/-- The function handles the members that it is for: as a body function those of an event, as the writer of
a structure all that a document holds. -/
def Function.Handles (s : Scope) (g : Function) (shape : Shape) : Prop :=
  match g.form with
  | .bodyReader =>
    ∃ arms, g.code = keyReader s g.name shape arms ∧ List.Forall₂ (ReadsKey s) (eventBody shape) arms
  | .bodyWriter =>
    ∃ bodies, g.code = keyWriter s g.name shape bodies ∧ List.Forall₂ (WritesKey s) (eventBody shape) bodies
  | .writer => ∀ members, shape.kind = .struct members →
    ∃ bodies, g.code = keyWriter s g.name shape bodies ∧
      List.Forall₂ (WritesKey s) (s.documentMembers members) bodies
  | _ => True

/-- The function has this shape, form and name. -/
structure Function.Is (g : Function) (key : ShapeId × FunctionForm) (name : String) : Prop where
  shape : g.shape = key.1
  form : g.form = key.2
  name : g.name = name

/-- Every function that is known is written, or pending, and those that are written handle their members. -/
structure Sound (s : Scope) (pending : List (ShapeId × FunctionForm)) (f : Functions) : Prop where
  found : ∀ key name, Entries.get? key f.known = some name →
    key ∈ pending ∨ ∃ g ∈ f.written, g.Is key name
  handles : ∀ g ∈ f.written, ∀ shape, s.model.get? g.shape = some shape → g.Handles s shape

theorem sound_nil (s : Scope) : Sound s [] {} :=
  ⟨fun key name h => by simp at h, fun g h => by simp at h⟩

/-- Nothing that is known or written is lost, and what is sound stays so. -/
structure Keeps (s : Scope) (f f' : Functions) : Prop where
  known : ∀ key name, Entries.get? key f.known = some name → Entries.get? key f'.known = some name
  written : f.written <+: f'.written
  sound : ∀ pending, Sound s pending f → Sound s pending f'

theorem course_keeps (s : Scope) : Course (Keeps s) where
  refl _ := ⟨fun _ _ h => h, List.prefix_refl _, fun _ h => h⟩
  trans h k := ⟨fun key name hname => k.known key name (h.known key name hname), h.written.trans k.written,
    fun pending hs => k.sound pending (h.sound pending hs)⟩
  named _ _ := ⟨fun _ _ h => h, List.prefix_refl _, fun _ h => ⟨h.found, h.handles⟩⟩

/-- **A request keeps what is there**, if what it writes handles its members. While the function is written
its name is known already, so its writing starts with one more function pending. -/
theorem moves_request {id : ShapeId} {form : FunctionForm} {write : Generator (List Step)}
    (hwrite : Moves (Keeps s) write)
    (hhandles : ∀ code, Gives write code → ∀ shape, s.model.get? id = some shape →
      Function.Handles s ⟨id, form, name, code⟩ shape) :
    Moves (Keeps s) (request id form name write) := by
  intro f result f' h
  rcases runs_request h with ⟨-, rfl⟩ | ⟨hnew, rfl, code, middle, hrun, rfl⟩
  · exact (course_keeps s).refl _
  · have hkeeps := hwrite _ _ _ hrun
    refine ⟨?_, ?_, ?_⟩
    · intro key other hother
      refine hkeeps.known key other ?_
      rw [Entries.get?_insert]
      split
      · next hkey =>
        rw [← hkey, hnew] at hother
        cases hother
      · exact hother
    · exact hkeeps.written.trans (List.prefix_append _ _)
    · intro pending hs
      have hbegun : Sound s ((id, form) :: pending)
          { f with known := Entries.insert (id, form) result f.known } := by
        refine ⟨?_, hs.handles⟩
        intro key other hother
        rw [Entries.get?_insert] at hother
        split at hother
        · next hkey => exact .inl (hkey ▸ List.mem_cons_self)
        · exact (hs.found key other hother).imp_left (List.mem_cons_of_mem _)
      have hmiddle := hkeeps.sound _ hbegun
      have hself : Entries.get? (id, form) middle.known = some result :=
        hkeeps.known _ _ (by rw [Entries.get?_insert, if_pos rfl])
      refine ⟨?_, ?_⟩
      · intro key other hother
        by_cases hkey : key = (id, form)
        · subst hkey
          obtain rfl := Option.some.inj (hself.symm.trans hother)
          exact .inr ⟨_, List.mem_append_right _ (List.mem_singleton.2 rfl), rfl, rfl, rfl⟩
        · rcases hmiddle.found key other hother with hpending | ⟨g, hg, his⟩
          · exact .inl ((List.mem_cons.1 hpending).resolve_left hkey)
          · exact .inr ⟨g, List.mem_append_left _ hg, his⟩
      · intro g hg shape hshape
        rcases List.mem_append.1 hg with hg | hg
        · exact hmiddle.handles g hg shape hshape
        · obtain rfl := List.mem_singleton.1 hg
          exact hhandles code ⟨_, _, hrun⟩ shape hshape

/-- **What is requested is there in the end**, if nothing is pending. -/
theorem written_of_request {id : ShapeId} {form : FunctionForm} {write : Generator (List Step)}
    {result : String} (hwrite : Moves (Keeps s) write) (h : Runs (request id form name write) f result f')
    (hs : Sound s [] f') : ∃ g ∈ f'.written, g.Is (id, form) result := by
  have hknown : Entries.get? (id, form) f'.known = some result := by
    rcases runs_request h with ⟨hknown, rfl⟩ | ⟨-, rfl, code, middle, hrun, rfl⟩
    · exact hknown
    · exact (hwrite _ _ _ hrun).known _ _ (by rw [Entries.get?_insert, if_pos rfl])
  exact (hs.found _ _ hknown).resolve_left (List.not_mem_nil)

/-! ### Requests -/

theorem calls_readerWithin (s : Scope) (depth : Nat) : Calls s (Keeps s) (readerWithin s depth) := by
  induction depth with
  | zero => exact fun _ _ => moves_throw _
  | succ depth ih =>
    intro target _
    exact moves_request (moves_readerCode (course_keeps s) ih _ target) fun _ _ _ _ => trivial

theorem calls_writerWithin (s : Scope) (depth : Nat) : Calls s (Keeps s) (writerWithin s depth) := by
  induction depth with
  | zero => exact fun _ _ => moves_throw _
  | succ depth ih =>
    intro target htarget
    refine moves_request (moves_writerCode (course_keeps s) ih _ target) ?_
    intro code hcode shape hshape members hmembers
    obtain rfl : target = shape := Option.some.inj (htarget.symm.trans hshape)
    unfold writerCode at hcode
    simp only [hmembers] at hcode
    exact gives_structureWriter hcode

theorem moves_documentReader (hlisted : s.Listed shape) : Moves (Keeps s) (documentReader s shape) := by
  have hR := course_keeps s
  refine moves_request ?_ fun _ _ _ _ => trivial
  refine (calls_readerWithin s _ shape hlisted).bind hR fun _ _ => ?_
  exact (moves_lift hR _).bind hR fun _ _ => moves_pure hR _

theorem moves_bodyReader (hlisted : s.Listed shape) : Moves (Keeps s) (bodyReader s shape (eventBody shape)) := by
  have hR := course_keeps s
  refine moves_request ?_ ?_
  · exact (moves_memberLoop hR (calls_readerWithin s _) _).bind hR fun _ _ => moves_pure hR _
  · rintro code ⟨f, f', h⟩ other hother
    obtain rfl : shape = other := Option.some.inj (hlisted.symm.trans hother)
    obtain ⟨loop, middle, hloop, h⟩ := runs_bind.1 h
    obtain ⟨rfl, -⟩ := runs_pure.1 h
    obtain ⟨arms, rfl, harms⟩ := gives_memberLoop ⟨f, middle, hloop⟩
    exact ⟨arms, rfl, harms⟩

theorem moves_bodyWriter (hlisted : s.Listed shape) : Moves (Keeps s) (bodyWriter s shape (eventBody shape)) := by
  refine moves_request (moves_structureWriter (course_keeps s) (calls_writerWithin s _) _ shape _) ?_
  intro code hcode other hother
  obtain rfl : shape = other := Option.some.inj (hlisted.symm.trans hother)
  exact gives_structureWriter hcode

/-! ### What requests give -/

theorem handles_bodyReader (hlisted : s.Listed shape) (hs : Sound s [] f)
    (h : Runs (bodyReader s shape (eventBody shape)) f name f') :
    ∃ g ∈ f'.written, g.Is (shape.id, .bodyReader) name ∧
      ∃ arms, g.code = keyReader s g.name shape arms ∧ List.Forall₂ (ReadsKey s) (eventBody shape) arms := by
  have hR := course_keeps s
  have hsound := (moves_bodyReader hlisted f name f' h).sound [] hs
  obtain ⟨g, hg, his⟩ := written_of_request
    ((moves_memberLoop hR (calls_readerWithin s _) _).bind hR fun _ _ => moves_pure hR _) h hsound
  have hhandles := hsound.handles g hg shape (by rw [his.shape]; exact hlisted)
  unfold Function.Handles at hhandles
  rw [his.form] at hhandles
  exact ⟨g, hg, his, hhandles⟩

theorem handles_bodyWriter (hlisted : s.Listed shape) (hs : Sound s [] f)
    (h : Runs (bodyWriter s shape (eventBody shape)) f name f') :
    ∃ g ∈ f'.written, g.Is (shape.id, .bodyWriter) name ∧
      ∃ bodies, g.code = keyWriter s g.name shape bodies ∧
        List.Forall₂ (WritesKey s) (eventBody shape) bodies := by
  have hsound := (moves_bodyWriter hlisted f name f' h).sound [] hs
  obtain ⟨g, hg, his⟩ := written_of_request
    (moves_structureWriter (course_keeps s) (calls_writerWithin s _) _ shape _) h hsound
  have hhandles := hsound.handles g hg shape (by rw [his.shape]; exact hlisted)
  unfold Function.Handles at hhandles
  rw [his.form] at hhandles
  exact ⟨g, hg, his, hhandles⟩

theorem written_documentReader (hlisted : s.Listed shape) (hs : Sound s [] f)
    (h : Runs (documentReader s shape) f name f') : ∃ g ∈ f'.written, g.Is (shape.id, .textReader) name := by
  have hR := course_keeps s
  have hsound := (moves_documentReader hlisted f name f' h).sound [] hs
  refine written_of_request ?_ h hsound
  refine (calls_readerWithin s _ shape hlisted).bind hR fun _ _ => ?_
  exact (moves_lift hR _).bind hR fun _ _ => moves_pure hR _

theorem written_writerFunction (hlisted : s.Listed shape) (hs : Sound s [] f)
    (h : Runs (writerFunction s shape) f name f') : ∃ g ∈ f'.written, g.Is (shape.id, .writer) name := by
  have hsound := (calls_writerWithin s _ shape hlisted f name f' h).sound [] hs
  exact written_of_request (moves_writerCode (course_keeps s) (calls_writerWithin s _) _ shape) h hsound

theorem handles_writerFunction (hlisted : s.Listed shape) (hmembers : shape.kind = .struct members)
    (hs : Sound s [] f) (h : Runs (writerFunction s shape) f name f') :
    ∃ g ∈ f'.written, g.Is (shape.id, .writer) name ∧
      ∃ bodies, g.code = keyWriter s g.name shape bodies ∧
        List.Forall₂ (WritesKey s) (s.documentMembers members) bodies := by
  have hsound := (calls_writerWithin s _ shape hlisted f name f' h).sound [] hs
  obtain ⟨g, hg, his⟩ := written_writerFunction hlisted hs h
  have hhandles := hsound.handles g hg shape (by rw [his.shape]; exact hlisted)
  unfold Function.Handles at hhandles
  rw [his.form] at hhandles
  exact ⟨g, hg, his, hhandles members hmembers⟩

end WireShapes.Code
