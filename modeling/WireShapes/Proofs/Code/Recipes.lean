import WireShapes.Proofs.Code.Traversal

/-!
How the functions for shapes are written, and what their writing asks for.

* `Remembers`: no function that is known is forgotten
* `Marks key g`: after a run of `g` the function under `key` is known
* `Recipe`: how functions of a form are written; `writers`, `readers` and `documents`
* `Recipe.Sound`: the writing asks for the functions of all shapes that are referred to, and for no others
* `Recipe.moves_within`: so functions for shapes, through any depth, keep to what requests keep to
-/

namespace WireShapes.Code

open Generator

/-- What a function is known by. -/
abbrev FunctionKey := ShapeId × FunctionForm

/-- No function that is known is forgotten. -/
def Remembers (f f' : Functions) : Prop := f.known <+: f'.known

theorem course_remembers : Course Remembers where
  refl f := List.prefix_refl f.known
  trans h k := List.IsPrefix.trans h k
  named f _ := List.prefix_refl f.known

def Known (f : Functions) (key : FunctionKey) : Prop := key ∈ f.known.map Prod.fst

theorem Known.mono {f f' : Functions} {key : FunctionKey} (h : Known f key) (hmore : Remembers f f') :
    Known f' key := by
  obtain ⟨new, hnew⟩ := hmore
  unfold Known at h ⊢
  rw [← hnew, List.map_append]
  exact List.mem_append_left _ h

/-- After a run the function is known. -/
def Marks {α : Type} (key : FunctionKey) (g : Generator α) : Prop := ∀ f a f', Runs g f a f' → Known f' key

section Marks

variable {α β : Type} {key : FunctionKey}

theorem marks_throw (e : ModelError) : Marks key (throw e : Generator α) := by
  intro f a f' h
  exact (not_runs_throw h).elim

theorem Marks.bind {x : Generator α} {k : α → Generator β} (hx : Marks key x)
    (hk : ∀ a, Gives x a → Moves Remembers (k a)) : Marks key (x >>= k) := by
  intro f b f' h
  obtain ⟨a, middle, hfirst, hrest⟩ := runs_bind.1 h
  exact (hx f a middle hfirst).mono (hk a ⟨f, middle, hfirst⟩ middle b f' hrest)

theorem marks_bind {x : Generator α} {k : α → Generator β} (hk : ∀ a, Gives x a → Marks key (k a)) :
    Marks key (x >>= k) := by
  intro f b f' h
  obtain ⟨a, middle, hfirst, hrest⟩ := runs_bind.1 h
  exact hk a ⟨f, middle, hfirst⟩ middle b f' hrest

theorem marks_mapM {l : List α} {k : α → Generator β} {x : α} (hx : x ∈ l) (hmarks : Marks key (k x))
    (hmoves : ∀ y ∈ l, Moves Remembers (k y)) : Marks key (l.mapM k) := by
  induction l with
  | nil => cases hx
  | cons y rest ih =>
    have hrest := fun z hz => hmoves z (List.mem_cons_of_mem _ hz)
    rw [List.mapM_cons]
    rcases List.mem_cons.1 hx with rfl | hx
    · refine hmarks.bind fun _ _ => (Moves.mapM course_remembers hrest).bind course_remembers fun _ _ => ?_
      exact moves_pure course_remembers _
    · refine marks_bind fun _ _ => (ih hx hrest).bind fun _ _ => ?_
      exact moves_pure course_remembers _

theorem marks_target {s : Scope} {member : Member} {target : Shape} {k : Shape → Generator β}
    (htarget : s.model.get? member.target = some target) (hk : Marks key (k target)) :
    Marks key (Generator.lift (s.model.target member) >>= k) := by
  refine marks_bind fun found hfound => ?_
  have hget := target_eq (gives_lift hfound)
  obtain rfl : target = found := Option.some.inj (htarget.symm.trans hget)
  exact hk

end Marks

/-! ### Code for shapes that refer to others -/

variable {s : Scope} {call : Shape → Generator String} {key : FunctionKey} {b : Shape}

/-- Asking for the functions of the shapes that the members mention forgets nothing. -/
def Retains (s : Scope) (call : Shape → Generator String) (members : List Member) : Prop :=
  ∀ b, s.Mentions members b → Moves Remembers (call b)

section Reading

theorem marks_readValue {member : Option Member} {target : Shape} (haggregate : Aggregate target)
    (hcall : Marks key (call target)) : Marks key (readValue s call member target) := by
  have hcalled : Marks key (do return s!"{← call target}(tokens)?") :=
    hcall.bind fun _ _ => moves_pure course_remembers _
  unfold Aggregate Shape.isInline Shape.isStruct Shape.isUnion Shape.isCollection at haggregate
  unfold readValue
  cases hkind : target.kind <;> simp only [hkind] at haggregate ⊢
  case struct => exact hcalled
  case union => exact hcalled
  case list => exact hcalled
  case map => exact hcalled
  all_goals simp at haggregate

theorem marks_memberRead {α : Type} {member : Member} (haggregate : Aggregate b)
    (htarget : s.model.get? member.target = some b) (hcall : Marks key (call b)) (result : String → α) :
    Marks key (do return result (← readValue s call (some member) (← Generator.lift (s.model.target member)))) :=
  marks_target htarget ((marks_readValue haggregate hcall).bind fun _ _ => moves_pure course_remembers _)

theorem marks_memberLoop {members : List Member} (hb : s.Mentions members b) (hcall : Marks key (call b))
    (hretains : Retains s call members) : Marks key (memberLoop s call members) := by
  obtain ⟨haggregate, member, hmember, htarget⟩ := hb
  unfold memberLoop
  refine (marks_mapM hmember ?_ ?_).bind fun _ _ => moves_pure course_remembers _
  · exact marks_memberRead haggregate htarget hcall _
  · intro other hother
    exact paired_memberRead (c := call) course_remembers.pairing hretains hother _

theorem marks_structureReader (name : String) (shape : Shape) {members : List Member}
    (hb : s.Mentions members b) (hcall : Marks key (call b)) (hretains : Retains s call members) :
    Marks key (structureReader s call name shape members) := by
  unfold structureReader
  refine marks_bind fun _ _ => ?_
  exact (marks_memberLoop hb hcall hretains).bind fun _ _ => moves_pure course_remembers _

theorem marks_listReader (name : String) (shape : Shape) {member : Member} (hb : s.Mentions [member] b)
    (hcall : Marks key (call b)) : Marks key (listReader s call name shape member) := by
  obtain ⟨haggregate, only, honly, htarget⟩ := hb
  obtain rfl := List.mem_singleton.1 honly
  unfold listReader
  refine marks_bind fun _ _ => ?_
  exact marks_memberRead haggregate htarget hcall _

theorem marks_mapReader (name : String) (shape : Shape) (keyMember : Member) {value : Member}
    (hb : s.Mentions [value] b) (hcall : Marks key (call b)) :
    Marks key (mapReader s call name shape keyMember value) := by
  obtain ⟨haggregate, only, honly, htarget⟩ := hb
  obtain rfl := List.mem_singleton.1 honly
  unfold mapReader
  refine marks_bind fun _ _ => marks_bind fun keyTarget _ => ?_
  cases keyTarget.kind
  all_goals exact marks_bind fun _ _ => marks_memberRead haggregate htarget hcall _

theorem marks_unionReader (name : String) {shape : Shape} {members : List Member}
    (hkind : shape.kind = .union members) (hb : s.Refers shape b) (hcall : Marks key (call b))
    (hretains : Retains s call (s.carried shape)) : Marks key (unionReader s call name shape) := by
  obtain ⟨haggregate, member, hmember, htarget⟩ := hb
  unfold unionReader
  refine marks_bind fun _ _ => marks_bind fun variants hvariants => ?_
  have hcarried := s.carried_eq_variants hkind (gives_lift hvariants)
  refine (marks_mapM (hcarried ▸ hmember) ?_ ?_).bind fun _ _ => moves_pure course_remembers _
  · exact marks_memberRead haggregate htarget hcall _
  · intro other hother
    exact paired_memberRead (c := call) course_remembers.pairing hretains (hcarried ▸ hother) _

theorem marks_readerCode (name : String) {shape : Shape} (hb : s.Refers shape b) (hcall : Marks key (call b))
    (hretains : Retains s call (s.carried shape)) : Marks key (readerCode s call name shape) := by
  have hmentions := hb
  have hmembers := hretains
  unfold Scope.Refers Scope.carried at hmentions
  unfold Scope.carried at hmembers
  unfold readerCode
  cases hkind : shape.kind <;> simp only [hkind] at hmentions hmembers ⊢
  case struct members => exact marks_structureReader name shape hmentions hcall hmembers
  case union members => exact marks_unionReader name hkind hb hcall hretains
  case list member => exact marks_listReader name shape hmentions hcall
  case map keyMember value => exact marks_mapReader name shape keyMember hmentions hcall
  all_goals exact marks_throw _

end Reading

section Writing

theorem marks_writeValue {writer : String} {member : Option Member} {target : Shape} {value : Operand}
    (haggregate : Aggregate target) (hcall : Marks key (call target)) :
    Marks key (writeValue s call writer member target value) := by
  have hR := course_remembers
  have hcalled : ∀ code : String → List Step, Marks key (do return code (← call target)) :=
    fun _ => hcall.bind fun _ _ => moves_pure hR _
  have hbraced : ∀ code : String → String → List Step, Marks key (do
      let function ← call target
      let object ← fresh "object"
      return code function object) :=
    fun _ => hcall.bind fun _ _ => (moves_fresh hR _).bind hR fun _ _ => moves_pure hR _
  unfold Aggregate Shape.isInline Shape.isStruct Shape.isUnion Shape.isCollection at haggregate
  unfold writeValue
  cases hkind : target.kind <;> simp only [hkind] at haggregate ⊢
  case struct => exact hbraced _
  case union => exact hbraced _
  case list => exact hcalled _
  case map => exact hcalled _
  all_goals simp at haggregate

theorem marks_writeMember {member : Member} (haggregate : Aggregate b)
    (htarget : s.model.get? member.target = some b) (hcall : Marks key (call b)) :
    Marks key (writeMember s call member) := by
  unfold writeMember
  refine marks_target htarget ?_
  dsimp only
  split
  · refine marks_bind fun _ _ => ?_
    exact (marks_writeValue haggregate hcall).bind fun _ _ => moves_pure course_remembers _
  · exact marks_writeValue haggregate hcall

theorem marks_structureWriter (name : String) (shape : Shape) {members : List Member}
    (hb : s.Mentions members b) (hcall : Marks key (call b)) (hretains : Retains s call members) :
    Marks key (structureWriter s call name shape members) := by
  obtain ⟨haggregate, member, hmember, htarget⟩ := hb
  unfold structureWriter
  refine (marks_mapM hmember ?_ ?_).bind fun _ _ => moves_pure course_remembers _
  · exact marks_writeMember haggregate htarget hcall
  · intro other hother
    exact paired_writeMember (c := call) course_remembers.pairing hretains hother

theorem marks_writeElement {shape : Shape} {writer : String} {member : Member} (haggregate : Aggregate b)
    (hcall : Marks key (call b)) : Marks key (writeElement s call shape writer member b) := by
  unfold writeElement
  refine (marks_writeValue haggregate hcall).bind fun _ _ => ?_
  split <;> exact moves_pure course_remembers _

theorem marks_listWriter (name : String) (shape : Shape) {member : Member} (hb : s.Mentions [member] b)
    (hcall : Marks key (call b)) : Marks key (listWriter s call name shape member) := by
  obtain ⟨haggregate, only, honly, htarget⟩ := hb
  obtain rfl := List.mem_singleton.1 honly
  unfold listWriter
  refine marks_bind fun _ _ => marks_target htarget ?_
  exact (marks_writeElement haggregate hcall).bind fun _ _ => moves_pure course_remembers _

theorem marks_mapWriter (name : String) (shape : Shape) (keyMember : Member) {value : Member}
    (hb : s.Mentions [value] b) (hcall : Marks key (call b)) :
    Marks key (mapWriter s call name shape keyMember value) := by
  obtain ⟨haggregate, only, honly, htarget⟩ := hb
  obtain rfl := List.mem_singleton.1 honly
  unfold mapWriter
  refine marks_bind fun _ _ => marks_bind fun keyTarget _ => marks_target htarget ?_
  cases keyTarget.kind
  all_goals exact marks_bind fun _ _ =>
    (marks_writeElement haggregate hcall).bind fun _ _ => moves_pure course_remembers _

theorem marks_unionWriter (name : String) {shape : Shape} {members : List Member}
    (hkind : shape.kind = .union members) (hb : s.Refers shape b) (hcall : Marks key (call b))
    (hretains : Retains s call (s.carried shape)) : Marks key (unionWriter s call name shape) := by
  obtain ⟨haggregate, member, hmember, htarget⟩ := hb
  unfold unionWriter
  refine marks_bind fun variants hvariants => ?_
  have hcarried := s.carried_eq_variants hkind (gives_lift hvariants)
  refine (marks_mapM (hcarried ▸ hmember) ?_ ?_).bind fun _ _ => moves_pure course_remembers _
  · exact marks_target htarget ((marks_writeValue haggregate hcall).bind fun _ _ => moves_pure course_remembers _)
  · intro other hother
    exact paired_memberWrite (c := call) course_remembers.pairing hretains (hcarried ▸ hother) _ _ _

theorem marks_writerCode (name : String) {shape : Shape} (hb : s.Refers shape b) (hcall : Marks key (call b))
    (hretains : Retains s call (s.carried shape)) : Marks key (writerCode s call name shape) := by
  have hmentions := hb
  have hmembers := hretains
  unfold Scope.Refers Scope.carried at hmentions
  unfold Scope.carried at hmembers
  unfold writerCode
  cases hkind : shape.kind <;> simp only [hkind] at hmentions hmembers ⊢
  case struct members => exact marks_structureWriter name shape hmentions hcall hmembers
  case union members => exact marks_unionWriter name hkind hb hcall hretains
  case list member => exact marks_listWriter name shape hmentions hcall
  case map keyMember value => exact marks_mapWriter name shape keyMember hmentions hcall
  all_goals exact marks_throw _

end Writing

/-! ### Recipes -/

/-- How the functions of a form are written. -/
structure Recipe where
  form : FunctionForm
  /-- The form of the functions that are called. -/
  asks : FunctionForm
  /-- The shapes whose functions are called. -/
  refers : Scope → Shape → Shape → Prop
  code : Scope → (Shape → Generator String) → String → Shape → Generator (List Step)

namespace Recipe

def writers : Recipe := ⟨.writer, .writer, Scope.Refers, writerCode⟩

def readers : Recipe := ⟨.reader, .reader, Scope.Refers, readerCode⟩

def documents : Recipe := ⟨.textReader, .reader, fun _ a b => b = a, documentCode⟩

/-- The writing asks for the functions of all shapes that are referred to, and for no others. -/
structure Sound (T : Recipe) : Prop where
  paired : ∀ {E : (α : Type) → Generator α → Generator α → Prop}, Pairing E →
    ∀ {s : Scope} {call c : Shape → Generator String} (name : String) {shape : Shape},
      (∀ b, T.refers s shape b → E _ (call b) (c b)) → E _ (T.code s call name shape) (T.code s c name shape)
  marks : ∀ {s : Scope} {call : Shape → Generator String} {key : FunctionKey} (name : String) {shape b : Shape},
    T.refers s shape b → Marks key (call b) → (∀ d, T.refers s shape d → Moves Remembers (call d)) →
      Marks key (T.code s call name shape)

theorem sound_writers : writers.Sound where
  paired hE _ _ _ name _ hcall := paired_writerCode hE name hcall
  marks name _ _ hb hcall hretains := marks_writerCode name hb hcall hretains

theorem sound_readers : readers.Sound where
  paired hE _ _ _ name _ hcall := paired_readerCode hE name hcall
  marks name _ _ hb hcall hretains := marks_readerCode name hb hcall hretains

theorem sound_documents : documents.Sound where
  paired hE _ _ _ _ shape hcall :=
    hE.bind (hcall shape rfl) fun _ _ => hE.bind (hE.lift _) fun _ _ => hE.pure _
  marks := by
    rintro s call key name shape _ rfl hcall -
    have hR := course_remembers
    exact hcall.bind fun _ _ => (moves_lift hR _).bind hR fun _ _ => moves_pure hR _

/-- The function for a shape; `depth` bounds how many functions are begun at once. -/
def within (T : Recipe) (nameOf : ShapeId → String) (fault : Reason) (s : Scope) : Nat → Shape → Generator String
  | 0, shape => throw (.unsupported shape.id fault)
  | depth + 1, shape =>
    request shape.id T.form (nameOf shape.id) (T.code s (T.within nameOf fault s depth) (nameOf shape.id) shape)

/-- What requests keep to if the writing does, the functions for shapes keep to. -/
theorem moves_within {T : Recipe} (hT : T.Sound) {R : Functions → Functions → Prop} (hR : Course R)
    {nameOf : ShapeId → String}
    (hrequest : ∀ id write, Moves R write → Moves R (request id T.form (nameOf id) write)) (fault : Reason)
    (depth : Nat) (shape : Shape) : Moves R (T.within nameOf fault s depth shape) := by
  induction depth generalizing shape with
  | zero => exact moves_throw _
  | succ depth ih =>
    refine hrequest shape.id _ ?_
    exact hT.paired (c := T.within nameOf fault s depth) hR.pairing _ fun b _ => ih b

end Recipe

theorem writerWithin_eq (s : Scope) (depth : Nat) :
    writerWithin s depth = Recipe.writers.within (fun id => "ser_" ++ stem id) .notWritable s depth := by
  induction depth with
  | zero => rfl
  | succ depth ih =>
    funext shape
    rw [writerWithin, ih]
    rfl

theorem readerWithin_eq (s : Scope) (depth : Nat) :
    readerWithin s depth = Recipe.readers.within (fun id => "de_" ++ stem id) .notReadable s depth := by
  induction depth with
  | zero => rfl
  | succ depth ih =>
    funext shape
    rw [readerWithin, ih]
    rfl

theorem writerFunction_eq (s : Scope) :
    writerFunction s =
      Recipe.writers.within (fun id => "ser_" ++ stem id) .notWritable s (s.model.shapes.length + 1) :=
  writerWithin_eq s _

theorem readerFunction_eq (s : Scope) :
    readerFunction s =
      Recipe.readers.within (fun id => "de_" ++ stem id) .notReadable s (s.model.shapes.length + 1) :=
  readerWithin_eq s _

end WireShapes.Code
