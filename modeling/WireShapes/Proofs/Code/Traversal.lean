import WireShapes.Code.Readers
import WireShapes.Code.Writers
import WireShapes.Model.Transform
import WireShapes.Proofs.Code.Generation

/-!
The functions for values, whatever the functions for other shapes are.

* `Scope.Listed`: the shapes that generation is about
* `Scope.Refers`: one shape has members with values of another that has functions of its own
* `paired_readerCode`, `paired_writerCode`: two ways to request the functions of other shapes give code that is
  related like the requests, which need be so only for shapes that are referred to
* `moves_readerCode`, `moves_writerCode`: hence reading and writing keep to whatever requests keep to
-/

namespace WireShapes.Code

open Generator

variable {s : Scope}

/-- The shape is the one that the model has under its id. -/
def Scope.Listed (s : Scope) (shape : Shape) : Prop := s.model.get? shape.id = some shape

theorem target_eq {member : Member} {target : Shape} (h : s.model.target member = .ok target) :
    s.model.get? member.target = some target := by
  unfold Model.target Model.expect at h
  split at h
  · next found => rw [found, Except.ok.inj h]
  · cases h

theorem listed_of_get? {id : ShapeId} {shape : Shape} (h : s.model.get? id = some shape) : s.Listed shape := by
  unfold Scope.Listed
  rw [Model.id_of_get? h, h]

theorem listed_of_target {member : Member} {target : Shape} (h : s.model.target member = .ok target) :
    s.Listed target :=
  listed_of_get? (target_eq h)

/-! ### References -/

/-- Structures, unions, lists and maps, which have functions of their own. -/
def Aggregate (shape : Shape) : Prop := shape.isInline = true ∨ shape.isCollection = true

/-- Some of the members have values of the shape, which has functions of its own. -/
structure Scope.Mentions (s : Scope) (members : List Member) (b : Shape) : Prop where
  aggregate : Aggregate b
  member : ∃ member ∈ members, s.model.get? member.target = some b

/-- The members with the values that the functions of a shape handle: those of a structure that are not event
streams, those of a union, of which an event stream leaves out errors, the elements of a list and the values of
a map. -/
def Scope.carried (s : Scope) (shape : Shape) : List Member :=
  match shape.kind with
  | .struct members => s.documentMembers members
  | .union members =>
    if shape.isEventStream then
      members.filter fun m => !((s.model.get? m.target).map Shape.isError).getD false
    else members
  | .list member => [member]
  | .map _ value => [value]
  | _ => []

/-- The first shape has members with values of the second. -/
def Scope.Refers (s : Scope) (a b : Shape) : Prop := s.Mentions (s.carried a) b

theorem Scope.Mentions.listed {members : List Member} {b : Shape} (h : s.Mentions members b) : s.Listed b := by
  obtain ⟨member, -, hget⟩ := h.member
  exact listed_of_get? hget

theorem Scope.carried_eq_variants {shape : Shape} {members variants : List Member}
    (hkind : shape.kind = .union members) (h : s.unionVariants shape = .ok variants) :
    s.carried shape = variants := by
  unfold Scope.unionVariants at h
  unfold Scope.carried
  simp only [hkind]
  split
  · next hstream =>
    rw [if_pos hstream] at h
    obtain ⟨pairs, hpairs, h⟩ := Results.bind_eq_ok_iff.1 h
    cases h
    unfold Scope.unionMembers at hpairs
    simp only [hkind] at hpairs
    have hall := Results.forall₂_of_mapM hpairs
    clear h hpairs hkind hstream
    induction hall with
    | nil => rfl
    | @cons member pair rest pairs hpair _ ih =>
      obtain ⟨target, htarget, hpair⟩ := Results.bind_eq_ok_iff.1 hpair
      cases hpair
      rw [List.filter_cons, List.filter_cons, target_eq htarget, Option.map_some, Option.getD_some, ih]
      split <;> rfl
  · next hstream =>
    rw [if_neg hstream] at h
    cases h
    simp [Shape.members, hkind]

variable {E : (α : Type) → Generator α → Generator α → Prop} {R : Functions → Functions → Prop}
  {call c : Shape → Generator String}

theorem Generator.Pairing.target (hE : Pairing E) {α : Type} {member : Member} {k k' : Shape → Generator α}
    (hk : ∀ target, s.model.get? member.target = some target → E α (k target) (k' target)) :
    E α (Generator.lift (s.model.target member) >>= k) (Generator.lift (s.model.target member) >>= k') :=
  hE.bind (hE.lift _) fun target h => hk target (target_eq (gives_lift h))

section Reading

theorem paired_readValue (hE : Pairing E) {member : Option Member} {target : Shape}
    (hcall : Aggregate target → E _ (call target) (c target)) :
    E _ (readValue s call member target) (readValue s c member target) := by
  have hcalled : Aggregate target → E _ (do return s!"{← call target}(tokens)?")
      (do return s!"{← c target}(tokens)?") := fun h => hE.bind (hcall h) fun _ _ => hE.pure _
  unfold Aggregate Shape.isInline Shape.isStruct Shape.isUnion Shape.isCollection at hcalled
  unfold readValue
  cases hkind : target.kind <;> simp only [hkind] at hcalled ⊢
  case struct => exact hcalled (by simp)
  case union => exact hcalled (by simp)
  case list => exact hcalled (by simp)
  case map => exact hcalled (by simp)
  case enum => split <;> exact hE.pure _
  case number =>
    split
    · exact hE.pure _
    · exact hE.throw _
  case operation => exact hE.throw _
  case service => exact hE.throw _
  all_goals exact hE.pure _

theorem paired_memberRead (hE : Pairing E) {α : Type} {members : List Member}
    (hcall : ∀ b, s.Mentions members b → E _ (call b) (c b)) {member : Member} (hmember : member ∈ members)
    (result : String → α) :
    E α (do return result (← readValue s call (some member) (← Generator.lift (s.model.target member))))
      (do return result (← readValue s c (some member) (← Generator.lift (s.model.target member)))) := by
  refine hE.target fun target htarget => ?_
  refine hE.bind (paired_readValue hE fun haggregate => ?_) fun _ _ => hE.pure _
  exact hcall target ⟨haggregate, member, hmember, htarget⟩

theorem paired_memberLoop (hE : Pairing E) {members : List Member}
    (hcall : ∀ b, s.Mentions members b → E _ (call b) (c b)) :
    E _ (memberLoop s call members) (memberLoop s c members) := by
  unfold memberLoop
  refine hE.bind (hE.mapM fun member hmember => ?_) fun _ _ => hE.pure _
  exact paired_memberRead hE hcall hmember _

theorem paired_structureReader (hE : Pairing E) (name : String) (shape : Shape) {members : List Member}
    (hcall : ∀ b, s.Mentions members b → E _ (call b) (c b)) :
    E _ (structureReader s call name shape members) (structureReader s c name shape members) := by
  unfold structureReader
  refine hE.bind (hE.lift _) fun _ _ => ?_
  exact hE.bind (paired_memberLoop hE hcall) fun _ _ => hE.pure _

theorem paired_listReader (hE : Pairing E) (name : String) (shape : Shape) {member : Member}
    (hcall : ∀ b, s.Mentions [member] b → E _ (call b) (c b)) :
    E _ (listReader s call name shape member) (listReader s c name shape member) := by
  unfold listReader
  refine hE.bind (hE.lift _) fun _ _ => ?_
  exact paired_memberRead hE hcall List.mem_cons_self _

theorem paired_mapReader (hE : Pairing E) (name : String) (shape : Shape) (key : Member) {value : Member}
    (hcall : ∀ b, s.Mentions [value] b → E _ (call b) (c b)) :
    E _ (mapReader s call name shape key value) (mapReader s c name shape key value) := by
  unfold mapReader
  refine hE.bind (hE.lift _) fun _ _ => ?_
  refine hE.target fun keyTarget _ => ?_
  cases keyTarget.kind
  all_goals refine hE.bind ?_ fun _ _ => paired_memberRead hE hcall List.mem_cons_self _
  case string => exact hE.pure _
  case enum => exact hE.pure _
  all_goals exact hE.throw _

theorem paired_unionReader (hE : Pairing E) (name : String) {shape : Shape} {members : List Member}
    (hkind : shape.kind = .union members) (hcall : ∀ b, s.Refers shape b → E _ (call b) (c b)) :
    E _ (unionReader s call name shape) (unionReader s c name shape) := by
  unfold unionReader
  refine hE.bind (hE.lift _) fun _ _ => ?_
  refine hE.bind (hE.lift _) fun variants hvariants => ?_
  refine hE.bind (hE.mapM fun member hmember => ?_) fun _ _ => hE.pure _
  rw [← s.carried_eq_variants hkind (gives_lift hvariants)] at hmember
  exact paired_memberRead hE hcall hmember _

/-- **Reading a shape asks for the functions of the shapes that it refers to, and for no others.** -/
theorem paired_readerCode (hE : Pairing E) (name : String) {shape : Shape}
    (hcall : ∀ b, s.Refers shape b → E _ (call b) (c b)) :
    E _ (readerCode s call name shape) (readerCode s c name shape) := by
  have hrefers := hcall
  unfold Scope.Refers Scope.carried at hrefers
  unfold readerCode
  cases hkind : shape.kind <;> simp only [hkind] at hrefers ⊢
  case struct members => exact paired_structureReader hE name shape hrefers
  case union members => exact paired_unionReader hE name hkind hcall
  case list member => exact paired_listReader hE name shape hrefers
  case map key value => exact paired_mapReader hE name shape key hrefers
  all_goals exact hE.throw _

end Reading

section Writing

theorem paired_writeValue (hE : Pairing E) {writer : String} {member : Option Member} {target : Shape}
    {value : Operand} (hcall : Aggregate target → E _ (call target) (c target)) :
    E _ (writeValue s call writer member target value) (writeValue s c writer member target value) := by
  have hcalled : Aggregate target → ∀ code : String → List Step,
      E _ (do return code (← call target)) (do return code (← c target)) :=
    fun h _ => hE.bind (hcall h) fun _ _ => hE.pure _
  have hbraced : Aggregate target → ∀ code : String → String → List Step,
      E _ (do
        let function ← call target
        let object ← fresh "object"
        return code function object) (do
        let function ← c target
        let object ← fresh "object"
        return code function object) :=
    fun h _ => hE.bind (hcall h) fun _ _ => hE.bind (hE.fresh _) fun _ _ => hE.pure _
  unfold Aggregate Shape.isInline Shape.isStruct Shape.isUnion Shape.isCollection at hcalled hbraced
  unfold writeValue
  cases hkind : target.kind <;> simp only [hkind] at hcalled hbraced ⊢
  case struct => exact hbraced (by simp) _
  case union => exact hbraced (by simp) _
  case list => exact hcalled (by simp) _
  case map => exact hcalled (by simp) _
  case operation => exact hE.throw _
  case service => exact hE.throw _
  all_goals exact hE.pure _

theorem paired_writeMember (hE : Pairing E) {members : List Member}
    (hcall : ∀ b, s.Mentions members b → E _ (call b) (c b)) {member : Member} (hmember : member ∈ members) :
    E _ (writeMember s call member) (writeMember s c member) := by
  unfold writeMember
  refine hE.target fun target htarget => ?_
  have hvalue : Aggregate target → E _ (call target) (c target) := fun haggregate =>
    hcall target ⟨haggregate, member, hmember, htarget⟩
  dsimp only
  split
  · refine hE.bind (hE.fresh _) fun _ _ => ?_
    exact hE.bind (paired_writeValue hE hvalue) fun _ _ => hE.pure _
  · exact paired_writeValue hE hvalue

theorem paired_structureWriter (hE : Pairing E) (name : String) (shape : Shape) {members : List Member}
    (hcall : ∀ b, s.Mentions members b → E _ (call b) (c b)) :
    E _ (structureWriter s call name shape members) (structureWriter s c name shape members) := by
  unfold structureWriter
  refine hE.bind (hE.mapM fun member hmember => ?_) fun _ _ => hE.pure _
  exact paired_writeMember hE hcall hmember

theorem paired_writeElement (hE : Pairing E) {shape : Shape} {writer : String} {member : Member} {target : Shape}
    (htarget : s.model.get? member.target = some target)
    (hcall : ∀ b, s.Mentions [member] b → E _ (call b) (c b)) :
    E _ (writeElement s call shape writer member target) (writeElement s c shape writer member target) := by
  unfold writeElement
  refine hE.bind (paired_writeValue hE fun haggregate => ?_) fun _ _ => ?_
  · exact hcall target ⟨haggregate, member, List.mem_cons_self, htarget⟩
  · split <;> exact hE.pure _

theorem paired_listWriter (hE : Pairing E) (name : String) (shape : Shape) {member : Member}
    (hcall : ∀ b, s.Mentions [member] b → E _ (call b) (c b)) :
    E _ (listWriter s call name shape member) (listWriter s c name shape member) := by
  unfold listWriter
  refine hE.bind (hE.lift _) fun _ _ => ?_
  refine hE.target fun target htarget => ?_
  exact hE.bind (paired_writeElement hE htarget hcall) fun _ _ => hE.pure _

theorem paired_mapWriter (hE : Pairing E) (name : String) (shape : Shape) (key : Member) {value : Member}
    (hcall : ∀ b, s.Mentions [value] b → E _ (call b) (c b)) :
    E _ (mapWriter s call name shape key value) (mapWriter s c name shape key value) := by
  unfold mapWriter
  refine hE.bind (hE.lift _) fun _ _ => ?_
  refine hE.target fun keyTarget _ => hE.target fun target htarget => ?_
  cases keyTarget.kind
  all_goals refine hE.bind ?_ fun _ _ => hE.bind (paired_writeElement hE htarget hcall) fun _ _ => hE.pure _
  case string => exact hE.pure _
  case enum => exact hE.pure _
  all_goals exact hE.throw _

theorem paired_memberWrite (hE : Pairing E) {α : Type} {members : List Member}
    (hcall : ∀ b, s.Mentions members b → E _ (call b) (c b)) {member : Member} (hmember : member ∈ members)
    (writer : String) (value : Operand) (result : List Step → α) :
    E α
      (do return result (← writeValue s call writer (some member) (← Generator.lift (s.model.target member)) value))
      (do return result (← writeValue s c writer (some member) (← Generator.lift (s.model.target member)) value)) := by
  refine hE.target fun target htarget => ?_
  refine hE.bind (paired_writeValue hE fun haggregate => ?_) fun _ _ => hE.pure _
  exact hcall target ⟨haggregate, member, hmember, htarget⟩

theorem paired_unionWriter (hE : Pairing E) (name : String) {shape : Shape} {members : List Member}
    (hkind : shape.kind = .union members) (hcall : ∀ b, s.Refers shape b → E _ (call b) (c b)) :
    E _ (unionWriter s call name shape) (unionWriter s c name shape) := by
  unfold unionWriter
  refine hE.bind (hE.lift _) fun variants hvariants => ?_
  refine hE.bind (hE.mapM fun member hmember => ?_) fun _ _ => hE.pure _
  rw [← s.carried_eq_variants hkind (gives_lift hvariants)] at hmember
  exact paired_memberWrite hE hcall hmember _ _ _

/-- **Writing a shape asks for the functions of the shapes that it refers to, and for no others.** -/
theorem paired_writerCode (hE : Pairing E) (name : String) {shape : Shape}
    (hcall : ∀ b, s.Refers shape b → E _ (call b) (c b)) :
    E _ (writerCode s call name shape) (writerCode s c name shape) := by
  have hrefers := hcall
  unfold Scope.Refers Scope.carried at hrefers
  unfold writerCode
  cases hkind : shape.kind <;> simp only [hkind] at hrefers ⊢
  case struct members => exact paired_structureWriter hE name shape hrefers
  case union members => exact paired_unionWriter hE name hkind hcall
  case list member => exact paired_listWriter hE name shape hrefers
  case map key value => exact paired_mapWriter hE name shape key hrefers
  all_goals exact hE.throw _

end Writing

/-! ### What both keep to -/

/-- Requests for functions of other shapes keep to the relation. -/
def Calls (s : Scope) (R : Functions → Functions → Prop) (call : Shape → Generator String) : Prop :=
  ∀ target, s.Listed target → Moves R (call target)

theorem moves_target (hR : Course R) {α : Type} {member : Member} {k : Shape → Generator α}
    (hk : ∀ target, s.Listed target → Moves R (k target)) :
    Moves R (Generator.lift (s.model.target member) >>= k) :=
  (moves_lift hR _).bind hR fun target h => hk target (listed_of_target (gives_lift h))

theorem moves_memberLoop (hR : Course R) (hcall : Calls s R call) (members : List Member) :
    Moves R (memberLoop s call members) :=
  paired_memberLoop (c := call) hR.pairing fun b hb => hcall b hb.listed

theorem moves_structureWriter (hR : Course R) (hcall : Calls s R call) (name : String) (shape : Shape)
    (members : List Member) : Moves R (structureWriter s call name shape members) :=
  paired_structureWriter (c := call) hR.pairing name shape fun b hb => hcall b hb.listed

theorem moves_readerCode (hR : Course R) (hcall : Calls s R call) (name : String) (shape : Shape) :
    Moves R (readerCode s call name shape) :=
  paired_readerCode (c := call) hR.pairing name fun b hb => hcall b hb.listed

theorem moves_writerCode (hR : Course R) (hcall : Calls s R call) (name : String) (shape : Shape) :
    Moves R (writerCode s call name shape) :=
  paired_writerCode (c := call) hR.pairing name fun b hb => hcall b hb.listed

end WireShapes.Code
