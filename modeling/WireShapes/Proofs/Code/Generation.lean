import WireShapes.Code.Functions
import WireShapes.Proofs.Entries
import WireShapes.Proofs.Results

/-!
Runs of generators.

* `Generator.Runs g f a f'`: from the functions `f` the generator succeeds with `a` and leaves `f'`
* `runs_bind`, `runs_request`, `runs_mapM`: runs taken apart
* `Course R`: relations between what is there before and after that generation can keep
* `Generator.Moves R g`: every run of `g` keeps to `R`; one lemma for each way to put generators together
* `Generator.Pairing E`: relations between two generators that are put together in the same way
-/

namespace WireShapes.Code

namespace Generator

variable {α β : Type} {f f' : Functions}

/-- From the functions `f` the generator succeeds with `a` and leaves `f'`. -/
def Runs (g : Generator α) (f : Functions) (a : α) (f' : Functions) : Prop := g f = (.ok a, f')

def Gives (g : Generator α) (a : α) : Prop := ∃ f f', Runs g f a f'

/-! ### Runs taken apart -/

theorem runs_pure {a b : α} : Runs (pure a) f b f' ↔ b = a ∧ f' = f := by
  constructor
  · intro h
    cases h
    exact ⟨rfl, rfl⟩
  · rintro ⟨rfl, rfl⟩
    rfl

theorem bind_apply (x : Generator α) (k : α → Generator β) (f : Functions) :
    (x >>= k) f = match x f with
      | (.ok a, middle) => k a middle
      | (.error e, middle) => (.error e, middle) := by
  simp only [bind, ExceptT.bind, ExceptT.mk, StateT.bind, ExceptT.bindCont]
  cases x f with
  | mk result middle => cases result <;> rfl

theorem runs_bind {x : Generator α} {k : α → Generator β} {b : β} :
    Runs (x >>= k) f b f' ↔ ∃ a middle, Runs x f a middle ∧ Runs (k a) middle b f' := by
  unfold Runs
  rw [bind_apply]
  constructor
  · intro h
    cases hx : x f with
    | mk result middle =>
      rw [hx] at h
      cases result with
      | error e => cases h
      | ok a => exact ⟨a, middle, rfl, h⟩
  · rintro ⟨a, middle, hx, hk⟩
    rw [hx]
    exact hk

theorem not_runs_throw {e : ModelError} {a : α} : ¬Runs (throw e) f a f' := by
  intro h
  cases h

theorem runs_lift {result : Except ModelError α} {a : α} :
    Runs (lift result) f a f' ↔ result = .ok a ∧ f' = f := by
  cases result with
  | ok value =>
    rw [lift, runs_pure]
    constructor
    · rintro ⟨rfl, rfl⟩
      exact ⟨rfl, rfl⟩
    · rintro ⟨h, rfl⟩
      exact ⟨(Except.ok.inj h).symm, rfl⟩
  | error e =>
    constructor
    · intro h
      exact (not_runs_throw h).elim
    · rintro ⟨h, -⟩
      cases h

theorem runs_lift_bind {result : Except ModelError α} {k : α → Generator β} {b : β} :
    Runs (lift result >>= k) f b f' ↔ ∃ a, result = .ok a ∧ Runs (k a) f b f' := by
  rw [runs_bind]
  constructor
  · rintro ⟨a, middle, hlift, hk⟩
    obtain ⟨hresult, rfl⟩ := runs_lift.1 hlift
    exact ⟨a, hresult, hk⟩
  · rintro ⟨a, hresult, hk⟩
    exact ⟨a, f, runs_lift.2 ⟨hresult, rfl⟩, hk⟩

theorem runs_fresh {stem name : String} (h : Runs (fresh stem) f name f') :
    f' = { f with named := f.named + 1 } := by
  cases h
  rfl

theorem runs_emit {shape : ShapeId} {form : FunctionForm} {name : String} {code : List Step} {u : Unit}
    (h : Runs (emit shape form name code) f u f') :
    f' = { f with written := f.written ++ [⟨shape, form, name, code⟩] } := by
  cases h
  rfl

theorem request_apply (shape : ShapeId) (form : FunctionForm) (name : String) (write : Generator (List Step))
    (f : Functions) :
    request shape form name write f =
      match Entries.get? (shape, form) f.known with
      | some known => (.ok known, f)
      | none =>
        match write { f with known := Entries.insert (shape, form) name f.known } with
        | (.ok code, middle) => (.ok name, { middle with written := middle.written ++ [⟨shape, form, name, code⟩] })
        | (.error e, middle) => (.error e, middle) := by
  have hget : (get : Generator Functions) f = (.ok f, f) := rfl
  unfold request
  rw [bind_apply, hget]
  dsimp only
  cases Entries.get? (shape, form) f.known with
  | some known => rfl
  | none =>
    have hbegin : (modify fun f => { f with known := Entries.insert (shape, form) name f.known } :
        Generator PUnit) f = (.ok ⟨⟩, { f with known := Entries.insert (shape, form) name f.known }) := rfl
    simp only [bind_apply, hbegin]
    cases write { f with known := Entries.insert (shape, form) name f.known } with
    | mk result middle => cases result <;> rfl
/-- **A request finds the function, or writes it.** -/
theorem runs_request {shape : ShapeId} {form : FunctionForm} {name result : String}
    {write : Generator (List Step)} (h : Runs (request shape form name write) f result f') :
    (Entries.get? (shape, form) f.known = some result ∧ f' = f) ∨
    (Entries.get? (shape, form) f.known = none ∧ result = name ∧ ∃ code middle,
      Runs write { f with known := Entries.insert (shape, form) name f.known } code middle ∧
      f' = { middle with written := middle.written ++ [⟨shape, form, name, code⟩] }) := by
  unfold Runs at h
  rw [request_apply] at h
  cases hknown : Entries.get? (shape, form) f.known with
  | some known =>
    simp only [hknown] at h
    cases h
    exact .inl ⟨rfl, rfl⟩
  | none =>
    simp only [hknown] at h
    cases hwrite : write { f with known := Entries.insert (shape, form) name f.known } with
    | mk written middle =>
      rw [hwrite] at h
      cases written with
      | error e => cases h
      | ok code =>
        cases h
        exact .inr ⟨rfl, rfl, code, middle, hwrite, rfl⟩

/-! ### What generation keeps to -/

/-- Relations between what is there before and after that generation can keep: they hold of no step, of
one step after the other, and of naming a variable. -/
structure Course (R : Functions → Functions → Prop) : Prop where
  refl : ∀ f, R f f
  trans : ∀ {f g h}, R f g → R g h → R f h
  named : ∀ f n, R f { f with named := n }

/-- Every run keeps to the relation. -/
def Moves (R : Functions → Functions → Prop) (g : Generator α) : Prop := ∀ f a f', Runs g f a f' → R f f'

variable {R : Functions → Functions → Prop}

theorem moves_pure (hR : Course R) (a : α) : Moves R (pure a) := by
  intro f b f' h
  obtain ⟨-, rfl⟩ := runs_pure.1 h
  exact hR.refl _

theorem moves_throw (e : ModelError) : Moves R (throw e : Generator α) := by
  intro f a f' h
  exact (not_runs_throw h).elim

theorem Moves.bind (hR : Course R) {x : Generator α} {k : α → Generator β} (hx : Moves R x)
    (hk : ∀ a, Gives x a → Moves R (k a)) : Moves R (x >>= k) := by
  intro f b f' h
  obtain ⟨a, middle, hfirst, hrest⟩ := runs_bind.1 h
  exact hR.trans (hx f a middle hfirst) (hk a ⟨f, middle, hfirst⟩ middle b f' hrest)

theorem gives_lift {result : Except ModelError α} {a : α} (h : Gives (lift result) a) : result = .ok a := by
  obtain ⟨f, f', h⟩ := h
  exact (runs_lift.1 h).1

theorem moves_lift (hR : Course R) (result : Except ModelError α) : Moves R (lift result) := by
  intro f a f' h
  obtain ⟨-, rfl⟩ := runs_lift.1 h
  exact hR.refl _

theorem moves_fresh (hR : Course R) (stem : String) : Moves R (fresh stem) := by
  intro f name f' h
  rw [runs_fresh h]
  exact hR.named f (f.named + 1)

theorem Moves.mapM (hR : Course R) {l : List α} {k : α → Generator β} (hk : ∀ x ∈ l, Moves R (k x)) :
    Moves R (l.mapM k) := by
  induction l with
  | nil => exact moves_pure hR []
  | cons x rest ih =>
    rw [List.mapM_cons]
    refine (hk x List.mem_cons_self).bind hR fun b _ => ?_
    refine (ih fun y hy => hk y (List.mem_cons_of_mem _ hy)).bind hR fun bs _ => ?_
    exact moves_pure hR (b :: bs)

theorem Moves.forM (hR : Course R) {l : List α} {k : α → Generator Unit} (hk : ∀ x ∈ l, Moves R (k x)) :
    Moves R (l.forM k) := by
  induction l with
  | nil => exact moves_pure hR ()
  | cons x rest ih =>
    show Moves R (k x >>= fun _ => rest.forM k)
    exact (hk x List.mem_cons_self).bind hR fun _ _ => ih fun y hy => hk y (List.mem_cons_of_mem _ hy)

/-- **One run after the other**: each element has a run of its own, with what was there before and what is
there in the end on its sides. -/
theorem runs_mapM (hR : Course R) {l : List α} {k : α → Generator β} (hk : ∀ x ∈ l, Moves R (k x))
    {bs : List β} (h : Runs (l.mapM k) f bs f') :
    List.Forall₂ (fun x b => ∃ before after, R f before ∧ Runs (k x) before b after ∧ R after f') l bs := by
  induction l generalizing f bs with
  | nil =>
    obtain ⟨rfl, rfl⟩ := runs_pure.1 h
    exact .nil
  | cons x rest ih =>
    rw [List.mapM_cons] at h
    obtain ⟨b, middle, hfirst, h⟩ := runs_bind.1 h
    obtain ⟨more, last, hrest, h⟩ := runs_bind.1 h
    obtain ⟨rfl, rfl⟩ := runs_pure.1 h
    have hmoves := fun y hy => hk y (List.mem_cons_of_mem _ hy)
    have hstep := hk x List.mem_cons_self f b middle hfirst
    refine .cons ⟨f, middle, hR.refl f, hfirst, Moves.mapM hR hmoves middle more f' hrest⟩ ?_
    refine (ih hmoves hrest).imp fun y c => ?_
    rintro ⟨before, after, hbefore, hrun, hafter⟩
    exact ⟨before, after, hR.trans hstep hbefore, hrun, hafter⟩

theorem gives_mapM {l : List α} {k : α → Generator β} {bs : List β} (h : Gives (l.mapM k) bs) :
    List.Forall₂ (fun x b => Gives (k x) b) l bs := by
  obtain ⟨f, f', h⟩ := h
  have hR : Course fun _ _ => True := ⟨fun _ => trivial, fun _ _ => trivial, fun _ _ => trivial⟩
  refine (runs_mapM hR (fun _ _ _ _ _ _ => trivial) h).imp fun x b => ?_
  rintro ⟨before, after, -, hrun, -⟩
  exact ⟨before, after, hrun⟩

/-! ### Two generators side by side -/

/-- Relations between two generators that hold of whatever is put together, in the same way, from generators
of which they hold. -/
structure Pairing (E : (α : Type) → Generator α → Generator α → Prop) : Prop where
  pure : ∀ {α : Type} (a : α), E α (Pure.pure a) (Pure.pure a)
  throw : ∀ {α : Type} (e : ModelError), E α (throw e) (throw e)
  fresh : ∀ stem, E String (Generator.fresh stem) (Generator.fresh stem)
  bind : ∀ {α β : Type} {x x' : Generator α} {k k' : α → Generator β}, E α x x' →
    (∀ a, Gives x a → E β (k a) (k' a)) → E β (x >>= k) (x' >>= k')

/-- What every run keeps to is such a relation, of the first generator. -/
theorem Course.pairing (hR : Course R) : Pairing fun _ g _ => Moves R g where
  pure := moves_pure hR
  throw := moves_throw
  fresh := moves_fresh hR
  bind hx hk := hx.bind hR hk

namespace Pairing

variable {E : (α : Type) → Generator α → Generator α → Prop}

theorem lift (hE : Pairing E) (result : Except ModelError α) :
    E α (Generator.lift result) (Generator.lift result) := by
  cases result with
  | ok a => exact hE.pure a
  | error e => exact hE.throw e

theorem mapM (hE : Pairing E) {l : List α} {k k' : α → Generator β} (hk : ∀ x ∈ l, E β (k x) (k' x)) :
    E (List β) (l.mapM k) (l.mapM k') := by
  induction l with
  | nil => exact hE.pure []
  | cons x rest ih =>
    rw [List.mapM_cons, List.mapM_cons]
    refine hE.bind (hk x List.mem_cons_self) fun b _ => ?_
    refine hE.bind (ih fun y hy => hk y (List.mem_cons_of_mem _ hy)) fun bs _ => ?_
    exact hE.pure (b :: bs)

end Pairing

end Generator

end WireShapes.Code
