import Mathlib.Data.List.Forall2

/-!
Results in a row: what a chain of steps that may fail comes to.

* `bind_eq_ok_iff`, `map_eq_ok_iff`, `forall₂_of_mapM`: what a chain that does not fail has gone through
* `bind_eq_error_iff`, `map_eq_error_iff`: where a chain that fails has failed
* `invariant_foldlM`: what the steps of a fold keep
* `Agree R`: two results of which both or none fail, and what holds of the values; one lemma for each way
  to chain steps
-/

namespace WireShapes.Results

variable {ε α β γ : Type}

theorem bind_eq_ok_iff {x : Except ε α} {f : α → Except ε β} {b : β} :
    (x >>= f) = .ok b ↔ ∃ a, x = .ok a ∧ f a = .ok b := by
  cases x <;> simp [bind, Except.bind]

theorem map_eq_ok_iff {x : Except ε α} {f : α → β} {b : β} :
    x.map f = .ok b ↔ ∃ a, x = .ok a ∧ f a = b := by
  cases x <;> simp [Except.map]

theorem bind_eq_error_iff {x : Except ε α} {f : α → Except ε β} {e : ε} :
    (x >>= f) = .error e ↔ x = .error e ∨ ∃ a, x = .ok a ∧ f a = .error e := by
  cases x <;> simp [bind, Except.bind]

theorem map_eq_error_iff {x : Except ε α} {f : α → β} {e : ε} : x.map f = .error e ↔ x = .error e := by
  cases x <;> simp [Except.map]

/-- Results that agree in what is seen of them are the same failure, or values that look alike. -/
theorem map_eq_map_iff {x : Except ε α} {y : Except ε β} {f : α → γ} {g : β → γ} :
    x.map f = y.map g ↔
      (∃ e, x = .error e ∧ y = .error e) ∨ ∃ a b, x = .ok a ∧ y = .ok b ∧ f a = g b := by
  cases x <;> cases y <;> simp [Except.map, eq_comm]

@[simp] theorem ok_bind (a : α) (f : α → Except ε β) : (Except.ok a >>= f) = f a := rfl

theorem map_id (x : Except ε α) : x.map (fun a => a) = x := by cases x <;> rfl

theorem map_map (x : Except ε α) (f : α → β) (g : β → γ) : (x.map f).map g = x.map fun a => g (f a) := by
  cases x <;> rfl

@[simp] theorem map_ok (a : α) (f : α → β) : (Except.ok a : Except ε α).map f = .ok (f a) := rfl

/-- Results of the elements of a list, if none of them fails. -/
theorem forall₂_of_mapM {k : α → Except ε β} {l : List α} {bs : List β} (h : l.mapM k = .ok bs) :
    List.Forall₂ (fun x b => k x = .ok b) l bs := by
  induction l generalizing bs with
  | nil =>
    cases h
    exact .nil
  | cons x rest ih =>
    rw [List.mapM_cons] at h
    obtain ⟨b, hb, h⟩ := bind_eq_ok_iff.1 h
    obtain ⟨more, hmore, h⟩ := bind_eq_ok_iff.1 h
    cases h
    exact .cons hb (ih hmore)

theorem exists_of_mapM {k : α → Except ε β} {l : List α} {bs : List β} (h : l.mapM k = .ok bs) {x : α}
    (hx : x ∈ l) : ∃ b ∈ bs, k x = .ok b := by
  have hall := forall₂_of_mapM h
  clear h
  induction hall with
  | nil => cases hx
  | cons hhead _ ih =>
    rcases List.mem_cons.1 hx with rfl | hx
    · exact ⟨_, List.mem_cons_self, hhead⟩
    · obtain ⟨b, hb, hk⟩ := ih hx
      exact ⟨b, List.mem_cons_of_mem _ hb, hk⟩

theorem exists_of_mem_mapM {k : α → Except ε β} {l : List α} {bs : List β} (h : l.mapM k = .ok bs) {b : β}
    (hb : b ∈ bs) : ∃ x ∈ l, k x = .ok b := by
  have hall := forall₂_of_mapM h
  clear h
  induction hall with
  | nil => cases hb
  | cons hhead _ ih =>
    rcases List.mem_cons.1 hb with rfl | hb
    · exact ⟨_, List.mem_cons_self, hhead⟩
    · obtain ⟨x, hx, hk⟩ := ih hb
      exact ⟨x, List.mem_cons_of_mem _ hx, hk⟩

theorem mapM_ok {k : α → Except ε β} {l : List α} (h : ∀ x ∈ l, ∃ b, k x = .ok b) :
    ∃ bs, l.mapM k = .ok bs := by
  induction l with
  | nil => exact ⟨[], rfl⟩
  | cons x rest ih =>
    obtain ⟨b, hb⟩ := h x List.mem_cons_self
    obtain ⟨bs, hbs⟩ := ih fun y hy => h y (List.mem_cons_of_mem _ hy)
    exact ⟨b :: bs, by rw [List.mapM_cons, hb, ok_bind, hbs, ok_bind]; rfl⟩

theorem mapM_map_ok {k : β → Except ε γ} {f : α → β} {g : α → γ} {l : List α} (h : ∀ x ∈ l, k (f x) = .ok (g x)) :
    (l.map f).mapM k = .ok (l.map g) := by
  induction l with
  | nil => rfl
  | cons x rest ih =>
    have hrest := ih fun y hy => h y (List.mem_cons_of_mem _ hy)
    rw [List.map_cons, List.mapM_cons, h x List.mem_cons_self, ok_bind, hrest, ok_bind, List.map_cons]
    rfl

theorem toOption_eq_some_iff {x : Except ε α} {a : α} : x.toOption = some a ↔ x = .ok a := by
  cases x <;> simp [Except.toOption]

theorem exists_of_isSome {result : Except ε α} (h : result.toOption.isSome = true) : ∃ a, result = .ok a := by
  obtain ⟨a, ha⟩ := Option.isSome_iff_exists.1 h
  exact ⟨a, toOption_eq_some_iff.1 ha⟩

/-- What every step keeps, a fold of steps keeps. -/
theorem invariant_foldlM {P : β → Prop} {step : β → α → Except ε β} {l : List α}
    (hstep : ∀ a ∈ l, ∀ b b', P b → step b a = .ok b' → P b') {b b' : β} (hb : P b)
    (h : l.foldlM step b = .ok b') : P b' := by
  induction l generalizing b with
  | nil =>
    cases h
    exact hb
  | cons a rest ih =>
    rw [List.foldlM_cons] at h
    obtain ⟨middle, hfirst, hrest⟩ := bind_eq_ok_iff.1 h
    have hmiddle := hstep a List.mem_cons_self b middle hb hfirst
    exact ih (fun x hx => hstep x (List.mem_cons_of_mem _ hx)) hmiddle hrest

/-- A fold whose steps fail or not whatever they start from fails if one of them does. -/
theorem foldlM_ok_iff {step : β → α → Except ε β} {ok : α → Prop} {l : List α}
    (hstep : ∀ a ∈ l, ∀ b, (∃ b', step b a = .ok b') ↔ ok a) {b : β} :
    (∃ b', l.foldlM step b = .ok b') ↔ ∀ a ∈ l, ok a := by
  induction l generalizing b with
  | nil => simp [pure, Except.pure]
  | cons a rest ih =>
    have ih := fun b => ih (fun x hx => hstep x (List.mem_cons_of_mem _ hx)) (b := b)
    rw [List.foldlM_cons, List.forall_mem_cons, ← hstep a List.mem_cons_self b]
    constructor
    · rintro ⟨b', h⟩
      obtain ⟨middle, hfirst, hrest⟩ := bind_eq_ok_iff.1 h
      exact ⟨⟨middle, hfirst⟩, (ih middle).1 ⟨b', hrest⟩⟩
    · rintro ⟨⟨middle, hfirst⟩, hrest⟩
      rw [hfirst, ok_bind]
      exact (ih middle).2 hrest

theorem mapM_ok_iff {k : α → Except ε β} {l : List α} : (∃ bs, l.mapM k = .ok bs) ↔ ∀ x ∈ l, ∃ b, k x = .ok b := by
  refine ⟨?_, mapM_ok⟩
  rintro ⟨bs, h⟩ x hx
  obtain ⟨b, -, hb⟩ := exists_of_mapM h hx
  exact ⟨b, hb⟩

theorem exists_error_iff {x : Except ε α} : (∃ e, x = .error e) ↔ ¬∃ a, x = .ok a := by
  cases x <;> simp

theorem mapM_error_iff {k : α → Except ε β} {l : List α} :
    (∃ e, l.mapM k = .error e) ↔ ∃ x ∈ l, ∃ e, k x = .error e := by
  simp only [exists_error_iff, mapM_ok_iff, not_forall, exists_prop]

theorem forM_ok_iff {check : α → Except ε Unit} {l : List α} :
    (∃ u, l.forM check = .ok u) ↔ ∀ x ∈ l, ∃ u, check x = .ok u := by
  induction l with
  | nil => exact ⟨fun _ x hx => (nomatch hx), fun _ => ⟨(), rfl⟩⟩
  | cons x rest ih =>
    have hcons : (x :: rest).forM check = (check x >>= fun _ => rest.forM check) := rfl
    rw [hcons, List.forall_mem_cons, ← ih]
    simp only [bind_eq_ok_iff]
    exact ⟨fun ⟨u, u', hx, hrest⟩ => ⟨⟨u', hx⟩, ⟨u, hrest⟩⟩, fun ⟨⟨u', hx⟩, ⟨u, hrest⟩⟩ => ⟨u, u', hx, hrest⟩⟩

/-! ### Results that agree -/

/-- Both fail, or neither does and the values are related. -/
inductive Agree (R : α → β → Prop) : Except ε α → Except ε β → Prop
  | ok {a : α} {b : β} (h : R a b) : Agree R (.ok a) (.ok b)
  | error {e e' : ε} : Agree R (.error e) (.error e')

namespace Agree

variable {α' β' : Type} {R : α → β → Prop} {S : α' → β' → Prop} {x : Except ε α} {y : Except ε β}

theorem ok_iff (h : Agree R x y) : (∃ a, x = .ok a) ↔ ∃ b, y = .ok b := by
  cases h with
  | ok => exact ⟨fun _ => ⟨_, rfl⟩, fun _ => ⟨_, rfl⟩⟩
  | error => exact ⟨fun ⟨_, h⟩ => (nomatch h), fun ⟨_, h⟩ => (nomatch h)⟩

theorem of_ok_iff (hiff : (∃ a, x = .ok a) ↔ ∃ b, y = .ok b) (hR : ∀ a b, x = .ok a → y = .ok b → R a b) :
    Agree R x y := by
  cases x with
  | error e =>
    cases y with
    | error e' => exact .error
    | ok b => exact nomatch (hiff.2 ⟨b, rfl⟩).choose_spec
  | ok a =>
    cases y with
    | error e' => exact nomatch (hiff.1 ⟨a, rfl⟩).choose_spec
    | ok b => exact .ok (hR a b rfl rfl)

theorem refl {R : α → α → Prop} (hR : ∀ a, R a a) (x : Except ε α) : Agree R x x := by
  cases x with
  | error e => exact .error
  | ok a => exact .ok (hR a)

/-- The values of two results are the same just if the results agree in them. -/
theorem eq_iff {x y : Except ε α} : Agree Eq x y ↔ x.toOption = y.toOption := by
  constructor
  · rintro (rfl | _) <;> rfl
  · intro h
    cases x <;> cases y
    · exact .error
    · cases h
    · cases h
    · exact .ok (Option.some.inj h)

theorem imp {T : α → β → Prop} (hT : ∀ a b, R a b → T a b) (h : Agree R x y) : Agree T x y := by
  cases h with
  | ok h => exact .ok (hT _ _ h)
  | error => exact .error

theorem bind {f : α → Except ε α'} {g : β → Except ε β'} (h : Agree R x y)
    (hfg : ∀ a b, R a b → Agree S (f a) (g b)) : Agree S (x >>= f) (y >>= g) := by
  cases h with
  | ok h => exact hfg _ _ h
  | error => exact .error

theorem map {f : α → α'} {g : β → β'} (h : Agree R x y) (hfg : ∀ a b, R a b → S (f a) (g b)) :
    Agree S (x.map f) (y.map g) := by
  cases h with
  | ok h => exact .ok (hfg _ _ h)
  | error => exact .error

theorem mapM {f : α → Except ε α'} {g : β → Except ε β'} {l : List α} {l' : List β}
    (h : List.Forall₂ (fun a b => Agree S (f a) (g b)) l l') :
    Agree (List.Forall₂ S) (l.mapM f) (l'.mapM g) := by
  induction h with
  | nil => exact .ok .nil
  | cons hhead _ ih =>
    rw [List.mapM_cons, List.mapM_cons]
    exact hhead.bind fun a b hab => ih.bind fun as bs habs => .ok (.cons hab habs)

end Agree

end WireShapes.Results
