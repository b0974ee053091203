import Mathlib.Data.List.Nodup
import Mathlib.Data.List.Perm.Basic
import Mathlib.Logic.Relation
import WireShapes.Proofs.Code.Recipes
import WireShapes.Proofs.Saturation

/-!
What the functions for shapes keep to while some of them are still being written.

* `Follows`: a function was written after a recipe, and what it calls is known
* `Ledger s pending f`: what is known is what is written and what is pending, each once
* `serves_request`: requests keep the ledger, and answer with names that are known
* `learns_within`: what becomes known is for shapes that are reached
* `runAlike_within`: the bound on functions that are begun at once is never met
-/

namespace WireShapes.Code

open Generator Relation

/-- The key of a function that is written, with its name. -/
def Function.entry (g : Function) : FunctionKey × String := ((g.shape, g.form), g.name)

def Recipe.all : List Recipe := [.writers, .readers, .documents]

theorem Recipe.writers_mem : Recipe.writers ∈ Recipe.all := by simp [Recipe.all]

theorem Recipe.readers_mem : Recipe.readers ∈ Recipe.all := by simp [Recipe.all]

theorem Recipe.documents_mem : Recipe.documents ∈ Recipe.all := by simp [Recipe.all]

theorem Recipe.sound_of_mem {T : Recipe} (h : T ∈ Recipe.all) : T.Sound := by
  simp only [Recipe.all, List.mem_cons, List.not_mem_nil, or_false] at h
  rcases h with rfl | rfl | rfl
  · exact sound_writers
  · exact sound_readers
  · exact sound_documents

/-- Answers are names of functions under these entries, for shapes that are referred to. -/
def Recipe.Answers (T : Recipe) (s : Scope) (entries : List (FunctionKey × String)) (shape : Shape)
    (call : Shape → Generator String) : Prop :=
  ∀ b answer, Gives (call b) answer → T.refers s shape b ∧ ((b.id, T.asks), answer) ∈ entries

/-- The function was written after the recipe, with calls of functions under these entries, and all shapes that
are referred to have one. -/
structure Function.Follows (s : Scope) (entries : List (FunctionKey × String)) (T : Recipe) (shape : Shape)
    (g : Function) : Prop where
  listed : s.model.get? g.shape = some shape
  form : g.form = T.form
  refers : ∀ b, T.refers s shape b → (b.id, T.asks) ∈ entries.map Prod.fst
  code : ∃ call, T.Answers s entries shape call ∧ Gives (T.code s call g.name shape) g.code

theorem Function.Follows.mono {s : Scope} {entries entries' : List (FunctionKey × String)} {T : Recipe}
    {shape : Shape} {g : Function} (h : g.Follows s entries T shape) (hmore : entries ⊆ entries') :
    g.Follows s entries' T shape := by
  obtain ⟨call, hanswers, hgives⟩ := h.code
  refine ⟨h.listed, h.form, fun b hb => List.map_subset Prod.fst hmore (h.refers b hb), call, ?_, hgives⟩
  intro b answer hanswer
  obtain ⟨hrefers, hmem⟩ := hanswers b answer hanswer
  exact ⟨hrefers, hmore hmem⟩

/-- What is known is what is pending and what is written, each once, and what is written was so after a recipe. -/
structure Ledger (s : Scope) (pending : List (FunctionKey × String)) (f : Functions) : Prop where
  once : (f.known.map Prod.fst).Nodup
  balance : (pending ++ f.written.map Function.entry).Perm f.known
  follows : ∀ g ∈ f.written, ∃ T ∈ Recipe.all, ∃ shape, g.Follows s f.known T shape

theorem ledger_nil (s : Scope) : Ledger s [] {} :=
  ⟨List.nodup_nil, List.Perm.refl _, fun g h => by simp at h⟩

/-- Nothing is forgotten and the ledger stays in balance. -/
structure Proceeds (s : Scope) (f f' : Functions) : Prop where
  remembers : Remembers f f'
  ledger : ∀ pending, Ledger s pending f → Ledger s pending f'

theorem course_proceeds (s : Scope) : Course (Proceeds s) where
  refl f := ⟨course_remembers.refl f, fun _ h => h⟩
  trans h k := ⟨course_remembers.trans h.remembers k.remembers, fun pending hl => k.ledger pending (h.ledger pending hl)⟩
  named f n := ⟨course_remembers.named f n, fun _ h => ⟨h.once, h.balance, h.follows⟩⟩

theorem Generator.Moves.remembers {s : Scope} {α : Type} {g : Generator α} (h : Moves (Proceeds s) g) :
    Moves Remembers g :=
  fun f a f' hrun => (h f a f' hrun).remembers

/-- The request proceeds, and answers with the name under the key. -/
structure Serves (s : Scope) (key : FunctionKey) (g : Generator String) : Prop where
  moves : Moves (Proceeds s) g
  answers : ∀ f name f', Runs g f name f' → (key, name) ∈ f'.known

theorem Serves.marks {s : Scope} {key : FunctionKey} {g : Generator String} (h : Serves s key g) : Marks key g :=
  fun f name f' hrun => List.mem_map_of_mem (h.answers f name f' hrun)

/-! ### Answers that are known -/

section Answers

variable {T : Recipe} {s : Scope} {shape : Shape} {call : Shape → Generator String} {name : String}
  {code : List Step} {f f' last : Functions}

/-- Runs that end before `last` are runs of the second generator as well. -/
def Replays (last : Functions) (α : Type) (g g' : Generator α) : Prop :=
  Moves Remembers g ∧ ∀ f a f', Runs g f a f' → Remembers f' last → Runs g' f a f'

theorem pairing_replays (last : Functions) : Pairing (Replays last) where
  pure a := ⟨moves_pure course_remembers a, fun _ _ _ h _ => h⟩
  throw e := ⟨moves_throw e, fun _ _ _ h _ => h⟩
  fresh stem := ⟨moves_fresh course_remembers stem, fun _ _ _ h _ => h⟩
  bind := by
    intro α β x x' k k' hx hk
    refine ⟨hx.1.bind course_remembers fun a ha => (hk a ha).1, ?_⟩
    intro f b f' h hlast
    obtain ⟨a, middle, hfirst, hrest⟩ := runs_bind.1 h
    have hgives : Gives x a := ⟨f, middle, hfirst⟩
    have hmiddle := course_remembers.trans ((hk a hgives).1 middle b f' hrest) hlast
    exact runs_bind.2 ⟨a, middle, hx.2 f a middle hfirst hmiddle, (hk a hgives).2 middle b f' hrest hlast⟩

open Classical in
/-- The same answers, as far as they are known in the end and for shapes that are referred to. -/
noncomputable def Recipe.checkedCall (T : Recipe) (s : Scope) (entries : List (FunctionKey × String)) (shape : Shape)
    (call : Shape → Generator String) (b : Shape) : Generator String := do
  let answer ← call b
  if T.refers s shape b ∧ ((b.id, T.asks), answer) ∈ entries then return answer
  else throw (.unknownShape b.id)

theorem Recipe.answers_checkedCall (T : Recipe) (s : Scope) (entries : List (FunctionKey × String)) (shape : Shape)
    (call : Shape → Generator String) : T.Answers s entries shape (T.checkedCall s entries shape call) := by
  rintro b answer ⟨f, f', h⟩
  obtain ⟨given, middle, -, h⟩ := runs_bind.1 h
  split at h
  · next hchecked =>
    obtain ⟨rfl, -⟩ := runs_pure.1 h
    exact hchecked
  · exact (not_runs_throw h).elim

/-- **Code that was written is code for answers that are known in the end.** -/
theorem Recipe.code_answered (hT : T.Sound)
    (hcall : ∀ b, T.refers s shape b → Serves s (b.id, T.asks) (call b))
    (h : Runs (T.code s call name shape) f code f') :
    ∃ checked, T.Answers s f'.known shape checked ∧ Gives (T.code s checked name shape) code := by
  refine ⟨T.checkedCall s f'.known shape call, T.answers_checkedCall s f'.known shape call, f, f', ?_⟩
  have hreplays : Replays f' _ (T.code s call name shape) (T.code s (T.checkedCall s f'.known shape call) name shape) := by
    refine hT.paired (pairing_replays f') name fun b hb => ⟨(hcall b hb).moves.remembers, ?_⟩
    intro f₀ answer f₁ hrun hlast
    refine runs_bind.2 ⟨answer, f₁, hrun, ?_⟩
    have hmem := hlast.subset ((hcall b hb).answers f₀ answer f₁ hrun)
    rw [if_pos ⟨hb, hmem⟩]
    exact runs_pure.2 ⟨rfl, rfl⟩
  exact hreplays.2 f code f' h (course_remembers.refl f')

end Answers

/-! ### Requests -/

section Requests

variable {T : Recipe} {s : Scope} {shape : Shape} {call : Shape → Generator String} {name : String}
  {code : List Step} {f f' : Functions} {pending : List (FunctionKey × String)}

theorem nodup_fst_concat {entries : List (FunctionKey × String)} {key : FunctionKey}
    (h : (entries.map Prod.fst).Nodup) (hnew : key ∉ entries.map Prod.fst) (name : String) :
    ((entries ++ [(key, name)]).map Prod.fst).Nodup := by
  rw [List.map_append, List.nodup_append_comm]
  exact List.nodup_cons.2 ⟨hnew, h⟩

theorem balance_begin {written known : List (FunctionKey × String)} (h : (pending ++ written).Perm known)
    (entry : FunctionKey × String) : ((entry :: pending) ++ written).Perm (known ++ [entry]) :=
  (h.cons entry).trans (List.perm_append_singleton _ _).symm

theorem balance_finish {written : List Function} {known : List (FunctionKey × String)} {g : Function}
    (h : ((g.entry :: pending) ++ written.map Function.entry).Perm known) :
    (pending ++ (written ++ [g]).map Function.entry).Perm known := by
  rw [List.map_append, ← List.append_assoc]
  exact (List.perm_append_singleton _ _).trans h

/-- While a function is being written it is pending. -/
theorem Ledger.begin {key : FunctionKey} (h : Ledger s pending f) (hnew : key ∉ f.known.map Prod.fst) :
    Ledger s ((key, name) :: pending) { f with known := f.known ++ [(key, name)] } := by
  refine ⟨nodup_fst_concat h.once hnew name, balance_begin h.balance (key, name), fun g hg => ?_⟩
  obtain ⟨T, hT, shape, hfollows⟩ := h.follows g hg
  exact ⟨T, hT, shape, hfollows.mono (List.subset_append_left _ _)⟩

/-- When it is written, it is no longer. -/
theorem Ledger.finish {g : Function} (h : Ledger s (g.entry :: pending) f) (hT : T ∈ Recipe.all)
    (hfollows : g.Follows s f.known T shape) : Ledger s pending { f with written := f.written ++ [g] } := by
  refine ⟨h.once, balance_finish h.balance, fun g' hg' => ?_⟩
  rcases List.mem_append.1 hg' with hg' | hg'
  · exact h.follows g' hg'
  · obtain rfl := List.mem_singleton.1 hg'
    exact ⟨T, hT, shape, hfollows⟩

/-- **A request proceeds and answers, if the requests that it makes do.** -/
theorem serves_request (hT : T ∈ Recipe.all) (hlisted : s.Listed shape)
    (hcall : ∀ b, T.refers s shape b → Serves s (b.id, T.asks) (call b)) :
    Serves s (shape.id, T.form) (request shape.id T.form name (T.code s call name shape)) := by
  have hsound := Recipe.sound_of_mem hT
  have hwrite : Moves (Proceeds s) (T.code s call name shape) :=
    hsound.paired (c := call) (course_proceeds s).pairing name fun b hb => (hcall b hb).moves
  have hnewly : ∀ {f : Functions}, Entries.get? (shape.id, T.form) f.known = none →
      Entries.insert (shape.id, T.form) name f.known = f.known ++ [((shape.id, T.form), name)] :=
    fun hnew => Entries.insert_of_not_mem (Entries.get?_eq_none_iff.1 hnew)
  refine ⟨?_, ?_⟩
  · intro f result f' h
    rcases runs_request h with ⟨-, rfl⟩ | ⟨hnew, rfl, code, middle, hrun, rfl⟩
    · exact (course_proceeds s).refl _
    · rw [hnewly hnew] at hrun
      have hmiddle := hwrite _ _ _ hrun
      refine ⟨(List.prefix_append _ _).trans hmiddle.remembers, fun pending hl => ?_⟩
      have hpending := hmiddle.ledger _ (hl.begin (Entries.get?_eq_none_iff.1 hnew))
      have hfollows : Function.Follows s middle.known T shape ⟨shape.id, T.form, result, code⟩ := by
        refine ⟨hlisted, rfl, fun b hb => ?_, Recipe.code_answered hsound hcall hrun⟩
        exact hsound.marks result hb (hcall b hb).marks (fun d hd => (hcall d hd).moves.remembers) _ _ _ hrun
      exact hpending.finish hT hfollows
  · intro f result f' h
    rcases runs_request h with ⟨hknown, rfl⟩ | ⟨hnew, rfl, code, middle, hrun, rfl⟩
    · exact Entries.mem_of_get? hknown
    · rw [hnewly hnew] at hrun
      exact (hwrite _ _ _ hrun).remembers.subset (List.mem_append_right _ List.mem_cons_self)

end Requests

/-! ### Functions for shapes, through any depth -/

section Within

variable {T : Recipe} {nameOf : ShapeId → String} {fault : Reason} {s : Scope}

theorem serves_within (hT : T ∈ Recipe.all) (hself : T.asks = T.form)
    (hlisted : ∀ a b, T.refers s a b → s.Listed b) (depth : Nat) {shape : Shape} (hshape : s.Listed shape) :
    Serves s (shape.id, T.form) (T.within nameOf fault s depth shape) := by
  induction depth generalizing shape with
  | zero => exact ⟨moves_throw _, fun f name f' h => (not_runs_throw h).elim⟩
  | succ depth ih =>
    refine serves_request hT hshape fun b hb => ?_
    rw [hself]
    exact ih (hlisted shape b hb)

/-- What becomes known has the property. -/
def Learns (P : FunctionKey → Prop) (f f' : Functions) : Prop := ∀ key, Known f' key → Known f key ∨ P key

theorem course_learns (P : FunctionKey → Prop) : Course (Learns P) where
  refl _ := fun _ h => .inl h
  trans h k := fun key hkey => (k key hkey).elim (h key) .inr
  named _ _ := fun _ h => .inl h

theorem Learns.mono {P Q : FunctionKey → Prop} (hPQ : ∀ key, P key → Q key) {f f' : Functions}
    (h : Learns P f f') : Learns Q f f' :=
  fun key hkey => (h key hkey).imp_right (hPQ key)

theorem learns_request {P : FunctionKey → Prop} {shape : ShapeId} {form : FunctionForm} {name : String}
    {write : Generator (List Step)} (hkey : P (shape, form)) (hwrite : Moves (Learns P) write) :
    Moves (Learns P) (request shape form name write) := by
  intro f result f' h key hknown
  rcases runs_request h with ⟨-, rfl⟩ | ⟨hnew, rfl, code, middle, hrun, rfl⟩
  · exact .inl hknown
  · rcases hwrite _ _ _ hrun key hknown with hbefore | hlearnt
    · rw [Entries.insert_of_not_mem (Entries.get?_eq_none_iff.1 hnew)] at hbefore
      unfold Known at hbefore
      rw [List.map_append, List.mem_append] at hbefore
      refine hbefore.imp_right fun hself => ?_
      obtain rfl : key = (shape, form) := by simpa using hself
      exact hkey
    · exact .inr hlearnt

/-- **What becomes known is for shapes that are reached.** -/
theorem learns_within (hT : T.Sound) (depth : Nat) (shape : Shape) :
    Moves (Learns fun key => ∃ b, ReflTransGen (T.refers s) shape b ∧ key = (b.id, T.form))
      (T.within nameOf fault s depth shape) := by
  induction depth generalizing shape with
  | zero => exact moves_throw _
  | succ depth ih =>
    refine learns_request ⟨shape, .refl, rfl⟩ ?_
    refine hT.paired (c := T.within nameOf fault s depth) (course_learns _).pairing _ fun b hb => ?_
    intro f name f' h
    refine (ih b f name f' h).mono ?_
    rintro key ⟨d, hpath, hkey⟩
    exact ⟨d, hpath.head hb, hkey⟩

end Within

/-! ### The bound is never met -/

section Depth

variable {T : Recipe} {nameOf : ShapeId → String} {fault : Reason} {s : Scope}

/-- The functions of a form that are not known yet. -/
def unknown (s : Scope) (form : FunctionForm) (f : Functions) : List FunctionKey :=
  missing (s.model.shapes.map fun shape => (shape.id, form)) (f.known.map Prod.fst)

/-- Two generators forget nothing, and run alike while fewer functions than the bound are unknown. -/
def RunAlike (s : Scope) (form : FunctionForm) (bound : Nat) (α : Type) (g g' : Generator α) : Prop :=
  Moves Remembers g ∧ ∀ f, (unknown s form f).length < bound → g f = g' f

theorem length_unknown_le {form : FunctionForm} {f f' : Functions} (h : Remembers f f') :
    (unknown s form f').length ≤ (unknown s form f).length := by
  obtain ⟨new, hnew⟩ := h
  unfold unknown
  rw [← hnew, List.map_append]
  exact length_missing_append_le _ _ _

theorem pairing_runAlike (s : Scope) (form : FunctionForm) (bound : Nat) : Pairing (RunAlike s form bound) where
  pure a := ⟨moves_pure course_remembers a, fun _ _ => rfl⟩
  throw e := ⟨moves_throw e, fun _ _ => rfl⟩
  fresh stem := ⟨moves_fresh course_remembers stem, fun _ _ => rfl⟩
  bind := by
    intro α β x x' k k' hx hk
    refine ⟨hx.1.bind course_remembers fun a ha => (hk a ha).1, fun f hf => ?_⟩
    rw [bind_apply, bind_apply, ← hx.2 f hf]
    cases hrun : x f with
    | mk result middle =>
      cases result with
      | error e => rfl
      | ok a =>
        have hless : (unknown s form middle).length ≤ (unknown s form f).length :=
          length_unknown_le (hx.1 f a middle hrun)
        exact (hk a ⟨f, middle, hrun⟩).2 middle (by omega)

theorem remembers_request {shape : ShapeId} {form : FunctionForm} {name : String} {write : Generator (List Step)}
    (hwrite : Moves Remembers write) : Moves Remembers (request shape form name write) := by
  intro f result f' h
  rcases runs_request h with ⟨-, rfl⟩ | ⟨hnew, rfl, code, middle, hrun, rfl⟩
  · exact course_remembers.refl _
  · rw [Entries.insert_of_not_mem (Entries.get?_eq_none_iff.1 hnew)] at hrun
    exact (List.prefix_append _ _).trans (hwrite _ _ _ hrun)

theorem remembers_within (hT : T.Sound) (depth : Nat) (shape : Shape) :
    Moves Remembers (T.within nameOf fault s depth shape) :=
  Recipe.moves_within hT course_remembers (fun _ _ hwrite => remembers_request hwrite) fault depth shape

/-- **The bound is never met**: with as many functions at once as are not known yet, any greater bound gives the
same run. -/
theorem runAlike_within (hT : T.Sound) (hlisted : ∀ a b, T.refers s a b → s.Listed b) (bound : Nat)
    {depth depth' : Nat} (hdepth : bound ≤ depth) (hdepth' : bound ≤ depth') {shape : Shape}
    (hshape : s.Listed shape) :
    RunAlike s T.form bound _ (T.within nameOf fault s depth shape) (T.within nameOf fault s depth' shape) := by
  refine ⟨remembers_within hT depth shape, ?_⟩
  induction bound generalizing depth depth' shape with
  | zero => exact fun f hf => absurd hf (Nat.not_lt_zero _)
  | succ bound ih =>
    intro f hf
    obtain ⟨depth, rfl⟩ := Nat.exists_eq_add_one_of_ne_zero (by omega : depth ≠ 0)
    obtain ⟨depth', rfl⟩ := Nat.exists_eq_add_one_of_ne_zero (by omega : depth' ≠ 0)
    have hless : bound ≤ depth := Nat.le_of_succ_le_succ hdepth
    have hless' : bound ≤ depth' := Nat.le_of_succ_le_succ hdepth'
    have hcode := hT.paired (pairing_runAlike s T.form bound) (nameOf shape.id) fun b (hb : T.refers s shape b) =>
      ⟨remembers_within hT depth b, ih hless hless' (hlisted shape b hb)⟩
    rw [Recipe.within, Recipe.within, request_apply, request_apply]
    cases hknown : Entries.get? (shape.id, T.form) f.known with
    | some known => rfl
    | none =>
      have hnew := Entries.get?_eq_none_iff.1 hknown
      rw [Entries.insert_of_not_mem hnew]
      -- the function is known now, so that fewer are unknown to those that it calls
      have hfewer : (unknown s T.form { f with known := f.known ++ [((shape.id, T.form), nameOf shape.id)] }).length <
          (unknown s T.form f).length := by
        unfold unknown
        rw [List.map_append]
        refine length_missing_lt (List.mem_map.2 ⟨shape, Model.mem_of_get? hshape, rfl⟩) hnew ?_
        exact List.mem_cons_self
      rw [hcode.2 _ (by omega)]

end Depth

end WireShapes.Code
