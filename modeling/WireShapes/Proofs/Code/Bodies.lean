import WireShapes.Proofs.Code.Recipes
import WireShapes.Proofs.Code.Streams

/-!
Which members a body function handles.

* `BodyRequest`: a body function, and the members that it is asked to handle
* `Spares`: requests for other functions leave body functions alone
* `Settled`: every body function that is known handles the members of the first request for it
* `bodies_exact`: hence the function that a request is answered with handles the members of the first one
* `bodies_clash`: which need not be those that it was asked to handle
-/

namespace WireShapes.Code

open Generator

/-- A body function that is requested, with the members that it is to handle. -/
inductive BodyRequest
  | writes (shape : Shape) (members : List Member)
  | reads (shape : Shape) (members : List Member)

namespace BodyRequest

def run (s : Scope) : BodyRequest → Generator String
  | writes shape members => bodyWriter s shape members
  | reads shape members => bodyReader s shape members

def key : BodyRequest → FunctionKey
  | writes shape _ => (shape.id, .bodyWriter)
  | reads shape _ => (shape.id, .bodyReader)

/-- The function writes, or reads, exactly the members of the request. -/
def HandledBy (s : Scope) (g : Function) : BodyRequest → Prop
  | writes shape members =>
    ∃ bodies, g.code = keyWriter s g.name shape bodies ∧ List.Forall₂ (WritesKey s) members bodies
  | reads shape members =>
    ∃ arms, g.code = keyReader s g.name shape arms ∧ List.Forall₂ (ReadsKey s) members arms

/-- The first of the requests for the function of a key. -/
def first? (requests : List BodyRequest) (key : FunctionKey) : Option BodyRequest :=
  requests.find? fun r => decide (r.key = key)

end BodyRequest

def IsBody (key : FunctionKey) : Prop := key.2 = .bodyWriter ∨ key.2 = .bodyReader

theorem BodyRequest.isBody_key (r : BodyRequest) : IsBody r.key := by
  cases r with
  | writes _ _ => exact .inl rfl
  | reads _ _ => exact .inr rfl

variable {s : Scope} {f f' : Functions} {requests : List BodyRequest}

/-! ### Other functions -/

/-- Body functions are left alone, and what is written stays. -/
structure Spares (f f' : Functions) : Prop where
  known : ∀ key, IsBody key → Entries.get? key f'.known = Entries.get? key f.known
  written : f.written ⊆ f'.written

theorem course_spares : Course Spares where
  refl _ := ⟨fun _ _ => rfl, List.Subset.refl _⟩
  trans h k := ⟨fun key hkey => (k.known key hkey).trans (h.known key hkey), List.Subset.trans h.written k.written⟩
  named _ _ := ⟨fun _ _ => rfl, List.Subset.refl _⟩

theorem spares_request {shape : ShapeId} {form : FunctionForm} {name : String} {write : Generator (List Step)}
    (hform : ¬IsBody (shape, form)) (hwrite : Moves Spares write) : Moves Spares (request shape form name write) := by
  intro f result f' h
  rcases runs_request h with ⟨-, rfl⟩ | ⟨-, rfl, code, middle, hrun, rfl⟩
  · exact course_spares.refl _
  · have hmiddle := hwrite _ _ _ hrun
    refine ⟨fun key hkey => ?_, List.Subset.trans hmiddle.written (List.subset_append_left _ _)⟩
    have hne : (shape, form) ≠ key := by
      rintro rfl
      exact hform hkey
    have hsame := hmiddle.known key hkey
    rwa [Entries.get?_insert, if_neg hne] at hsame

theorem spares_within {T : Recipe} (hT : T.Sound) (hform : ∀ id, ¬IsBody (id, T.form)) (nameOf : ShapeId → String)
    (fault : Reason) (depth : Nat) (shape : Shape) : Moves Spares (T.within nameOf fault s depth shape) :=
  Recipe.moves_within hT course_spares (fun id _ hwrite => spares_request (hform id) hwrite) fault depth shape

theorem spares_writerFunction (s : Scope) : Calls s Spares (writerFunction s) := by
  intro target _
  rw [writerFunction_eq]
  exact spares_within Recipe.sound_writers (fun id => by rintro (h | h) <;> cases h) _ _ _ target

theorem spares_readerFunction (s : Scope) : Calls s Spares (readerFunction s) := by
  intro target _
  rw [readerFunction_eq]
  exact spares_within Recipe.sound_readers (fun id => by rintro (h | h) <;> cases h) _ _ _ target

/-! ### Body functions -/

/-- **A body request finds its function, or writes one that handles the members of the request.** -/
theorem runs_body {r : BodyRequest} {name : String} (h : Runs (r.run s) f name f') :
    (Entries.get? r.key f.known = some name ∧ f' = f) ∨
    (Entries.get? r.key f.known = none ∧ ∃ g middle, g.Is r.key name ∧ r.HandledBy s g ∧
      Spares { f with known := Entries.insert r.key name f.known } middle ∧
      f' = { middle with written := middle.written ++ [g] }) := by
  cases r with
  | writes shape members =>
    rcases runs_request h with hfound | ⟨hnew, rfl, code, middle, hrun, rfl⟩
    · exact .inl hfound
    · have hmoves := moves_structureWriter course_spares (spares_writerFunction s) _ shape members _ _ _ hrun
      exact .inr ⟨hnew, ⟨shape.id, .bodyWriter, _, code⟩, middle, ⟨rfl, rfl, rfl⟩,
        gives_structureWriter ⟨_, _, hrun⟩, hmoves, rfl⟩
  | reads shape members =>
    rcases runs_request h with hfound | ⟨hnew, rfl, code, middle, hrun, rfl⟩
    · exact .inl hfound
    · obtain ⟨loop, last, hloop, hrun⟩ := runs_bind.1 hrun
      obtain ⟨rfl, rfl⟩ := runs_pure.1 hrun
      obtain ⟨arms, rfl, harms⟩ := gives_memberLoop ⟨_, _, hloop⟩
      have hmoves := moves_memberLoop course_spares (spares_readerFunction s) members _ _ _ hloop
      exact .inr ⟨hnew, ⟨shape.id, .bodyReader, _, _⟩, _, ⟨rfl, rfl, rfl⟩, ⟨arms, rfl, harms⟩, hmoves, rfl⟩

/-- The body functions that are known are those of the requests so far, and each handles the members of the first
request for it. -/
structure Settled (s : Scope) (requests : List BodyRequest) (f : Functions) : Prop where
  asked : ∀ r ∈ requests, Entries.get? r.key f.known ≠ none
  handled : ∀ key name, IsBody key → Entries.get? key f.known = some name →
    ∃ first, BodyRequest.first? requests key = some first ∧
      ∃ g ∈ f.written, g.Is key name ∧ first.HandledBy s g

theorem settled_nil (s : Scope) : Settled s [] {} :=
  ⟨fun r hr => by simp at hr, fun key name _ h => by simp at h⟩

theorem first?_append {key : FunctionKey} {first : BodyRequest} (h : BodyRequest.first? requests key = some first)
    (r : BodyRequest) : BodyRequest.first? (requests ++ [r]) key = some first := by
  unfold BodyRequest.first? at h ⊢
  rw [List.find?_append, h, Option.some_or]

theorem first?_new {r : BodyRequest} (h : ∀ q ∈ requests, q.key ≠ r.key) :
    BodyRequest.first? (requests ++ [r]) r.key = some r := by
  have hnone : requests.find? (fun q => decide (q.key = r.key)) = none := by
    rw [List.find?_eq_none]
    intro q hq
    simpa using h q hq
  unfold BodyRequest.first?
  rw [List.find?_append, hnone, Option.none_or]
  simp

/-- **One more request**: it is answered with the name under its key, and what is known is settled again. -/
theorem Settled.step {r : BodyRequest} {name : String} (hs : Settled s requests f) (h : Runs (r.run s) f name f') :
    Settled s (requests ++ [r]) f' ∧ Entries.get? r.key f'.known = some name := by
  rcases runs_body h with ⟨hfound, rfl⟩ | ⟨hnew, g, middle, his, hhandled, hspares, rfl⟩
  · refine ⟨⟨?_, fun key other hkey hother => ?_⟩, hfound⟩
    · intro q hq
      rcases List.mem_append.1 hq with hq | hq
      · exact hs.asked q hq
      · obtain rfl := List.mem_singleton.1 hq
        simp [hfound]
    · obtain ⟨first, hfirst, hwritten⟩ := hs.handled key other hkey hother
      exact ⟨first, first?_append hfirst r, hwritten⟩
  · have hknown : ∀ key, IsBody key →
        Entries.get? key middle.known = if r.key = key then some name else Entries.get? key f.known := by
      intro key hkey
      rw [hspares.known key hkey, Entries.get?_insert]
    have hself : Entries.get? r.key middle.known = some name := by
      rw [hknown r.key r.isBody_key, if_pos rfl]
    refine ⟨⟨?_, fun key other hkey hother => ?_⟩, hself⟩
    · intro q hq
      rcases List.mem_append.1 hq with hq | hq
      · show Entries.get? q.key middle.known ≠ none
        rw [hknown q.key q.isBody_key]
        split
        · simp
        · exact hs.asked q hq
      · obtain rfl := List.mem_singleton.1 hq
        show Entries.get? q.key middle.known ≠ none
        simp [hself]
    · have hmiddle : Entries.get? key middle.known = some other := hother
      rw [hknown key hkey] at hmiddle
      split at hmiddle
      · next heq =>
        -- no request for this function came before
        subst heq
        obtain rfl := Option.some.inj hmiddle
        refine ⟨r, first?_new fun q hq heq => ?_, g, List.mem_append_right _ List.mem_cons_self, his, hhandled⟩
        exact hs.asked q hq (heq ▸ hnew)
      · obtain ⟨first, hfirst, g', hg', his', hhandled'⟩ := hs.handled key other hkey hmiddle
        exact ⟨first, first?_append hfirst r, g', List.mem_append_left _ (hspares.written hg'), his', hhandled'⟩

/-- A request forgets no body function. -/
theorem known_of_body {r : BodyRequest} {name : String} (h : Runs (r.run s) f name f') {key : FunctionKey}
    {other : String} (hkey : IsBody key) (hother : Entries.get? key f.known = some other) :
    Entries.get? key f'.known = some other := by
  rcases runs_body h with ⟨-, rfl⟩ | ⟨hnew, g, middle, -, -, hspares, rfl⟩
  · exact hother
  · have hne : r.key ≠ key := by
      rintro rfl
      rw [hnew] at hother
      cases hother
    show Entries.get? key middle.known = some other
    rw [hspares.known key hkey, Entries.get?_insert, if_neg hne, hother]

/-- **A sequence of requests**, after some that were made before: all stays settled, no body function is forgotten,
and what an answer names is known in the end. -/
theorem Settled.run {more : List BodyRequest} {names : List String} (hs : Settled s requests f)
    (h : Runs (more.mapM (BodyRequest.run s)) f names f') :
    Settled s (requests ++ more) f' ∧
    (∀ key name, IsBody key → Entries.get? key f.known = some name → Entries.get? key f'.known = some name) ∧
    List.Forall₂ (fun r name => Entries.get? r.key f'.known = some name) more names := by
  induction more generalizing requests f names with
  | nil =>
    obtain ⟨rfl, rfl⟩ := runs_pure.1 h
    rw [List.append_nil]
    exact ⟨hs, fun _ _ _ h => h, .nil⟩
  | cons r rest ih =>
    rw [List.mapM_cons] at h
    obtain ⟨name, middle, hfirst, h⟩ := runs_bind.1 h
    obtain ⟨others, last, hrest, h⟩ := runs_bind.1 h
    obtain ⟨rfl, rfl⟩ := runs_pure.1 h
    obtain ⟨hmiddle, hname⟩ := hs.step hfirst
    obtain ⟨hlast, hkept, hothers⟩ := ih hmiddle hrest
    rw [List.append_assoc] at hlast
    refine ⟨hlast, fun key other hkey hother => ?_, .cons (hkept _ _ r.isBody_key hname) hothers⟩
    exact hkept key other hkey (known_of_body hfirst hkey hother)

/-- **A body function handles the members of the first request for it.** So it handles those that it is asked to
handle if all requests for it are the same. -/
theorem bodies_exact {names : List String} (h : Runs (requests.mapM (BodyRequest.run s)) {} names f) :
    List.Forall₂ (fun r name => ∃ g ∈ f.written, g.Is r.key name ∧
      (∃ first, BodyRequest.first? requests r.key = some first ∧ first.HandledBy s g) ∧
      ((∀ q ∈ requests, q.key = r.key → q = r) → r.HandledBy s g)) requests names := by
  obtain ⟨hsettled, -, hnames⟩ := (settled_nil s).run h
  rw [List.nil_append] at hsettled
  refine hnames.imp fun r name hname => ?_
  obtain ⟨first, hfirst, g, hg, his, hhandled⟩ := hsettled.handled r.key name r.isBody_key hname
  refine ⟨g, hg, his, ⟨first, hfirst, hhandled⟩, fun hsame => ?_⟩
  have hkey := List.find?_some hfirst
  obtain rfl : first = r := hsame first (List.mem_of_find?_eq_some hfirst) (by simpa using hkey)
  exact hhandled

/-! ### A structure in two roles -/

theorem keyReader_inj {name : String} {shape : Shape} {arms arms' : List Step}
    (h : keyReader s name shape arms = keyReader s name shape arms') : arms = arms' := by
  simpa [keyReader, keyLoop, block] using h

/-- The body of an event, and then all members of the same structure, as the output of an operation has them. -/
def openedTwice : List BodyRequest := [.reads opened (eventBody opened), .reads opened opened.members]

/-- Both requests are answered with one function. -/
theorem openedTwice_answered :
    ∃ names f, Runs (openedTwice.mapM (BodyRequest.run eventfulScope)) {} names f ∧ f.written.length = 1 := by
  obtain ⟨names, hnames⟩ : ∃ names, (openedTwice.mapM (BodyRequest.run eventfulScope) {}).1 = .ok names :=
    Results.exists_of_isSome (by decide +kernel)
  exact ⟨names, _, Prod.ext hnames rfl, by decide +kernel⟩

theorem openedTwice_handled :
    ∃ names f, Runs (openedTwice.mapM (BodyRequest.run eventfulScope)) {} names f ∧
      ∃ g ∈ f.written, g.form = .bodyReader ∧
        BodyRequest.HandledBy eventfulScope g (.reads opened (eventBody opened)) := by
  obtain ⟨names, f, hrun, -⟩ := openedTwice_answered
  have hall := bodies_exact hrun
  cases hall with
  | cons hfirst _ =>
    obtain ⟨g, hg, his, ⟨first, hfirst, hhandled⟩, -⟩ := hfirst
    obtain rfl : .reads opened (eventBody opened) = first := Option.some.inj hfirst
    exact ⟨_, f, hrun, g, hg, his.form, hhandled⟩

/-- **A function need not handle the members that it is asked to handle.** -/
theorem bodies_clash :
    ¬∀ (s : Scope) (requests : List BodyRequest) (names : List String) (f : Functions),
      Runs (requests.mapM (BodyRequest.run s)) {} names f →
        List.Forall₂ (fun r name => ∃ g ∈ f.written, g.Is r.key name ∧ r.HandledBy s g) requests names := by
  intro hclaim
  obtain ⟨names, f, hrun, hlength⟩ := openedTwice_answered
  have hall := hclaim eventfulScope openedTwice names f hrun
  obtain ⟨only, hwritten⟩ := List.length_eq_one_iff.1 hlength
  cases hall with
  | cons hfirst hrest =>
    cases hrest with
    | cons hsecond _ =>
      obtain ⟨g, hg, -, arms, hcode, harms⟩ := hfirst
      obtain ⟨g', hg', -, arms', hcode', harms'⟩ := hsecond
      rw [hwritten, List.mem_singleton] at hg hg'
      subst hg hg'
      obtain rfl := keyReader_inj (hcode.symm.trans hcode')
      have hlengths := harms.length_eq.trans harms'.length_eq.symm
      simp [eventBody, opened, Shape.members] at hlengths

end WireShapes.Code
