import Mathlib.Data.List.Permutation
import WireShapes.Proofs.Model.Alike
import WireShapes.Proofs.Model.Preparation

/-!
Models from several documents, and the order in which these come.

* `definitions`: the definitions of documents, of which the first of an id is the one that counts
* `Consistent`: definitions of one id are alike; that is what a merge checks
* `get?_lowerAll`: the shape of an id is made of its definition, or is that of the prelude
* `assemble_perm`: in another order, documents make a model again, of shapes that are alike
-/

namespace WireShapes

open Source (RawModel RawShape)

/-- The definitions of documents, in order. -/
def definitions (docs : List RawModel) : List (String × RawShape) := docs.flatMap RawModel.shapes

/-- Definitions of one id are alike. -/
def Consistent (defs : List (String × RawShape)) : Prop :=
  ∀ id s t, (id, s) ∈ defs → (id, t) ∈ defs → s.Alike t

/-- All definitions are sound, as those of documents that were read are. -/
def AllSound (defs : List (String × RawShape)) : Prop := ∀ e ∈ defs, e.2.Sound

/-! ### Merging -/

section Merging

variable {merged after defs : List (String × RawShape)} {e : String × RawShape}

/-- A definition is merged into one that it equals, or is a new one. -/
theorem mergeShape_cases (h : mergeShape merged e = .ok after) :
    (∃ existing, Entries.get? e.1 merged = some existing ∧ after = merged) ∨
      (Entries.get? e.1 merged = none ∧ after = merged ++ [e]) := by
  unfold mergeShape at h
  split at h
  · next existing hexisting =>
    split at h
    · cases h
      exact .inl ⟨existing, hexisting, rfl⟩
    · cases h
  · next hnone =>
    cases h
    exact .inr ⟨hnone, rfl⟩

theorem get?_mergeShape (h : mergeShape merged e = .ok after) (key : String) :
    Entries.get? key after = Entries.get? key (merged ++ [e]) := by
  obtain ⟨id, s⟩ := e
  obtain ⟨existing, hexisting, rfl⟩ | ⟨-, rfl⟩ := mergeShape_cases h
  · rw [Entries.get?_append]
    cases hkey : Entries.get? key after with
    | some _ => rfl
    | none =>
      have hne : id ≠ key := by
        rintro rfl
        rw [hkey] at hexisting
        cases hexisting
      simp [Entries.get?_cons, hne]
  · rfl

theorem get?_mergeShape_append (h : mergeShape merged e = .ok after) (key : String) (rest : List (String × RawShape)) :
    Entries.get? key (after ++ rest) = Entries.get? key (merged ++ e :: rest) := by
  rw [Entries.get?_append, get?_mergeShape h, ← Entries.get?_append, List.append_assoc]
  rfl

theorem distinct_mergeShape (hd : (merged.map Prod.fst).Nodup) (h : mergeShape merged e = .ok after) :
    (after.map Prod.fst).Nodup := by
  obtain ⟨-, -, rfl⟩ | ⟨hnone, rfl⟩ := mergeShape_cases h
  · exact hd
  · rw [List.map_append, List.map_singleton, ← List.concat_eq_append]
    exact List.Nodup.concat (Entries.get?_eq_none_iff.1 hnone) hd

theorem sound_mergeShape (hmerged : AllSound merged) (he : e.2.Sound) (h : mergeShape merged e = .ok after) :
    AllSound after := by
  obtain ⟨-, -, rfl⟩ | ⟨-, rfl⟩ := mergeShape_cases h
  · exact hmerged
  · exact List.forall_mem_append.2 ⟨hmerged, List.forall_mem_singleton.2 he⟩

/-- A definition is merged if it is alike the first of its id, which may be itself. -/
theorem mergeShape_ok_iff (hmerged : AllSound merged) (he : e.2.Sound) :
    (∃ after, mergeShape merged e = .ok after) ↔
      ∀ first, Entries.get? e.1 (merged ++ [e]) = some first → first.Alike e.2 := by
  obtain ⟨id, s⟩ := e
  rw [Entries.get?_append]
  unfold mergeShape
  cases hfound : Entries.get? id merged with
  | none => simpa [Entries.get?_cons] using RawShape.Alike.refl he
  | some existing =>
    have hsame := RawShape.same_iff (hmerged _ (Entries.mem_of_get? hfound)) he
    by_cases hok : existing.same s = true
    · simpa [hok] using hsame.1 hok
    · simpa [hok] using mt hsame.2 hok

theorem get?_mergeAll (h : defs.foldlM mergeShape merged = .ok after) (key : String) :
    Entries.get? key after = Entries.get? key (merged ++ defs) := by
  induction defs generalizing merged with
  | nil =>
    cases h
    rw [List.append_nil]
  | cons e rest ih =>
    rw [List.foldlM_cons] at h
    obtain ⟨middle, hfirst, hrest⟩ := Results.bind_eq_ok_iff.1 h
    rw [ih hrest, get?_mergeShape_append hfirst]

/-- **Definitions are merged** if each is alike the first of its id. -/
theorem mergeAll_ok_iff (hmerged : AllSound merged) (hdefs : AllSound defs) :
    (∃ after, defs.foldlM mergeShape merged = .ok after) ↔
      ∀ e ∈ defs, ∀ first, Entries.get? e.1 (merged ++ defs) = some first → first.Alike e.2 := by
  induction defs generalizing merged with
  | nil => exact ⟨fun _ e he => (nomatch he), fun _ => ⟨merged, rfl⟩⟩
  | cons e rest ih =>
    obtain ⟨he, hrest⟩ := List.forall_mem_cons.1 hdefs
    obtain ⟨id, s⟩ := e
    have hhead : Entries.get? id (merged ++ (id, s) :: rest) = Entries.get? id (merged ++ [(id, s)]) := by
      rw [Entries.get?_append, Entries.get?_append, Entries.get?_cons, Entries.get?_cons, if_pos rfl, if_pos rfl]
    rw [List.forall_mem_cons, List.foldlM_cons]
    constructor
    · rintro ⟨after, h⟩
      obtain ⟨middle, hfirst, hafter⟩ := Results.bind_eq_ok_iff.1 h
      refine ⟨fun first hfound => ?_, fun f hf first hfound => ?_⟩
      · exact (mergeShape_ok_iff hmerged he).1 ⟨middle, hfirst⟩ first (hhead ▸ hfound)
      · rw [← get?_mergeShape_append hfirst] at hfound
        exact (ih (sound_mergeShape hmerged he hfirst) hrest).1 ⟨after, hafter⟩ f hf first hfound
    · rintro ⟨hself, hothers⟩
      obtain ⟨middle, hfirst⟩ := (mergeShape_ok_iff hmerged he).2 fun first h => hself first (hhead.trans h)
      rw [hfirst, Results.ok_bind]
      refine (ih (sound_mergeShape hmerged he hfirst) hrest).2 fun f hf first hfound => ?_
      rw [get?_mergeShape_append hfirst] at hfound
      exact hothers f hf first hfound

end Merging

theorem get?_mergeDocuments {docs : List RawModel} {merged : List (String × RawShape)}
    (h : mergeDocuments docs = .ok merged) (key : String) :
    Entries.get? key merged = Entries.get? key (definitions docs) :=
  get?_mergeAll h key

theorem distinct_mergeDocuments {docs : List RawModel} {merged : List (String × RawShape)}
    (h : mergeDocuments docs = .ok merged) : (merged.map Prod.fst).Nodup :=
  Results.invariant_foldlM (P := fun merged => (merged.map Prod.fst).Nodup)
    (fun _ _ _ _ hd hstep => distinct_mergeShape hd hstep) List.nodup_nil h

/-- **Documents are merged** if their definitions of one id are alike, whatever the order. -/
theorem mergeDocuments_ok_iff {docs : List RawModel} (hdocs : AllSound (definitions docs)) :
    (∃ merged, mergeDocuments docs = .ok merged) ↔ Consistent (definitions docs) := by
  have hmerge := @mergeAll_ok_iff [] _ (fun e he => nomatch he) hdocs
  refine hmerge.trans ⟨fun h id s t hs ht => ?_, fun h e he first hfound => ?_⟩
  · cases hfirst : Entries.get? id (definitions docs) with
    | none => exact (Entries.get?_eq_none_iff.1 hfirst (List.mem_map.2 ⟨(id, s), hs, rfl⟩)).elim
    | some first => exact (h (id, s) hs first hfirst).symm.trans (h (id, t) ht first hfirst)
  · exact h e.1 first e.2 (Entries.mem_of_get? hfound) he

/-! ### Shapes -/

/-- The shape of an id: that which its definition makes, or else that of a model that is there before. -/
def shapeOf (base : Model) (definition : Option RawShape) (id : ShapeId) : Option Shape :=
  match definition.map (lowerShape id.text) with
  | some (.ok (some shape)) => some shape
  | _ => base.get? id

theorem id_of_lowerShape {id : String} {raw : RawShape} {shape : Shape} (h : lowerShape id raw = .ok (some shape)) :
    shape.id = ⟨id⟩ := by
  obtain ⟨traits, -, h⟩ := Results.bind_eq_ok_iff.1 h
  obtain ⟨kind, -, h⟩ := Results.bind_eq_ok_iff.1 h
  obtain ⟨k, -, rfl⟩ := Option.map_eq_some_iff.1 (Except.ok.inj h)
  rfl

theorem shapeOf_congr {base base' : Model} {id : ShapeId} (h : base.get? id = base'.get? id)
    (definition : Option RawShape) : shapeOf base definition id = shapeOf base' definition id := by
  unfold shapeOf
  rw [h]

/-- What a definition makes is put into the model under its id, if it makes anything. -/
theorem get?_insert_lowered {base m : Model} {key : String} {raw : RawShape} {made : Option Shape}
    (hmade : lowerShape key raw = .ok made) (hm : m = (made.map base.insert).getD base) (id : ShapeId) :
    m.get? id = if key = id.text then shapeOf base (some raw) id else base.get? id := by
  subst hm
  cases made with
  | none =>
    split
    · next hkey => simp [shapeOf, ← hkey, hmade]
    · rfl
  | some shape =>
    have hid : shape.id = ⟨key⟩ := id_of_lowerShape hmade
    rw [Option.map_some, Option.getD_some, Model.get?_insert, hid]
    by_cases hkey : key = id.text
    · subst hkey
      simp [shapeOf, hmade]
    · have hne : (⟨key⟩ : ShapeId) ≠ id := fun h => hkey (congrArg ShapeId.text h)
      rw [if_neg hne, if_neg hkey]

theorem get?_lowerAll {raw : List (String × RawShape)} (hraw : (raw.map Prod.fst).Nodup) {m : Model}
    (h : lowerAll raw = .ok m) (id : ShapeId) :
    m.get? id = shapeOf ⟨preludeShapes⟩ (Entries.get? id.text raw) id := by
  unfold lowerAll at h
  generalize (⟨preludeShapes⟩ : Model) = base at h ⊢
  induction raw generalizing base with
  | nil =>
    cases h
    rfl
  | cons e rest ih =>
    obtain ⟨key, raw⟩ := e
    rw [List.map_cons, List.nodup_cons] at hraw
    rw [List.foldlM_cons] at h
    obtain ⟨middle, hfirst, hrest⟩ := Results.bind_eq_ok_iff.1 h
    obtain ⟨made, hmade, hinsert⟩ := Results.bind_eq_ok_iff.1 hfirst
    have hmiddle : middle = (made.map base.insert).getD base := by
      cases made <;> exact (Except.ok.inj hinsert).symm
    have hget := get?_insert_lowered hmade hmiddle id
    rw [ih hraw.2 middle hrest, Entries.get?_cons]
    by_cases hkey : key = id.text
    · rw [if_pos hkey, ← hkey, Entries.get?_eq_none_iff.2 hraw.1]
      rw [if_pos hkey] at hget
      exact hget
    · rw [if_neg hkey] at hget
      rw [if_neg hkey]
      exact shapeOf_congr hget _

theorem lowerAll_ok_iff {raw : List (String × RawShape)} :
    (∃ m, lowerAll raw = .ok m) ↔ ∀ e ∈ raw, ∃ made, lowerShape e.1 e.2 = .ok made := by
  unfold lowerAll
  refine Results.foldlM_ok_iff fun e _ m => ⟨?_, ?_⟩
  · rintro ⟨m', h⟩
    obtain ⟨made, hmade, -⟩ := Results.bind_eq_ok_iff.1 h
    exact ⟨made, hmade⟩
  · rintro ⟨made, hmade⟩
    rw [hmade, Results.ok_bind]
    cases made with
    | some shape => exact ⟨_, rfl⟩
    | none => exact ⟨_, rfl⟩

/-! ### Models -/

section Models

variable {docs docs' : List RawModel} {m : Model}

/-- **The shape of an id** is made of its first definition. -/
theorem get?_assemble (h : assemble docs = .ok m) (id : ShapeId) :
    m.get? id = shapeOf ⟨preludeShapes⟩ (Entries.get? id.text (definitions docs)) id := by
  obtain ⟨merged, hmerge, hlower, -⟩ := Model.assemble_eq_ok_iff.1 h
  rw [get?_lowerAll (distinct_mergeDocuments hmerge) hlower, get?_mergeDocuments hmerge]

theorem allSound_of_parse (h : ∀ d ∈ docs, ∃ source, parseDocument source = .ok d) : AllSound (definitions docs) := by
  intro e he
  obtain ⟨d, hd, he⟩ := List.mem_flatMap.1 he
  obtain ⟨source, hparse⟩ := h d hd
  suffices hdecode : Source.decode Source.model source.text = .ok d from (Source.sound_of_decode hdecode).each e he
  unfold parseDocument at hparse
  split at hparse
  · cases hparse
  · next hdecode =>
    rw [hdecode]
    split at hparse
    · exact congrArg _ (Except.ok.inj hparse)
    · exact congrArg _ (Except.ok.inj hparse)
    · cases hparse

theorem Consistent.of_perm {defs defs' : List (String × RawShape)} (h : Consistent defs) (hperm : defs.Perm defs') :
    Consistent defs' :=
  fun id s t hs ht => h id s t (hperm.mem_iff.2 hs) (hperm.mem_iff.2 ht)

/-- The first definitions of an id in two orders are alike. -/
theorem Consistent.get?_of_perm {defs defs' : List (String × RawShape)} (h : Consistent defs)
    (hperm : defs.Perm defs') (key : String) :
    Option.Rel RawShape.Alike (Entries.get? key defs) (Entries.get? key defs') := by
  cases hs : Entries.get? key defs with
  | none =>
    have hnone : Entries.get? key defs' = none := by
      rw [Entries.get?_eq_none_iff] at hs ⊢
      exact fun hkey => hs ((hperm.map Prod.fst).mem_iff.2 hkey)
    rw [hnone]
    exact .none
  | some s =>
    cases ht : Entries.get? key defs' with
    | none =>
      have hkey := (hperm.map Prod.fst).mem_iff.1 (List.mem_map.2 ⟨_, Entries.mem_of_get? hs, rfl⟩)
      exact (Entries.get?_eq_none_iff.1 ht hkey).elim
    | some t => exact .some (h key s t (Entries.mem_of_get? hs) (hperm.mem_iff.2 (Entries.mem_of_get? ht)))

theorem shapeOf_alike {x y : Option RawShape} (h : Option.Rel RawShape.Alike x y) (id : ShapeId) :
    Option.Rel Shape.Alike (shapeOf ⟨preludeShapes⟩ x id) (shapeOf ⟨preludeShapes⟩ y id) := by
  have hprelude : Option.Rel Shape.Alike ((⟨preludeShapes⟩ : Model).get? id) ((⟨preludeShapes⟩ : Model).get? id) :=
    Source.rel_refl fun s hs => prelude_alike s (Model.mem_of_get? hs)
  cases h with
  | none => exact hprelude
  | @some s t hst =>
    have hmade := lowerShape_agree id.text hst
    unfold shapeOf
    simp only [Option.map_some]
    generalize lowerShape id.text s = made at hmade
    generalize lowerShape id.text t = made' at hmade
    cases hmade with
    | error => exact hprelude
    | ok hmade =>
      cases hmade with
      | none => exact hprelude
      | some hmade => exact .some hmade

/-- Shapes are made of the merged definitions if they are made of all. -/
theorem lowerAll_merged_iff {merged : List (String × RawShape)} (hmerge : mergeDocuments docs = .ok merged)
    (hdefs : Consistent (definitions docs)) :
    (∃ m, lowerAll merged = .ok m) ↔ ∀ e ∈ definitions docs, ∃ made, lowerShape e.1 e.2 = .ok made := by
  rw [lowerAll_ok_iff]
  constructor
  · intro h e he
    cases hfirst : Entries.get? e.1 (definitions docs) with
    | none => exact (Entries.get?_eq_none_iff.1 hfirst (List.mem_map.2 ⟨e, he, rfl⟩)).elim
    | some first =>
      have hmerged : (e.1, first) ∈ merged :=
        Entries.mem_of_get? ((get?_mergeDocuments hmerge e.1).trans hfirst)
      have halike := hdefs e.1 first e.2 (Entries.mem_of_get? hfirst) he
      exact (lowerShape_agree e.1 halike).ok_iff.1 (h _ hmerged)
  · intro h e he
    have hfound := Entries.get?_of_mem (distinct_mergeDocuments hmerge) he
    rw [get?_mergeDocuments hmerge] at hfound
    exact h e (Entries.mem_of_get? hfound)

/-- A model whose shapes are alike those of another refers to nothing that is missing if that does not. -/
theorem Model.Closed.of_alike {m' : Model} (hm : m.Closed) (hdistinct : m'.Distinct)
    (halike : ∀ id, Option.Rel Shape.Alike (m.get? id) (m'.get? id)) : m'.Closed := by
  have hcontains (m : Model) (id : ShapeId) : m.contains id = (m.get? id).isSome := (List.isSome_find? ..).symm
  intro t ht r hr
  have hshape := halike t.id
  rw [Model.get?_of_mem hdistinct ht] at hshape
  generalize hs : m.get? t.id = found at hshape
  cases hshape with
  | @some s _ hst =>
    have htarget := hm s (Model.mem_of_get? hs) r (hst.references hr)
    have hboth := halike r.2
    rw [hcontains] at htarget ⊢
    generalize m.get? r.2 = x at htarget hboth
    generalize m'.get? r.2 = y at hboth ⊢
    cases hboth with
    | none => exact htarget
    | some => rfl

/-- **In another order,** documents that make a model make one again. -/
theorem assemble_of_perm (hdocs : ∀ d ∈ docs, ∃ source, parseDocument source = .ok d) (hperm : docs.Perm docs')
    (h : assemble docs = .ok m) :
    ∃ m', assemble docs' = .ok m' ∧ ∀ id, Option.Rel Shape.Alike (m.get? id) (m'.get? id) := by
  obtain ⟨merged, hmerge, hlower, hclosed⟩ := Model.assemble_eq_ok_iff.1 h
  have hdefs : (definitions docs).Perm (definitions docs') := hperm.flatMap_right _
  have hsound := allSound_of_parse hdocs
  have hsound' : AllSound (definitions docs') := fun e he => hsound e (hdefs.mem_iff.2 he)
  have hconsistent := (mergeDocuments_ok_iff hsound).1 ⟨merged, hmerge⟩
  obtain ⟨merged', hmerge'⟩ := (mergeDocuments_ok_iff hsound').2 (hconsistent.of_perm hdefs)
  have hlowered := (lowerAll_merged_iff hmerge hconsistent).1 ⟨m, hlower⟩
  obtain ⟨m', hlower'⟩ := (lowerAll_merged_iff hmerge' (hconsistent.of_perm hdefs)).2
    fun e he => hlowered e (hdefs.mem_iff.2 he)
  have halike : ∀ id, Option.Rel Shape.Alike (m.get? id) (m'.get? id) := by
    intro id
    rw [get?_assemble h, get?_lowerAll (distinct_mergeDocuments hmerge') hlower', get?_mergeDocuments hmerge']
    exact shapeOf_alike (hconsistent.get?_of_perm hdefs id.text) id
  exact ⟨m', Model.assemble_eq_ok_iff.2 ⟨merged', hmerge', hlower', hclosed.of_alike (distinct_lowerAll hlower') halike⟩, halike⟩

/-- **The order of documents** decides neither whether there is a model nor what its shapes are, up to the
order of members and traits. A shape whose definitions are equal does not depend on it at all. -/
theorem assemble_perm (hdocs : ∀ d ∈ docs, ∃ source, parseDocument source = .ok d) (hperm : docs.Perm docs') :
    ((∃ m, assemble docs = .ok m) ↔ ∃ m', assemble docs' = .ok m') ∧
      ∀ m m', assemble docs = .ok m → assemble docs' = .ok m' →
        Consistent (definitions docs) ∧
          ∀ id, Option.Rel Shape.Alike (m.get? id) (m'.get? id) ∧
            ((∀ s t, (id.text, s) ∈ definitions docs → (id.text, t) ∈ definitions docs → s = t) →
              m.get? id = m'.get? id) := by
  have hdocs' : ∀ d ∈ docs', ∃ source, parseDocument source = .ok d := fun d hd => hdocs d (hperm.mem_iff.2 hd)
  have hdefs : (definitions docs).Perm (definitions docs') := hperm.flatMap_right _
  refine ⟨⟨?_, ?_⟩, fun m m' h h' => ?_⟩
  · rintro ⟨m, h⟩
    obtain ⟨m', h', -⟩ := assemble_of_perm hdocs hperm h
    exact ⟨m', h'⟩
  · rintro ⟨m', h'⟩
    obtain ⟨m, h, -⟩ := assemble_of_perm hdocs' hperm.symm h'
    exact ⟨m, h⟩
  · obtain ⟨merged, hmerge, -⟩ := Model.assemble_eq_ok_iff.1 h
    have hconsistent := (mergeDocuments_ok_iff (allSound_of_parse hdocs)).1 ⟨merged, hmerge⟩
    refine ⟨hconsistent, fun id => ⟨?_, fun hequal => ?_⟩⟩
    · obtain ⟨other, hother, halike⟩ := assemble_of_perm hdocs hperm h
      obtain rfl : other = m' := Except.ok.inj (hother.symm.trans h')
      exact halike id
    · rw [get?_assemble h, get?_assemble h']
      have hfirst := hconsistent.get?_of_perm hdefs id.text
      generalize hs : Entries.get? id.text (definitions docs) = x at hfirst
      generalize ht : Entries.get? id.text (definitions docs') = y at hfirst
      cases hfirst with
      | none => rfl
      | @some s t _ => rw [hequal s t (Entries.mem_of_get? hs) (hdefs.mem_iff.2 (Entries.mem_of_get? ht))]

end Models

/-! ### Two documents -/

/-- The text of a document with a structure of two members. -/
def pairSource (first second : String) : SourceText :=
  ⟨"pair.json",
    "\x7b\"smithy\":\"2.0\",\"shapes\":\x7b\"t#Pair\":\x7b\"type\":\"structure\",\"members\":\x7b\"" ++ first
      ++ "\":\x7b\"target\":\"smithy.api#String\"\x7d,\"" ++ second
      ++ "\":\x7b\"target\":\"smithy.api#String\"\x7d\x7d\x7d\x7d\x7d"⟩

def pairDocument (first second : String) : RawModel :=
  ⟨"2.0",
    [("t#Pair",
      { type := "structure"
        members := [(first, ⟨"smithy.api#String", []⟩), (second, ⟨"smithy.api#String", []⟩)]
        member := none
        key := none
        value := none
        input := none
        output := none
        errors := []
        operations := []
        version := none
        traits := [] })]⟩

theorem parse_pair : parseDocument (pairSource "x" "y") = .ok (pairDocument "x" "y") := by cbv

theorem parse_swapped : parseDocument (pairSource "y" "x") = .ok (pairDocument "y" "x") := by cbv

theorem pairs_accepted : ∀ d ∈ [pairDocument "x" "y", pairDocument "y" "x"], ∃ source, parseDocument source = .ok d := by
  intro d hd
  simp only [List.mem_cons, List.not_mem_nil, or_false] at hd
  rcases hd with rfl | rfl
  · exact ⟨_, parse_pair⟩
  · exact ⟨_, parse_swapped⟩

/-- Both orders make a model, and their pairs are alike. -/
theorem pairs_assembled :
    (∃ m', assemble [pairDocument "y" "x", pairDocument "x" "y"] = .ok m') ∧
      ∀ m m', assemble [pairDocument "x" "y", pairDocument "y" "x"] = .ok m →
        assemble [pairDocument "y" "x", pairDocument "x" "y"] = .ok m' →
          Option.Rel Shape.Alike (m.get? ⟨"t#Pair"⟩) (m'.get? ⟨"t#Pair"⟩) ∧
            m.get? ⟨"smithy.api#String"⟩ = m'.get? ⟨"smithy.api#String"⟩ := by
  have hmade : ∃ m, assemble [pairDocument "x" "y", pairDocument "y" "x"] = .ok m :=
    Results.exists_of_isSome (by decide +kernel)
  obtain ⟨hiff, hshapes⟩ := assemble_perm pairs_accepted (List.Perm.swap (pairDocument "y" "x") (pairDocument "x" "y") [])
  refine ⟨hiff.1 hmade, fun m m' h h' => ?_⟩
  obtain ⟨-, hshapes⟩ := hshapes m m' h h'
  refine ⟨(hshapes _).1, (hshapes _).2 fun s t hs _ => ?_⟩
  simp [definitions, pairDocument] at hs

/-- **The order of documents decides the order of members:** it is that of the first definition. -/
theorem pairs_differ :
    ¬ ∀ docs docs' : List RawModel, (∀ d ∈ docs, ∃ source, parseDocument source = .ok d) → docs.Perm docs' →
      ∀ m m', assemble docs = .ok m → assemble docs' = .ok m' → ∀ id, m.get? id = m'.get? id := by
  intro h
  obtain ⟨m, hm⟩ : ∃ m, assemble [pairDocument "x" "y", pairDocument "y" "x"] = .ok m :=
    Results.exists_of_isSome (by decide +kernel)
  obtain ⟨m', hm'⟩ : ∃ m', assemble [pairDocument "y" "x", pairDocument "x" "y"] = .ok m' :=
    Results.exists_of_isSome (by decide +kernel)
  have hsame := h _ _ pairs_accepted (List.Perm.swap _ _ _) m m' hm hm' ⟨"t#Pair"⟩
  rw [get?_assemble hm, get?_assemble hm'] at hsame
  have hnames := congrArg (Option.map fun s => s.members.map Member.name) hsame
  revert hnames
  decide +kernel

end WireShapes
