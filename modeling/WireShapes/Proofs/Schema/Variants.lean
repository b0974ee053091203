import WireShapes.Proofs.Schema.Contents

/-!
Which variant of a union is read.

* `recognized ms entries`: the entries whose key denotes the name of a member
* `given ms entries`: those of them whose value is not `null`
* `Chosen`, `found_iff`: a variant is found where one such entry alone is given, and none where there is none
* `ReadsAs.builds`: what a client reads, it can build
* `read_eq_ok_iff`: what is read of tokens is what is read of the value that they spell
* `readsAs_sole`, `not_readsAs_mixed`, `readsAs_nothing_iff`: what is read of a union in which one member is
  given, more than one and none
-/

namespace WireShapes.Schema

open Json Reader

variable {ν : Type} {S : Schema ν} {F : Flavour}

/-! ### What is recognized -/

/-- The entries whose key denotes the name of a member, with that name. -/
def recognized (ms : List (Member ν)) (entries : List (String × Tree)) : List (String × Tree) :=
  entries.filterMap fun e =>
    match unescape e.1 with
    | .ok key => if (memberOf? ms key).isSome then some (key, e.2) else none
    | .error _ => none

/-- A value that is not `null`. -/
def isPresent : Tree → Bool
  | .null => false
  | _ => true

/-- The entries that give a member a value. -/
def given (ms : List (Member ν)) (entries : List (String × Tree)) : List (String × Tree) :=
  (recognized ms entries).filter fun e => isPresent e.2

theorem isPresent_iff {u : Tree} : isPresent u = true ↔ u ≠ .null := by
  cases u <;> simp [isPresent]

section Recognized

variable {ms : List (Member ν)} {raw name : String} {u : Tree} {entries : List (String × Tree)}

theorem recognized_known {m : Member ν} (key : unescape raw = .ok name)
    (member : memberOf? ms name = some m) :
    recognized ms ((raw, u) :: entries) = (name, u) :: recognized ms entries := by
  simp [recognized, key, member]

theorem recognized_unknown (key : unescape raw = .ok name) (member : memberOf? ms name = none) :
    recognized ms ((raw, u) :: entries) = recognized ms entries := by
  simp [recognized, key, member]

/-- An entry is recognized or passed over. -/
theorem recognized_cons (ms : List (Member ν)) (raw : String) (u : Tree) (entries : List (String × Tree)) :
    recognized ms ((raw, u) :: entries) = recognized ms entries ∨
      ∃ name, recognized ms ((raw, u) :: entries) = (name, u) :: recognized ms entries := by
  rw [recognized, List.filterMap_cons]
  split
  · exact .inl rfl
  · next heq =>
    split at heq
    · split at heq
      · exact .inr ⟨_, by rw [← Option.some.inj heq, recognized]⟩
      · cases heq
    · cases heq

theorem given_null : given ms ((raw, .null) :: entries) = given ms entries := by
  unfold given
  obtain heq | ⟨name, heq⟩ := recognized_cons ms raw .null entries <;> rw [heq]
  exact List.filter_cons_of_neg (by simp [isPresent])

theorem given_known {m : Member ν} (present : u ≠ .null) (key : unescape raw = .ok name)
    (member : memberOf? ms name = some m) :
    given ms ((raw, u) :: entries) = (name, u) :: given ms entries := by
  rw [given, recognized_known key member]
  exact List.filter_cons_of_pos (isPresent_iff.2 present)

theorem given_unknown (key : unescape raw = .ok name) (member : memberOf? ms name = none) :
    given ms ((raw, u) :: entries) = given ms entries := by
  rw [given, recognized_unknown key member, given]

theorem given_append (ms : List (Member ν)) (entries more : List (String × Tree)) :
    given ms (entries ++ more) = given ms entries ++ given ms more := by
  rw [given, recognized, List.filterMap_append, List.filter_append]
  rfl

theorem mem_given {e : String × Tree} : e ∈ given ms entries ↔ e ∈ recognized ms entries ∧ e.2 ≠ .null := by
  rw [given, List.mem_filter, isPresent_iff]

theorem given_eq_nil_iff : given ms entries = [] ↔ ∀ e ∈ recognized ms entries, e.2 = .null := by
  simp only [List.eq_nil_iff_forall_not_mem, mem_given, not_and, not_not]

end Recognized

/-! ### Unions -/

section Unions

variable {ms : List (Member ν)} {entries : List (String × Tree)} {found result : Option (String × Draft)}

/-- What is found after the entries of a union: what was in hand if no member is given, and a variant if
nothing was in hand and one member is given, once. -/
inductive Chosen (S : Schema ν) (F : Flavour) (ms : List (Member ν)) :
    Option (String × Draft) → List (String × Tree) → Option (String × Draft) → Prop
  | idle {found : Option (String × Draft)} : Chosen S F ms found [] found
  | sole {m : Member ν} {u : Tree} {d : Draft} (member : memberOf? ms m.name = some m)
      (value : ReadsAs S F m.target u (some d)) : Chosen S F ms none [(m.name, u)] (some (m.name, d))

theorem Found.chosen (h : Found S F ms found entries result) : Chosen S F ms found (given ms entries) result := by
  induction h with
  | nil => exact .idle
  | null _ ih =>
    rw [given_null]
    exact ih
  | known present key member value _ ih =>
    rw [given_known present key member]
    obtain ⟨-, rfl⟩ := memberOf?_eq_some member
    -- with a variant in hand no other member may be given
    generalize given ms _ = rest at ih ⊢
    cases ih with
    | idle => exact .sole member value
  | unknown _ key member _ ih =>
    rw [given_unknown key member]
    exact ih

theorem found_of_chosen (keys : ∀ e ∈ entries, ∃ key, unescape e.1 = .ok key)
    (h : Chosen S F ms found (given ms entries) result) : Found S F ms found entries result := by
  induction entries generalizing found with
  | nil =>
    cases h with
    | idle => exact .nil
  | cons e entries ih =>
    obtain ⟨raw, u⟩ := e
    obtain ⟨⟨name, key⟩, hkeys⟩ := List.forall_mem_cons.1 keys
    by_cases present : u = .null
    · subst present
      rw [given_null] at h
      exact .null (ih hkeys h)
    cases member : memberOf? ms name with
    | none =>
      rw [given_unknown key member] at h
      exact .unknown present key member (ih hkeys h)
    | some m =>
      rw [given_known present key member] at h
      generalize hrest : given ms entries = rest at h ih
      cases h with
      | sole member' value =>
        obtain rfl := Option.some.inj (member.symm.trans member')
        exact .known present key member value (ih hkeys .idle)

/-- **A variant is found where one member is given, once, and nothing where none is.** -/
theorem found_iff (keys : ∀ e ∈ entries, ∃ key, unescape e.1 = .ok key) :
    Found S F ms found entries result ↔ Chosen S F ms found (given ms entries) result :=
  ⟨Found.chosen, found_of_chosen keys⟩

end Unions

/-! ### What a client can build -/

theorem exists_checkText (n : ν) (s : String) : ∃ v, S.checkText .client n s = .ok v := by
  unfold checkText
  split <;> exact ⟨_, rfl⟩

theorem exists_checkInteger (n : ν) (k : Int) : ∃ v, S.checkInteger .client n k = .ok v := by
  unfold checkInteger
  split <;> exact ⟨_, rfl⟩

theorem built_of_finish {n : ν} {d x : Draft} (h : (S.finish .client n d).Reads [] x) :
    ∃ v, S.build .client n d = .ok v ∧ x = .built v := by
  have hrun := h [] [] rfl
  unfold finish at hrun
  cases hbuild : S.build .client n d with
  | ok v =>
    rw [hbuild] at hrun
    cases hrun
    exact ⟨v, rfl, rfl⟩
  | error e =>
    rw [hbuild] at hrun
    cases hrun

theorem buildItems_client {item n : ν} (hitem : S.item n = item) {items : List Tree} {ds : List Draft}
    (each : ∀ u ∈ items, ∀ d, ReadsAs S .client item u (some d) → ∃ v, S.build .client item d = .ok v)
    (h : Listed S .client item items ds) (index : Nat) :
    ∃ vs, S.buildItems .client n index ds = .ok vs := by
  induction h generalizing index with
  | nil => exact ⟨[], by rw [buildItems]⟩
  | @cons u items o ds value absent _ ih =>
    rw [List.forall_mem_cons] at each
    cases o with
    | none => exact ih each.2 index
    | some d =>
      obtain ⟨v, hv⟩ := each.1 d value
      obtain ⟨vs, hvs⟩ := ih each.2 (index + 1)
      exact ⟨v :: vs, by rw [keepItem, buildItems, hitem, hv, hvs]; rfl⟩

theorem exists_of_simple {α : Type} {n : ν} {r : Reader (Option α)} {f : α → Draft}
    (reader : ∀ rounds, S.readAt F (rounds + 1) n = do return (← r).map f) {t : Tree} {d : Draft}
    (h : ReadsAs S F n t (some d)) : ∃ a, d = f a := by
  obtain ⟨rounds, toks, -, hread⟩ := h.run
  cases rounds with
  | zero => rw [readAt] at hread; cases hread
  | succ rounds =>
    rw [reader] at hread
    obtain ⟨o, more, -, hend⟩ := bind_eq_ok hread
    cases o with
    | none => cases hend
    | some a =>
      cases hend
      exact ⟨a, rfl⟩

/-- **What a client reads, it can build.** -/
theorem ReadsAs.builds {P : ν → Prop} (hP : DocumentClass S P) {n : ν} (hn : P n) {t : Tree} {d : Draft}
    (h : ReadsAs S .client n t (some d)) : ∃ v, S.build .client n d = .ok v := by
  induction t using Tree.induct generalizing n d with
  | step t ih =>
    cases shape : S.shape n with
    | text rule =>
      obtain ⟨s, rfl⟩ := exists_of_simple (fun rounds => by rw [readAt, shape]) h
      rw [build]
      exact exists_checkText n s
    | enumeration constants =>
      obtain ⟨s, rfl⟩ := exists_of_simple (fun rounds => by rw [readAt, shape]) h
      rw [build]
      exact exists_checkText n s
    | integer range =>
      obtain ⟨k, rfl⟩ := exists_of_simple (fun rounds => by rw [readAt, shape]) h
      rw [build]
      exact exists_checkInteger n k
    | boolean =>
      obtain ⟨b, rfl⟩ := exists_of_simple (fun rounds => by rw [readAt, shape]) h
      exact ⟨.boolean b, by rw [build]⟩
    | blob => exact absurd shape (hP.solid n hn).1
    | stream => exact absurd shape (hP.solid n hn).2
    | list item =>
      obtain ⟨-, hnone⟩ | ⟨items, ds, rfl, hd, hlisted⟩ := h.listed hP hn shape
      · cases hnone
      · cases hd
        obtain ⟨vs, hvs⟩ := buildItems_client (item_of_list shape)
          (fun u hu d hd => ih u hu (hP.item n item hn shape) hd) hlisted 0
        exact ⟨.list vs, by rw [build, hvs]; rfl⟩
    | struct ms =>
      obtain ⟨-, hnone⟩ | ⟨entries, all, x, -, hx, -, hfinish⟩ := h.filled hP hn shape
      · cases hnone
      · cases hx
        obtain ⟨v, -, rfl⟩ := built_of_finish hfinish
        exact ⟨v, by rw [build]⟩
    | union ms =>
      obtain ⟨-, hnone⟩ | ⟨entries, found, x, -, hx, -, hfinish⟩ := h.found hP hn shape
      · cases hnone
      · cases hx
        cases found with
        | none =>
          cases hfinish [] [] rfl
          exact ⟨.unknown, by rw [build]⟩
        | some y =>
          obtain ⟨v, -, rfl⟩ := built_of_finish hfinish
          exact ⟨v, by rw [build]⟩

/-! ### What is read of a union -/

/-- The draft of a union that has a variant. A client has it built. -/
def IsVariant (S : Schema ν) (F : Flavour) (m : Member ν) (d x : Draft) : Prop :=
  match F with
  | .client => ∃ v, S.build .client m.target d = .ok v ∧ x = .built (.variant m.name v)
  | _ => x = .variant m.name d

section Reading

variable {P : ν → Prop} (hP : DocumentClass S P) {n : ν} (hn : P n)

include hP hn

/-- What is read of tokens is what is read of the value that they spell. -/
theorem read_eq_ok_iff {t : Tree} {toks : List Token} (htoks : toks.map Token.lexeme = t.lexemes)
    {after rest : Tokens} {o : Option Draft} :
    S.read F n (toks.map .ok ++ after) = (.ok o, rest) ↔ rest = after ∧ ReadsAs S F n t o := by
  constructor
  · intro hread
    obtain rfl := rest_of_readAt (hP.solid n hn).2 htoks hread
    exact ⟨rfl, settles hP t hn _ toks rest o htoks hread⟩
  · rintro ⟨rfl, h⟩
    exact Reads.rounds (fun rounds hrounds => h rounds (by omega)) toks rest htoks

theorem read_eq_error {t : Tree} {toks : List Token} (htoks : toks.map Token.lexeme = t.lexemes)
    (refused : ∀ o, ¬ReadsAs S F n t o) (after : Tokens) :
    ∃ e, (S.read F n (toks.map .ok ++ after)).1 = .error e := by
  rcases hresult : S.read F n (toks.map .ok ++ after) with ⟨e | o, rest⟩
  · exact ⟨e, congrArg Prod.fst hresult⟩
  · exact absurd ((read_eq_ok_iff hP hn htoks).1 hresult).2 (refused o)

variable {ms : List (Member ν)} (shape : S.shape n = .union ms) {entries : List (String × Tree)}
  (keys : ∀ e ∈ entries, ∃ key, unescape e.1 = .ok key)

include shape keys

theorem readsAs_union_iff {o : Option Draft} : ReadsAs S F n (.object entries) o ↔
    ∃ found d, Chosen S F ms none (given ms entries) found ∧ (finishVariant S F n found).Reads [] d ∧
      o = some d := by
  constructor
  · intro h
    obtain ⟨hnull, -⟩ | ⟨_, found, d, heq, rfl, hfound, hd⟩ := h.found hP hn shape
    · cases hnull
    · cases heq
      exact ⟨found, d, (found_iff keys).1 hfound, hd, rfl⟩
  · rintro ⟨found, d, hchosen, hd, rfl⟩
    exact ((found_iff keys).2 hchosen).readsAs shape hd

theorem readsAs_sole (hS : WellFormed S) {m : Member ν} (hm : m ∈ S.members n) {u : Tree} {d : Draft}
    (sole : given ms entries = [(m.name, u)]) (value : ReadsAs S F m.target u (some d)) :
    ∃ x, ReadsAs S F n (.object entries) (some x) ∧ IsVariant S F m d x := by
  have member : memberOf? ms m.name = some m := members_of_union shape ▸ find_member (hS.nodup n) hm
  have hchosen : Chosen S F ms none (given ms entries) (some (m.name, d)) := sole ▸ .sole member value
  cases F with
  | client =>
    obtain ⟨v, hv⟩ := value.builds hP (hP.member n hn m hm).1
    have hbuilt : S.build .client n (.variant m.name d) = .ok (.variant m.name v) := by
      rw [build, hS.target_eq hm, hv]
    exact ⟨_, (readsAs_union_iff hP hn shape keys).2 ⟨_, _, hchosen, reads_finish hbuilt, rfl⟩, v, hv, rfl⟩
  | server => exact ⟨_, (readsAs_union_iff hP hn shape keys).2 ⟨_, _, hchosen, reads_pure _, rfl⟩, rfl⟩
  | internal => exact ⟨_, (readsAs_union_iff hP hn shape keys).2 ⟨_, _, hchosen, reads_pure _, rfl⟩, rfl⟩

/-- Nothing is read where members are given twice. -/
theorem not_readsAs_mixed (mixed : 2 ≤ (given ms entries).length) (o : Option Draft) :
    ¬ReadsAs S F n (.object entries) o := by
  intro h
  obtain ⟨found, d, hchosen, -⟩ := (readsAs_union_iff hP hn shape keys).1 h
  generalize given ms entries = rest at hchosen mixed
  cases hchosen with
  | idle => exact absurd mixed (by decide)
  | sole => exact absurd mixed (by simp)

/-- Where no member is given, what is read is what a side makes of no variant. -/
theorem readsAs_nothing_iff (nothing : given ms entries = []) (o : Option Draft) :
    ReadsAs S F n (.object entries) o ↔ F = .client ∧ o = some (.built .unknown) := by
  rw [readsAs_union_iff hP hn shape keys, nothing]
  constructor
  · rintro ⟨found, d, hchosen, hd, rfl⟩
    cases hchosen
    cases F with
    | client =>
      cases hd [] [] rfl
      exact ⟨rfl, rfl⟩
    | server => cases hd [] [] rfl
    | internal => cases hd [] [] rfl
  · rintro ⟨rfl, rfl⟩
    exact ⟨_, _, .idle, reads_pure _, rfl⟩

end Reading

end WireShapes.Schema
