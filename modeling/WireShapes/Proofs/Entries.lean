import Mathlib.Data.List.Basic
import WireShapes.Entries

/-!
Look-up in entries.

* `get?_append`, `get?_insert`, `get?_erase`: what is done to a look-up when entries are put behind others, and
  by an insertion and a removal
* `fst_insert`, `mem_insert`: what an insertion does to the keys and the entries
* `nodup_ofList`, `mem_of_mem_ofList`: pairs that are put in one after the other
* `get?_map`, `get?_filter`: look-up in entries whose values are changed or some of which are left out
* `eq_filterMap_of_sublist`: entries under keys in a fixed order are determined by their look-ups
-/

namespace WireShapes.Entries

variable {κ α β : Type} [DecidableEq κ]

@[simp] theorem get?_nil (key : κ) : get? key ([] : List (κ × α)) = none := rfl

theorem get?_cons (key k : κ) (v : α) (rest : List (κ × α)) :
    get? key ((k, v) :: rest) = if k = key then some v else get? key rest := rfl

theorem get?_append (key : κ) (a b : List (κ × α)) : get? key (a ++ b) = (get? key a).or (get? key b) := by
  induction a with
  | nil => rfl
  | cons e rest ih =>
    obtain ⟨k, v⟩ := e
    rw [List.cons_append, get?_cons, get?_cons, ih]
    split <;> rfl

theorem get?_insert (key k : κ) (v : α) (entries : List (κ × α)) :
    get? key (insert k v entries) = if k = key then some v else get? key entries := by
  induction entries with
  | nil => rfl
  | cons e rest ih =>
    obtain ⟨k', v'⟩ := e
    unfold insert
    by_cases hk : k' = k
    · subst hk
      simp only [if_true, get?_cons]
      split <;> rfl
    · rw [if_neg hk, get?_cons, get?_cons, ih]
      by_cases hkey : k' = key
      · subst hkey
        rw [if_pos rfl, if_neg (fun h => hk h.symm), if_pos rfl]
      · rw [if_neg hkey, if_neg hkey]

theorem get?_erase (key k : κ) (entries : List (κ × α)) :
    get? key (erase k entries) = if k = key then none else get? key entries := by
  induction entries with
  | nil => simp [erase]
  | cons e rest ih =>
    obtain ⟨k', v'⟩ := e
    unfold erase at ih ⊢
    by_cases hk : k' = k
    · subst hk
      simp only [List.filter_cons, decide_true, Bool.not_true, Bool.false_eq_true, if_false, ih,
        get?_cons]
      split <;> rfl
    · simp only [List.filter_cons, hk, decide_false, Bool.not_false, if_true, get?_cons, ih]
      by_cases hkey : k' = key
      · subst hkey
        rw [if_pos rfl, if_neg (fun h => hk h.symm), if_pos rfl]
      · rw [if_neg hkey, if_neg hkey]

theorem mem_of_get? {key : κ} {v : α} {entries : List (κ × α)} (h : get? key entries = some v) :
    (key, v) ∈ entries := by
  induction entries with
  | nil => simp at h
  | cons e rest ih =>
    obtain ⟨k, w⟩ := e
    rw [get?_cons] at h
    split at h
    · next hk =>
      obtain rfl := Option.some.inj h
      simp [hk]
    · exact List.mem_cons_of_mem _ (ih h)

theorem get?_eq_none_iff {key : κ} {entries : List (κ × α)} :
    get? key entries = none ↔ key ∉ entries.map Prod.fst := by
  induction entries with
  | nil => simp
  | cons e rest ih =>
    obtain ⟨k, w⟩ := e
    rw [get?_cons]
    by_cases hk : k = key
    · simp [hk]
    · rw [if_neg hk, ih]
      simp [Ne.symm hk]

theorem get?_of_mem {key : κ} {v : α} {entries : List (κ × α)} (hd : (entries.map Prod.fst).Nodup)
    (h : (key, v) ∈ entries) : get? key entries = some v := by
  induction entries with
  | nil => simp at h
  | cons e rest ih =>
    obtain ⟨k, w⟩ := e
    rw [List.map_cons, List.nodup_cons] at hd
    rw [get?_cons]
    rcases List.mem_cons.1 h with heq | hrest
    · simp only [Prod.mk.injEq] at heq
      obtain ⟨rfl, rfl⟩ := heq
      rw [if_pos rfl]
    · have hne : k ≠ key := by
        rintro rfl
        exact hd.1 (List.mem_map.2 ⟨_, hrest, rfl⟩)
      rw [if_neg hne]
      exact ih hd.2 hrest

theorem insert_of_not_mem {key : κ} {v : α} {entries : List (κ × α)}
    (h : key ∉ entries.map Prod.fst) : insert key v entries = entries ++ [(key, v)] := by
  induction entries with
  | nil => rfl
  | cons e rest ih =>
    obtain ⟨k, w⟩ := e
    simp only [List.map_cons, List.mem_cons, not_or] at h
    rw [insert, if_neg (fun hk => h.1 hk.symm), ih h.2]
    rfl

theorem foldl_insert_of_nodup {given pairs : List (κ × α)} (h : ((given ++ pairs).map Prod.fst).Nodup) :
    pairs.foldl (fun acc p => insert p.1 p.2 acc) given = given ++ pairs := by
  induction pairs generalizing given with
  | nil => rw [List.foldl_nil, List.append_nil]
  | cons p rest ih =>
    have hnew : p.1 ∉ given.map Prod.fst := by
      rw [List.map_append, List.map_cons, List.nodup_append] at h
      exact fun hmem => h.2.2 _ hmem _ (by simp) rfl
    rw [List.foldl_cons, insert_of_not_mem hnew, ih (by simpa using h)]
    simp

theorem ofList_of_nodup {pairs : List (κ × α)} (h : (pairs.map Prod.fst).Nodup) : ofList pairs = pairs :=
  foldl_insert_of_nodup (by simpa using h)

theorem fst_insert (key : κ) (v : α) (entries : List (κ × α)) :
    (insert key v entries).map Prod.fst =
      if key ∈ entries.map Prod.fst then entries.map Prod.fst else entries.map Prod.fst ++ [key] := by
  induction entries with
  | nil => rfl
  | cons e rest ih =>
    obtain ⟨k, w⟩ := e
    unfold insert
    by_cases hk : k = key
    · simp [hk]
    · rw [if_neg hk, List.map_cons, ih, List.map_cons]
      simp only [List.mem_cons, Ne.symm hk, false_or]
      split <;> rfl

theorem mem_insert {key : κ} {v : α} {entries : List (κ × α)} {e : κ × α} (h : e ∈ insert key v entries) :
    e = (key, v) ∨ e ∈ entries := by
  induction entries with
  | nil => exact .inl (List.mem_singleton.1 h)
  | cons first rest ih =>
    obtain ⟨k, w⟩ := first
    unfold insert at h
    split at h
    · exact (List.mem_cons.1 h).imp id (List.mem_cons_of_mem _)
    · rcases List.mem_cons.1 h with rfl | h
      · exact .inr List.mem_cons_self
      · exact (ih h).imp id (List.mem_cons_of_mem _)

theorem nodup_insert {key : κ} {v : α} {entries : List (κ × α)} (h : (entries.map Prod.fst).Nodup) :
    ((insert key v entries).map Prod.fst).Nodup := by
  rw [fst_insert]
  split
  · exact h
  · next hnew =>
    refine List.nodup_append.2 ⟨h, by simp, fun k hk k' hk' => ?_⟩
    rw [List.mem_singleton.1 hk']
    rintro rfl
    exact hnew hk

section Fold

variable {given pairs : List (κ × α)}

theorem nodup_foldl_insert (h : (given.map Prod.fst).Nodup) :
    ((pairs.foldl (fun acc p => insert p.1 p.2 acc) given).map Prod.fst).Nodup := by
  induction pairs generalizing given with
  | nil => exact h
  | cons p rest ih => exact ih (nodup_insert h)

theorem mem_foldl_insert {e : κ × α} (h : e ∈ pairs.foldl (fun acc p => insert p.1 p.2 acc) given) :
    e ∈ given ∨ e ∈ pairs := by
  induction pairs generalizing given with
  | nil => exact .inl h
  | cons p rest ih =>
    rcases ih h with h | h
    · rcases mem_insert h with rfl | h
      · exact .inr List.mem_cons_self
      · exact .inl h
    · exact .inr (List.mem_cons_of_mem _ h)

end Fold

theorem nodup_ofList (pairs : List (κ × α)) : ((ofList pairs).map Prod.fst).Nodup :=
  nodup_foldl_insert List.nodup_nil

theorem mem_of_mem_ofList {pairs : List (κ × α)} {e : κ × α} (h : e ∈ ofList pairs) : e ∈ pairs :=
  (mem_foldl_insert h).resolve_left fun h => (nomatch h)

theorem get?_map (f : κ → α → β) (key : κ) (entries : List (κ × α)) :
    get? key (entries.map fun e => (e.1, f e.1 e.2)) = (get? key entries).map (f key) := by
  induction entries with
  | nil => rfl
  | cons e rest ih =>
    obtain ⟨k, w⟩ := e
    rw [List.map_cons, get?_cons, get?_cons, ih]
    by_cases hk : k = key
    · subst hk
      simp
    · rw [if_neg hk, if_neg hk]

theorem get?_filter (p : κ → Bool) (key : κ) (entries : List (κ × α)) :
    get? key (entries.filter fun e => p e.1) = if p key then get? key entries else none := by
  induction entries with
  | nil => simp
  | cons e rest ih =>
    obtain ⟨k, w⟩ := e
    rw [List.filter_cons]
    by_cases hk : k = key
    · subst hk
      by_cases hp : p k = true
      · simp [hp, get?_cons]
      · simp [hp, ih]
    · by_cases hp : p k = true
      · rw [if_pos hp, get?_cons, if_neg hk, get?_cons, if_neg hk, ih]
      · rw [if_neg hp, get?_cons, if_neg hk, ih]

/-- Entries whose keys stand in a given order, each once, are those of their look-ups. -/
theorem eq_filterMap_of_sublist {keys : List κ} (hd : keys.Nodup) {entries : List (κ × α)}
    (hs : (entries.map Prod.fst).Sublist keys) :
    entries = keys.filterMap fun k => (get? k entries).map (k, ·) := by
  induction keys generalizing entries with
  | nil =>
    rw [List.sublist_nil, List.map_eq_nil_iff] at hs
    simp [hs]
  | cons k keys ih =>
    rw [List.nodup_cons] at hd
    cases entries with
    | nil => simp
    | cons e rest =>
      obtain ⟨k', v⟩ := e
      rw [List.map_cons] at hs
      by_cases hk : k' = k
      · subst hk
        have hrest : (rest.map Prod.fst).Sublist keys := by simpa using hs
        rw [List.filterMap_cons, get?_cons, if_pos rfl]
        simp only [Option.map_some]
        congr 1
        refine (ih hd.2 hrest).trans (List.filterMap_congr fun x hx => ?_)
        have hne : k' ≠ x := fun h => hd.1 (h ▸ hx)
        rw [get?_cons, if_neg hne]
      · have hs' : ((k', v) :: rest).map Prod.fst |>.Sublist keys := by
          rcases List.sublist_cons_iff.1 hs with h | ⟨r, hr, -⟩
          · exact h
          · exact absurd (List.cons.inj hr).1 hk
        have hnone : get? k ((k', v) :: rest) = none :=
          get?_eq_none_iff.2 fun hmem => hd.1 (hs'.subset hmem)
        rw [List.filterMap_cons, hnone]
        exact ih hd.2 hs'

end WireShapes.Entries
