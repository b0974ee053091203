import WireShapes.Proofs.Schema.Conformance

/-!
The checks of a shape find every broken rule and no other.

* `buildItems_eq_ok_iff`, `buildFields_eq`, `assemble_eq_ok_iff`: what becomes of the parts of a draft
* `build_struct_congr`: what is built depends on the members that are given, not on their order
* `build_struct_eq_error`: the violation of a structure is that of its first member that has one
* `Fits.conforms_of_build`: what is built of a draft conforms to its shape
* `Meets.build_holds`: a draft within the rules is built, and the value has exactly what the draft
  gives
-/

namespace WireShapes.Schema

variable {ν : Type} {S : Schema ν} {F : Flavour}

/-! ### Simple values -/

attribute [grind =] build buildItems buildFields assemble

theorem checked_eq_ok_iff {violation : Option Violation} {v w : Value} :
    checked F violation v = .ok w ↔ w = v ∧ (F.checks = true → violation = none) := by
  unfold checked
  cases hF : F.checks <;> cases violation <;> simp [eq_comm]

theorem checkText_text {n : ν} {rule : TextRule} (h : S.shape n = .text rule) {s : String} {v : Value} :
    S.checkText F n s = .ok v ↔
      v = hold F (decide (rule ≠ .free)) (.text s) ∧ (F.checks = true → rule.Admits s) := by
  unfold checkText
  rw [h]
  simp only [checked_eq_ok_iff, textViolation?_eq_none_iff]

theorem checkText_symbol {n : ν} {constants : List (String × String)}
    (h : S.shape n = .enumeration constants) {s : String} {v : Value} :
    S.checkText F n s = .ok v ↔ v = .symbol s ∧ (F.checks = true → s ∈ constants.map (·.2)) := by
  unfold checkText
  rw [h]
  simp only [checked_eq_ok_iff, List.contains_iff_mem]
  by_cases hs : s ∈ constants.map (·.2)
  · simp [hs]
  · simp [hs]

theorem checkInteger_integer {n : ν} {range : Option (Interval Int)} (h : S.shape n = .integer range)
    {k : Int} {v : Value} :
    S.checkInteger F n k = .ok v ↔
      v = hold F range.isSome (.integer k) ∧ (F.checks = true → InRange range k) := by
  unfold checkInteger
  rw [h]
  simp only [checked_eq_ok_iff, integerViolation?_eq_none_iff]

/-! ### Parts -/

theorem buildItems_eq_ok_iff {n : ν} {items : List Draft} {i : Nat} {values : List Value} :
    S.buildItems F n i items = .ok values ↔
      items.map (S.build F (S.item n)) = values.map Except.ok := by
  induction items generalizing i values with
  | nil =>
    rw [buildItems]
    cases values <;> simp
  | cons d rest ih =>
    rw [buildItems, List.map_cons]
    cases hd : S.build F (S.item n) d with
    | error e => cases values <;> simp
    | ok v =>
      cases values with
      | nil => cases S.buildItems F n (i + 1) rest <;> simp [Except.map]
      | cons w more =>
        rw [List.map_cons, List.cons.injEq, Except.ok.injEq, ← ih (i := i + 1)]
        cases S.buildItems F n (i + 1) rest <;> simp [Except.map]

theorem buildFields_eq (n : ν) (fields : List (String × Draft)) :
    S.buildFields F n fields = fields.map fun f => (f.1, S.build F (S.target n f.1) f.2) := by
  induction fields with
  | nil => rw [buildFields]; rfl
  | cons f rest ih =>
    obtain ⟨name, d⟩ := f
    rw [buildFields, ih]
    rfl

theorem get?_buildFields (n : ν) (name : String) (fields : List (String × Draft)) :
    Entries.get? name (S.buildFields F n fields) =
      (Entries.get? name fields).map (S.build F (S.target n name)) := by
  rw [buildFields_eq]
  exact Entries.get?_map (fun k d => S.build F (S.target n k) d) name fields

theorem get?_buildFields_member (hS : WellFormed S) {n : ν} {members : List (Member ν)} (h : S.shape n = .struct members)
    {m : Member ν} (hm : m ∈ members) (fields : List (String × Draft)) :
    Entries.get? m.name (S.buildFields F n fields) = (Entries.get? m.name fields).map (S.build F m.target) := by
  rw [get?_buildFields, hS.target_eq (members_of_struct h ▸ hm)]

/-- The value of a member among the results: the one that was built, or else the default. -/
def memberValue? (results : List (String × Except Violation Value)) (m : Member ν) : Option Value :=
  match Entries.get? m.name results with
  | some (.ok v) => some v
  | some (.error _) => none
  | none => m.default

/-- **A structure comes about exactly if no member has failed and none that has to be given is
missing**; its fields are those of the members, in the order of the members. -/
theorem assemble_eq_ok_iff {structureName : String} {results : List (String × Except Violation Value)}
    {members : List (Member ν)} {values : List (String × Value)} :
    assemble structureName results members = .ok values ↔
      (∀ m ∈ members, (∀ e, Entries.get? m.name results ≠ some (.error e)) ∧
        (m.required = true → m.default = none → (Entries.get? m.name results).isSome = true)) ∧
      values = members.filterMap fun m => (memberValue? results m).map (m.name, ·) := by
  induction members generalizing values with
  | nil =>
    rw [assemble, Except.ok.injEq]
    exact ⟨fun h => ⟨by simp, h.symm⟩, fun h => h.2.symm⟩
  | cons m rest ih =>
    rw [assemble, List.forall_mem_cons, List.filterMap_cons]
    -- what the rest comes to decides, once the first member has a value or needs none
    have step : ∀ v : Value, (assemble structureName results rest).map ((m.name, v) :: ·) = .ok values ↔
        (∀ m ∈ rest, (∀ e, Entries.get? m.name results ≠ some (.error e)) ∧
          (m.required = true → m.default = none → (Entries.get? m.name results).isSome = true)) ∧
        values = (m.name, v) :: rest.filterMap fun m => (memberValue? results m).map (m.name, ·) := by
      intro v
      cases hr : assemble structureName results rest with
      | error e =>
        have hno := (@ih (rest.filterMap fun m => (memberValue? results m).map (m.name, ·))).not
        simp only [hr, reduceCtorEq, not_false_eq_true, and_true, true_iff] at hno
        simp [Except.map, hno]
      | ok more =>
        obtain ⟨h1, h2⟩ := ih.1 hr
        simp only [Except.map, Except.ok.injEq, ← h2]
        exact ⟨fun h => ⟨h1, h.symm⟩, fun h => h.2.symm⟩
    cases hg : Entries.get? m.name results with
    | some r =>
      cases r with
      | error e => simp
      | ok v =>
        have hv : memberValue? results m = some v := by simp [memberValue?, hg]
        simpa [hv] using step v
    | none =>
      have hv : memberValue? results m = m.default := by simp [memberValue?, hg]
      rw [hv]
      cases hd : m.default with
      | some v => simpa using step v
      | none =>
        by_cases hreq : m.required = true
        · simp [hreq]
        · simp [hreq, ih]

/-- Members that have not failed and are not missing are passed on the way to one that has or is. -/
theorem assemble_append_error {structureName : String} {results : List (String × Except Violation Value)}
    {before rest : List (Member ν)} {e : Violation}
    (hbefore : ∀ a ∈ before, (∀ e, Entries.get? a.name results ≠ some (.error e)) ∧
      (a.required = true → a.default = none → (Entries.get? a.name results).isSome = true))
    (hrest : assemble structureName results rest = .error e) :
    assemble structureName results (before ++ rest) = .error e := by
  induction before with
  | nil => exact hrest
  | cons a more ih =>
    obtain ⟨herror, hneeded⟩ := hbefore a List.mem_cons_self
    have hmore := ih fun b hb => hbefore b (List.mem_cons_of_mem _ hb)
    rw [List.cons_append, assemble, hmore]
    split
    · next e' hget => exact absurd hget (herror e')
    · rfl
    · rfl
    · next hget hdefault =>
      rw [if_neg fun hreq => by simpa [hget] using hneeded hreq hdefault]

/-- **The first member that fails is the one that counts.** -/
theorem assemble_eq_error {structureName : String} {results : List (String × Except Violation Value)}
    {before after : List (Member ν)} {m : Member ν} {e : Violation}
    (hbefore : ∀ a ∈ before, (∀ e, Entries.get? a.name results ≠ some (.error e)) ∧
      (a.required = true → a.default = none → (Entries.get? a.name results).isSome = true))
    (hm : Entries.get? m.name results = some (.error e)) :
    assemble structureName results (before ++ m :: after) = .error (.member m.name e) := by
  refine assemble_append_error hbefore ?_
  rw [assemble, hm]

theorem assemble_congr {structureName : String} {results results' : List (String × Except Violation Value)}
    {members : List (Member ν)}
    (h : ∀ m ∈ members, Entries.get? m.name results = Entries.get? m.name results') :
    assemble structureName results members = assemble structureName results' members := by
  induction members with
  | nil => rfl
  | cons m rest ih =>
    rw [assemble, assemble, h m (by simp), ih fun a ha => h a (by simp [ha])]

theorem get?_filterMap_members {α : Type} {members : List (Member ν)}
    (hd : (members.map (·.name)).Nodup) (f : Member ν → Option α) {m : Member ν} (hm : m ∈ members) :
    Entries.get? m.name (members.filterMap fun m => (f m).map (m.name, ·)) = f m := by
  induction members with
  | nil => simp at hm
  | cons a rest ih =>
    rw [List.map_cons, List.nodup_cons] at hd
    have hnone : a.name ∉ (rest.filterMap fun m => (f m).map (m.name, ·)).map Prod.fst := by
      intro h
      obtain ⟨p, hp, hpa⟩ := List.mem_map.1 h
      obtain ⟨b, hb, hbp⟩ := List.mem_filterMap.1 hp
      obtain ⟨x, -, rfl⟩ := Option.map_eq_some_iff.1 hbp
      exact hd.1 (hpa ▸ List.mem_map.2 ⟨b, hb, rfl⟩)
    rw [List.filterMap_cons]
    rcases List.mem_cons.1 hm with rfl | hrest
    · cases hf : f m with
      | none => exact Entries.get?_eq_none_iff.2 hnone
      | some x => simp [Entries.get?_cons]
    · have hne : a.name ≠ m.name := fun h => hd.1 (h ▸ List.mem_map.2 ⟨m, hrest, rfl⟩)
      cases hf : f a with
      | none => exact ih hd.2 hrest
      | some x =>
        simp only [Option.map_some, Entries.get?_cons, if_neg hne]
        exact ih hd.2 hrest

theorem names_filterMap_members {α : Type} (members : List (Member ν)) (f : Member ν → Option α) :
    ((members.filterMap fun m => (f m).map (m.name, ·)).map Prod.fst).Sublist
      (members.map (·.name)) := by
  induction members with
  | nil => simp
  | cons m rest ih =>
    rw [List.filterMap_cons]
    cases f m with
    | none => exact ih.cons _
    | some x => exact ih.cons_cons _

/-- A structure is built exactly if every given member is and none that has to be given is missing. -/
theorem build_struct_eq_ok_iff (hS : WellFormed S) {n : ν} {members : List (Member ν)}
    (h : S.shape n = .struct members) {fields : List (String × Draft)} {v : Value} :
    S.build F n (.struct fields) = .ok v ↔
      ∃ values, v = .struct values ∧ (values.map Prod.fst).Sublist (members.map (·.name)) ∧
        ∀ m ∈ members,
          (∀ d, Entries.get? m.name fields = some d →
            ∃ w, Entries.get? m.name values = some w ∧ S.build F m.target d = .ok w) ∧
          (Entries.get? m.name fields = none →
            Entries.get? m.name values = m.default ∧ ¬(m.required = true ∧ m.default = none)) := by
  have hm := members_of_struct h
  have hnd : (members.map (·.name)).Nodup := hm ▸ hS.nodup n
  have hget := fun m hmem => get?_buildFields_member (F := F) hS h (m := m) hmem fields
  rw [build, hm]
  constructor
  · intro hb
    obtain ⟨values, hv, rfl⟩ : ∃ values, assemble (S.name n) (S.buildFields F n fields) members =
        .ok values ∧ .struct values = v := by
      cases hr : assemble (S.name n) (S.buildFields F n fields) members <;> simp_all [Except.map]
    obtain ⟨hall, rfl⟩ := assemble_eq_ok_iff.1 hv
    refine ⟨_, rfl, names_filterMap_members _ _, fun m hmem => ?_⟩
    rw [get?_filterMap_members hnd _ hmem]
    obtain ⟨hok, hreq⟩ := hall m hmem
    unfold memberValue?
    rw [hget m hmem] at hok hreq ⊢
    refine ⟨fun d hd => ?_, fun hd => ?_⟩
    · simp only [hd, Option.map_some] at hok ⊢
      cases hb : S.build F m.target d with
      | error e => exact absurd (congrArg some hb) (hok e)
      | ok w => exact ⟨w, rfl, rfl⟩
    · simp only [hd, Option.map_none] at hreq ⊢
      exact ⟨trivial, fun hc => by simpa using hreq hc.1 hc.2⟩
  · rintro ⟨values, rfl, hsub, hall⟩
    have hv : assemble (S.name n) (S.buildFields F n fields) members = .ok values := by
      refine assemble_eq_ok_iff.2 ⟨fun m hmem => ?_, ?_⟩
      · rw [hget m hmem]
        cases hd : Entries.get? m.name fields with
        | none => exact ⟨by simp, fun h1 h2 => absurd ⟨h1, h2⟩ ((hall m hmem).2 hd).2⟩
        | some d =>
          obtain ⟨w, -, hw⟩ := (hall m hmem).1 d hd
          simp [hw]
      · refine (Entries.eq_filterMap_of_sublist hnd hsub).trans ?_
        rw [List.filterMap_map]
        refine List.filterMap_congr fun m hmem => ?_
        simp only [Function.comp]
        congr 1
        unfold memberValue?
        rw [hget m hmem]
        cases hd : Entries.get? m.name fields with
        | none => simpa using ((hall m hmem).2 hd).1
        | some d =>
          obtain ⟨w, hw, hb⟩ := (hall m hmem).1 d hd
          simp [hb, hw]
    rw [hv]
    rfl

/-! ### Whole drafts -/

/-- What is built of a structure depends on what is in hand under the names of its members alone. -/
theorem build_struct_congr {n : ν} {fields fields' : List (String × Draft)}
    (h : ∀ m ∈ S.members n, Entries.get? m.name fields = Entries.get? m.name fields') :
    S.build F n (.struct fields) = S.build F n (.struct fields') := by
  rw [build, build]
  congr 1
  refine assemble_congr fun m hm => ?_
  rw [get?_buildFields, get?_buildFields, h m hm]

/-- The violation of a structure is that of the first member that has one. -/
theorem build_struct_eq_error (hS : WellFormed S) {n : ν} {before after : List (Member ν)} {m : Member ν}
    (h : S.shape n = .struct (before ++ m :: after)) {fields : List (String × Draft)} {d : Draft}
    {e : Violation}
    (hbefore : ∀ a ∈ before, (∀ d, Entries.get? a.name fields = some d →
      ∃ w, S.build F a.target d = .ok w) ∧
      (a.required = true → a.default = none → (Entries.get? a.name fields).isSome = true))
    (hm : Entries.get? m.name fields = some d) (he : S.build F m.target d = .error e) :
    S.build F n (.struct fields) = .error (.member m.name e) := by
  have hget := fun a ha => get?_buildFields_member (F := F) hS h (m := a) ha fields
  rw [build, members_of_struct h, assemble_eq_error]
  · rfl
  · intro a ha
    rw [hget a (List.mem_append_left _ ha), Option.isSome_map]
    refine ⟨fun e' he' => ?_, (hbefore a ha).2⟩
    obtain ⟨d', hd', hbuilt⟩ := Option.map_eq_some_iff.1 he'
    obtain ⟨w, hw⟩ := (hbefore a ha).1 d' hd'
    rw [hw] at hbuilt
    cases hbuilt
  · rw [hget m (by simp), hm, Option.map_some, he]

/-- **What is built of a draft conforms to its shape.** -/
theorem Fits.conforms_of_build (hS : WellFormed S) {n : ν} {d : Draft} (hd : Fits S F n d) {v : Value}
    (hv : S.build F n d = .ok v) : Conforms S F n v := by
  induction hd generalizing v with
  | built value =>
    rw [build, Except.ok.injEq] at hv
    exact hv ▸ value
  | text shape =>
    rw [build, checkText_text shape] at hv
    exact .text shape hv.1 hv.2
  | symbol shape =>
    rw [build, checkText_symbol shape] at hv
    exact hv.1 ▸ .symbol shape hv.2
  | integer shape fits =>
    rw [build, checkInteger_integer shape] at hv
    exact .integer shape hv.1 fits hv.2
  | boolean shape =>
    rw [build, Except.ok.injEq] at hv
    exact hv ▸ .boolean shape
  | blob shape =>
    rw [build, Except.ok.injEq] at hv
    exact hv ▸ .blob shape
  | @list n item items shape _ ih =>
    obtain ⟨values, hb, rfl⟩ : ∃ values, S.buildItems F n 0 items = .ok values ∧ .list values = v := by
      rw [build] at hv
      cases hr : S.buildItems F n 0 items <;> simp_all [Except.map]
    rw [buildItems_eq_ok_iff, item_of_list shape] at hb
    refine .list shape fun w hw => ?_
    have hmem : Except.ok w ∈ items.map (S.build F item) := hb ▸ List.mem_map.2 ⟨w, hw, rfl⟩
    obtain ⟨d, hd, hdw⟩ := List.mem_map.1 hmem
    exact ih d hd hdw
  | @struct n members fields shape _ ih =>
    obtain ⟨values, rfl, hsub, hall⟩ := (build_struct_eq_ok_iff hS shape).1 hv
    refine .struct shape hsub (fun m hm hst => ?_) (fun m hm w hw => ?_)
    · cases hg : Entries.get? m.name fields with
      | some d =>
        obtain ⟨w, hw, -⟩ := (hall m hm).1 d hg
        simp [hw]
      | none =>
        obtain ⟨hdef, hno⟩ := (hall m hm).2 hg
        rw [hdef]
        rcases hst with hreq | hdflt
        · cases hd : m.default with
          | none => exact absurd ⟨hreq, hd⟩ hno
          | some x => rfl
        · exact hdflt
    · cases hg : Entries.get? m.name fields with
      | some d =>
        obtain ⟨w', hw', hb⟩ := (hall m hm).1 d hg
        obtain rfl : w' = w := Option.some.inj (hw'.symm.trans hw)
        exact ih m hm d hg hb
      | none =>
        have hdef := ((hall m hm).2 hg).1
        exact hS.default _ m (members_of_struct shape ▸ hm) w (hdef ▸ hw) F
  | @variant n members m d shape mem _ ih =>
    rw [build, hS.target_eq (members_of_union shape ▸ mem)] at hv
    cases hb : S.build F m.target d with
    | error e => simp [hb] at hv
    | ok w =>
      simp only [hb, Except.ok.injEq] at hv
      exact hv ▸ .variant shape mem (ih hb)

theorem exists_values {ε : Type} {f : Draft → Except ε Value} {R : Draft → Value → Prop}
    {items : List Draft} (h : ∀ d ∈ items, ∃ v, f d = .ok v ∧ R d v) :
    ∃ values : List Value, items.map f = values.map .ok ∧ values.length = items.length ∧
      ∀ (i : Nat) d v, items[i]? = some d → values[i]? = some v → R d v := by
  induction items with
  | nil => exact ⟨[], by simp⟩
  | cons d rest ih =>
    obtain ⟨v, hv, hR⟩ := h d (by simp)
    obtain ⟨values, hmap, hlen, hall⟩ := ih fun d hd => h d (by simp [hd])
    refine ⟨v :: values, by simp [hv, hmap], by simp [hlen], fun i => ?_⟩
    cases i with
    | zero =>
      intro d' v' hd' hv'
      simp only [List.getElem?_cons_zero, Option.some.injEq] at hd' hv'
      exact hd' ▸ hv' ▸ hR
    | succ i => simpa using hall i

/-- **A draft within the rules is built, and the value has exactly what the draft gives.** -/
theorem Meets.build_holds (hS : WellFormed S) {n : ν} {d : Draft} (hd : Meets S F n d) :
    ∃ v, S.build F n d = .ok v ∧ Holds S F n d v := by
  induction hd with
  | @built n v value => exact ⟨v, by rw [build], .built⟩
  | text shape admits =>
    exact ⟨_, by rw [build, checkText_text shape]; exact ⟨rfl, admits⟩, .text shape rfl⟩
  | symbol shape listed =>
    exact ⟨_, by rw [build, checkText_symbol shape]; exact ⟨rfl, listed⟩, .symbol shape⟩
  | integer shape _ inRange =>
    exact ⟨_, by rw [build, checkInteger_integer shape]; exact ⟨rfl, inRange⟩, .integer shape rfl⟩
  | @boolean n b shape => exact ⟨.boolean b, by rw [build], .boolean⟩
  | @blob n bytes shape => exact ⟨.blob bytes, by rw [build], .blob⟩
  | @list n item items shape _ ih =>
    obtain ⟨values, hmap, hlen, hall⟩ := exists_values ih
    refine ⟨.list values, ?_, .list shape hlen hall⟩
    rw [build, buildItems_eq_ok_iff.2 (item_of_list shape ▸ hmap)]
    rfl
  | @struct n members fields shape given _ ih =>
    have hm := members_of_struct shape
    have hnd : (members.map (·.name)).Nodup := hm ▸ hS.nodup n
    -- the values that the members that are given come to, and the defaults of the others
    let value : Member ν → Option Value := memberValue? (S.buildFields F n fields)
    have hgiven : ∀ m ∈ members, ∀ d, Entries.get? m.name fields = some d →
        ∃ w, value m = some w ∧ S.build F m.target d = .ok w ∧ Holds S F m.target d w := by
      intro m hmem d hd
      obtain ⟨w, hw, hholds⟩ := ih m hmem d hd
      refine ⟨w, ?_, hw, hholds⟩
      simp [value, memberValue?, get?_buildFields, hd, hS.target_eq (hm ▸ hmem), hw]
    have hdefault : ∀ m, Entries.get? m.name fields = none → value m = m.default := by
      intro m hd
      simp [value, memberValue?, get?_buildFields, hd]
    have hget : ∀ m ∈ members, Entries.get? m.name
        (members.filterMap fun m => (value m).map (m.name, ·)) = value m :=
      fun m hmem => get?_filterMap_members hnd value hmem
    have hsub := names_filterMap_members members value
    refine ⟨.struct _, (build_struct_eq_ok_iff hS shape).2 ⟨_, rfl, hsub, fun m hmem => ⟨fun d hd => ?_,
      fun hd => ⟨?_, fun hno => ?_⟩⟩⟩, .struct shape hsub ?_ ?_ ?_⟩
    · obtain ⟨w, hw, hb, -⟩ := hgiven m hmem d hd
      exact ⟨w, (hget m hmem).trans hw, hb⟩
    · rw [hget m hmem, hdefault m hd]
    · have := given m hmem hno.1 hno.2
      simp [hd] at this
    · intro m hmem d hd
      obtain ⟨w, hw, -⟩ := hgiven m hmem d hd
      rw [hget m hmem, hw]
      rfl
    · intro m hmem d v hd hv
      obtain ⟨w, hw, -, hholds⟩ := hgiven m hmem d hd
      rw [hget m hmem, hw, Option.some.injEq] at hv
      exact hv ▸ hholds
    · intro m hmem hd
      rw [hget m hmem, hdefault m hd]
  | @variant n members m d shape mem _ ih =>
    obtain ⟨w, hw, hholds⟩ := ih
    refine ⟨.variant m.name w, ?_, .variant shape mem hholds⟩
    rw [build, hS.target_eq (members_of_union shape ▸ mem), hw]

end WireShapes.Schema
