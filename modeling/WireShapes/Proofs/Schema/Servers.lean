import WireShapes.Proofs.Schema.Flavours

/-!
Two sides that check rules differ in nothing that shows on the wire.

* `ReadAlike`, `readAlike`, `read_of_checks`: they read the same drafts from the same tokens
* `build_bare`: they find the same violations, and build values that differ only in the types that
  checked values have
* `decode_of_checks`: so a text comes to the same for both
-/

namespace WireShapes.Schema

open Json

variable {ν : Type} {S : Schema ν} {F G : Flavour}

/-! ### Reading -/

theorem finish_of_checks (hF : F.checks = true) (n : ν) (d : Draft) : S.finish F n d = pure d := by
  cases F with
  | client => cases hF
  | server => rfl
  | internal => rfl

theorem passAbsent_of_checks (hF : F.checks = true) (hG : G.checks = true) (item : Option Draft) :
    passAbsent F item = passAbsent G item := by
  cases F with
  | client => cases hF
  | server | internal =>
    cases G with
    | client => cases hG
    | server | internal => cases item <;> rfl

theorem noVariant_of_checks (hF : F.checks = true) : noVariant F = Reader.failContent .noVariant := by
  cases F with
  | client => cases hF
  | server => rfl
  | internal => rfl

/-- All readers of both sides are the same in that many rounds. -/
structure ReadAlike (S : Schema ν) (F G : Flavour) (rounds : Nat) : Prop where
  value : ∀ n, S.readAt F rounds n = S.readAt G rounds n
  items : ∀ item, S.readItems F rounds item = S.readItems G rounds item
  members : ∀ ms fields, S.readMembers F rounds ms fields = S.readMembers G rounds ms fields
  variant : ∀ ms found, S.readVariant F rounds ms found = S.readVariant G rounds ms found

theorem readAlike (hF : F.checks = true) (hG : G.checks = true) (rounds : Nat) :
    ReadAlike S F G rounds := by
  induction rounds with
  | zero =>
    refine ⟨fun n => ?_, fun item => ?_, fun ms fields => ?_, fun ms found => ?_⟩
    · rw [readAt, readAt]
    · rw [readItems, readItems]
    · rw [readMembers, readMembers]
    · rw [readVariant, readVariant]
  | succ rounds ih =>
    refine ⟨fun n => ?_, fun item => ?_, fun ms fields => ?_, fun ms found => ?_⟩
    · rw [readAt, readAt]
      simp only [ih.items, ih.members, ih.variant, finish_of_checks hF, finish_of_checks hG,
        noVariant_of_checks hF, noVariant_of_checks hG]
    · rw [readItems, readItems]
      simp only [ih.value, ih.items, passAbsent_of_checks hF hG]
    · rw [readMembers, readMembers]
      simp only [ih.value, ih.members]
    · rw [readVariant, readVariant]
      simp only [ih.value, ih.variant]

theorem read_of_checks (hF : F.checks = true) (hG : G.checks = true) (n : ν) : S.read F n = S.read G n := by
  unfold read
  simp only [(readAlike hF hG _).value]

/-! ### Building -/

theorem checked_bare (hFG : F.checks = G.checks) (violation : Option Violation) {v w : Value}
    (hvw : v.bare = w.bare) :
    (checked F violation v).map Value.bare = (checked G violation w).map Value.bare := by
  unfold checked
  rw [hFG]
  split <;> simp [Except.map, hvw]

theorem checkText_bare (hFG : F.checks = G.checks) (n : ν) (s : String) :
    (S.checkText F n s).map Value.bare = (S.checkText G n s).map Value.bare := by
  unfold checkText
  split
  · exact checked_bare hFG _ (by rw [bare_hold, bare_hold])
  · exact checked_bare hFG _ rfl
  · rfl

theorem checkInteger_bare (hFG : F.checks = G.checks) (n : ν) (k : Int) :
    (S.checkInteger F n k).map Value.bare = (S.checkInteger G n k).map Value.bare := by
  unfold checkInteger
  split
  · exact checked_bare hFG _ (by rw [bare_hold, bare_hold])
  · rfl

theorem buildItems_bare {n : ν} {items : List Draft}
    (each : ∀ d ∈ items, (S.build F (S.item n) d).map Value.bare = (S.build G (S.item n) d).map Value.bare)
    (index : Nat) :
    (S.buildItems F n index items).map bareItems = (S.buildItems G n index items).map bareItems := by
  induction items generalizing index with
  | nil => rw [buildItems, buildItems]
  | cons d rest ih =>
    have hd := each d (by simp)
    have hrest := ih (fun x hx => each x (by simp [hx])) (index + 1)
    rw [buildItems, buildItems]
    obtain ⟨e, hF, hG⟩ | ⟨v, w, hF, hG, hvw⟩ := Results.map_eq_map_iff.1 hd
    · rw [hF, hG]
    · rw [hF, hG]
      obtain ⟨e, hF, hG⟩ | ⟨vs, ws, hF, hG, hvws⟩ := Results.map_eq_map_iff.1 hrest
      · simp [hF, hG, Except.map]
      · simp [hF, hG, bareItems, hvw, hvws]

theorem assemble_bare {structureName : String} {results results' : List (String × Except Violation Value)}
    {members : List (Member ν)}
    (each : ∀ m ∈ members, (Entries.get? m.name results).map (Except.map Value.bare) =
      (Entries.get? m.name results').map (Except.map Value.bare)) :
    (assemble structureName results members).map bareFields =
      (assemble structureName results' members).map bareFields := by
  induction members with
  | nil => rfl
  | cons m rest ih =>
    have hm := each m (by simp)
    have hrest := ih fun a ha => each a (by simp [ha])
    have give : ∀ {v w : Value}, v.bare = w.bare →
        ((assemble structureName results rest).map ((m.name, v) :: ·)).map bareFields =
          ((assemble structureName results' rest).map ((m.name, w) :: ·)).map bareFields := by
      intro v w hvw
      obtain ⟨e, hF, hG⟩ | ⟨vs, ws, hF, hG, hvws⟩ := Results.map_eq_map_iff.1 hrest
      · simp [hF, hG, Except.map]
      · simp [hF, hG, bareFields, hvw, hvws]
    rw [assemble, assemble]
    cases hF : Entries.get? m.name results with
    | none =>
      rw [hF, Option.map_none, eq_comm, Option.map_eq_none_iff] at hm
      rw [hm]
      cases m.default with
      | some v => exact give rfl
      | none =>
        dsimp only
        split
        · rfl
        · exact hrest
    | some r =>
      rw [hF, Option.map_some, eq_comm, Option.map_eq_some_iff] at hm
      obtain ⟨r', hG, hrr'⟩ := hm
      rw [hG]
      obtain ⟨e, rfl, rfl⟩ | ⟨w, v, rfl, rfl, hwv⟩ := Results.map_eq_map_iff.1 hrr'
      · rfl
      · exact give hwv.symm

/-- **Sides that check alike find the same violations**, and what they build is the same but for the
types that checked values have. -/
theorem build_bare (hS : WellFormed S) (hFG : F.checks = G.checks) {n : ν} {d : Draft}
    (hd : Fits S F n d) : (S.build F n d).map Value.bare = (S.build G n d).map Value.bare := by
  induction hd with
  | built => rw [build, build]
  | text => rw [build, build]; exact checkText_bare hFG _ _
  | symbol => rw [build, build]; exact checkText_bare hFG _ _
  | integer => rw [build, build]; exact checkInteger_bare hFG _ _
  | boolean => rw [build, build]
  | blob => rw [build, build]
  | @list n item items shape _ ih =>
    have hitems : (S.buildItems F n 0 items).map bareItems = (S.buildItems G n 0 items).map bareItems :=
      buildItems_bare (item_of_list shape ▸ ih) 0
    rw [build, build]
    obtain ⟨e, hF, hG⟩ | ⟨vs, ws, hF, hG, hvws⟩ := Results.map_eq_map_iff.1 hitems
    · simp [hF, hG, Except.map]
    · simp [hF, hG, Value.bare, hvws]
  | @struct n members fields shape _ ih =>
    have hm := members_of_struct shape
    have hfields : (assemble (S.name n) (S.buildFields F n fields) members).map bareFields =
        (assemble (S.name n) (S.buildFields G n fields) members).map bareFields := by
      refine assemble_bare fun m hmem => ?_
      rw [get?_buildFields, get?_buildFields, hS.target_eq (hm ▸ hmem)]
      cases hg : Entries.get? m.name fields with
      | none => rfl
      | some d => exact congrArg some (ih m hmem d hg)
    rw [build, build, hm]
    obtain ⟨e, hF, hG⟩ | ⟨vs, ws, hF, hG, hvws⟩ := Results.map_eq_map_iff.1 hfields
    · simp [hF, hG, Except.map]
    · simp [hF, hG, Value.bare, hvws]
  | @variant n members m d shape mem _ ih =>
    rw [build, build, hS.target_eq (members_of_union shape ▸ mem)]
    obtain ⟨e, hF, hG⟩ | ⟨v, w, hF, hG, hvw⟩ := Results.map_eq_map_iff.1 ih
    · rw [hF, hG]
    · simp [hF, hG, Value.bare, hvw]

/-- **A text comes to the same for sides that check rules**: the same failure to read, the same
violation, or values that are written the same, with the same tokens after them. -/
theorem decode_of_checks (hS : WellFormed S) {P : ν → Prop} (hP : DocumentClass S P) (hF : F.checks = true)
    (hG : G.checks = true) {n : ν} (hn : P n) (text : List UInt8) :
    (∃ e, S.decode F n text = .error e ∧ S.decode G n text = .error e) ∨
      ∃ v w rest, S.decode F n text = .ok (v, rest) ∧ S.decode G n text = .ok (w, rest) ∧
        v.map Value.toJson = w.map Value.toJson := by
  have hread : S.read G n (tokenize text) = S.read F n (tokenize text) := by
    rw [read_of_checks hG hF]
  unfold decode
  rw [hread]
  rcases hr : S.read F n (tokenize text) with ⟨e | _ | d, rest⟩
  · exact .inl ⟨_, rfl, rfl⟩
  · exact .inr ⟨none, none, rest, rfl, rfl, rfl⟩
  · have hfit : Fits S F n d := yields_read hS n _ _ _ hr d rfl
    have hfit' : Fits S G n d := yields_read hS n _ _ _ (hread.trans hr) d rfl
    obtain ⟨e, hF, hG⟩ | ⟨v, w, hF, hG, hvw⟩ :=
      Results.map_eq_map_iff.1 (build_bare hS (hF.trans hG.symm) hfit)
    · exact .inl ⟨.invalid e, by simp only [hF], by simp only [hG]⟩
    · refine .inr ⟨some v, some w, rest, by simp only [hF], by simp only [hG], ?_⟩
      have hv := (hfit.conforms_of_build hS hF).toNode_bare hS hP hn
      have hw := (hfit'.conforms_of_build hS hG).toNode_bare hS hP hn
      rw [Option.map_some, Option.map_some, Value.toJson, Value.toJson, ← hv, ← hw, hvw]

end WireShapes.Schema
