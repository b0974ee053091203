import WireShapes.Proofs.Json.Readers
import WireShapes.Proofs.Schema.Building
import WireShapes.Schema.Reading

/-!
What is read from JSON is a draft of the shape that was asked for, whatever the tokens are.

* `FieldsFit`: the fields in hand are drafts of the members that they name
* `FitsBelow S F rounds`: every reader yields drafts of its shape in that many rounds
* `fitsBelow`: and so it is for all numbers of rounds, by one lemma for each reader
* `decode_eq_ok_iff`: a text stands for what is built of its draft
* `conforms_of_decode`: a value that is read and checked conforms to its shape
-/

namespace WireShapes.Schema

open Json

variable {ν : Type} {S : Schema ν} {F : Flavour}

/-- The fields in hand are drafts of the members that they name. -/
def FieldsFit (S : Schema ν) (F : Flavour) (members : List (Member ν)) (fields : List (String × Draft)) :
    Prop :=
  ∀ m ∈ members, ∀ d, Entries.get? m.name fields = some d → Fits S F m.target d

/-- The variant in hand is a draft of the member that it names. -/
def FoundFits (S : Schema ν) (F : Flavour) (members : List (Member ν)) (found : Option (String × Draft)) :
    Prop :=
  ∀ name d, found = some (name, d) → ∃ m ∈ members, m.name = name ∧ Fits S F m.target d

/-- What was read, if anything was, is a draft of the shape. -/
def DraftFits (S : Schema ν) (F : Flavour) (n : ν) (d : Option Draft) : Prop :=
  ∀ x, d = some x → Fits S F n x

theorem fieldsFit_nil (members : List (Member ν)) : FieldsFit S F members [] :=
  fun _ _ _ h => by simp at h

theorem get?_setField (fields : List (String × Draft)) (name key : String) (d : Option Draft) :
    Entries.get? key (setField fields name d) = if name = key then d else Entries.get? key fields := by
  cases d with
  | none => exact Entries.get?_erase key name fields
  | some x => exact Entries.get?_insert key name x fields

/-- A member that is given or taken away leaves fitting fields. -/
theorem FieldsFit.setField {members : List (Member ν)} (hd : (members.map (·.name)).Nodup)
    {fields : List (String × Draft)} (h : FieldsFit S F members fields) {m : Member ν} (hm : m ∈ members)
    {d : Option Draft} (hfit : DraftFits S F m.target d) :
    FieldsFit S F members (Schema.setField fields m.name d) := by
  intro m' hm' x hx
  rw [get?_setField] at hx
  split at hx
  · next hname =>
    have := (find_member hd hm).symm.trans (hname ▸ find_member hd hm')
    obtain rfl := Option.some.inj this
    exact hfit x hx
  · exact h m' hm' x hx

theorem memberOf?_eq_some {members : List (Member ν)} {key : String} {m : Member ν}
    (h : memberOf? members key = some m) : m ∈ members ∧ m.name = key := by
  refine ⟨List.mem_of_find?_eq_some h, ?_⟩
  simpa using List.find?_some h

theorem documentMembers_subset (n : ν) : S.documentMembers n ⊆ S.members n :=
  fun _ hm => (List.mem_filter.1 hm).1

theorem documentMembers_eq {n : ν} (h : ∀ m ∈ S.members n, m.place ≠ .stream) :
    S.documentMembers n = S.members n :=
  List.filter_eq_self.2 fun m hm => decide_eq_true (h m hm)

/-! ### Simple values -/

theorem yields_readInteger :
    Reader.Yields readInteger fun k => ∀ x, k = some x → IntWidth.w32.fits x = true := by
  unfold readInteger
  refine Reader.Yields.seq fun x => ?_
  split
  · exact Reader.yields_pure (by simp)
  · next x =>
    split
    · next k hk =>
      refine Reader.yields_pure fun y hy => ?_
      exact Option.some.inj hy ▸ IntWidth.fits_of_ofNumber hk
    · exact Reader.yields_failContent

theorem draftFits_map {α : Type} {n : ν} {f : α → Draft} {r : Option α}
    (h : ∀ a, r = some a → Fits S F n (f a)) : DraftFits S F n (r.map f) := by
  intro x hx
  obtain ⟨a, ha, rfl⟩ := Option.map_eq_some_iff.1 hx
  exact h a ha

/-! ### One round more -/

/-- Every reader yields drafts of its shape in that many rounds. -/
structure FitsBelow (S : Schema ν) (F : Flavour) (rounds : Nat) : Prop where
  value : ∀ n, (S.readAt F rounds n).Yields (DraftFits S F n)
  items : ∀ item, (S.readItems F rounds item).Yields fun ds => ∀ d ∈ ds, Fits S F item d
  members : ∀ (all ms : List (Member ν)) fields, (all.map (·.name)).Nodup → ms ⊆ all →
    FieldsFit S F all fields → (S.readMembers F rounds ms fields).Yields (FieldsFit S F all)
  variant : ∀ ms found, FoundFits S F ms found →
    (S.readVariant F rounds ms found).Yields (FoundFits S F ms)

theorem yields_finish (hS : WellFormed S) {n : ν} {d : Draft} (hd : Fits S F n d) :
    (S.finish F n d).Yields (Fits S F n) := by
  unfold finish
  split
  · split
    · next v hv => exact Reader.yields_pure (.built (hd.conforms_of_build hS hv))
    · exact Reader.yields_failContent
  · exact Reader.yields_pure hd

theorem yields_noVariant {n : ν} {members : List (Member ν)} (h : S.shape n = .union members) :
    (noVariant F).Yields (Fits S F n) := by
  unfold noVariant
  split
  · exact Reader.yields_pure (.built (.unknown rfl h))
  · exact Reader.yields_failContent

theorem draftFits_some {n : ν} {d : Draft} (h : Fits S F n d) : DraftFits S F n (some d) :=
  fun _ hx => Option.some.inj hx ▸ h

theorem draftFits_none {n : ν} : DraftFits S F n none := fun _ hx => by cases hx

theorem readAt_yields (hS : WellFormed S) {rounds : Nat} (h : FitsBelow S F rounds) (n : ν) :
    (S.readAt F (rounds + 1) n).Yields (DraftFits S F n) := by
  rw [readAt]
  split
  · next shape => exact Reader.Yields.seq fun r => Reader.yields_pure (draftFits_map fun _ _ => .text shape)
  · next shape =>
    exact Reader.Yields.seq fun r => Reader.yields_pure (draftFits_map fun _ _ => .symbol shape)
  · next shape =>
    refine yields_readInteger.bind fun r hr => Reader.yields_pure (draftFits_map fun k hk => ?_)
    exact .integer shape (hr k hk)
  · next shape =>
    exact Reader.Yields.seq fun r => Reader.yields_pure (draftFits_map fun _ _ => .boolean shape)
  · next shape => exact Reader.Yields.seq fun r => Reader.yields_pure (draftFits_map fun _ _ => .blob shape)
  · exact Reader.yields_pure draftFits_none
  · next item shape =>
    refine Reader.Yields.seq fun opens => ?_
    split
    · exact (h.items item).bind fun ds hds => Reader.yields_pure (draftFits_some (.list shape hds))
    · exact Reader.yields_pure draftFits_none
  · next members shape =>
    refine Reader.Yields.seq fun opens => ?_
    split
    · refine (h.members (S.members n) _ [] (hS.nodup n) (documentMembers_subset n)
        (fieldsFit_nil _)).bind fun fields hfields => ?_
      have hd : Fits S F n (.struct fields) := .struct shape (members_of_struct shape ▸ hfields)
      exact (yields_finish hS hd).bind fun d hd => Reader.yields_pure (draftFits_some hd)
    · exact Reader.yields_pure draftFits_none
  · next members shape =>
    refine Reader.Yields.seq fun opens => ?_
    split
    · refine (h.variant members none (fun _ _ h => by cases h)).bind fun found hfound => ?_
      split
      · next name d =>
        obtain ⟨m, hm, rfl, hfit⟩ := hfound name d rfl
        exact (yields_finish hS (.variant shape hm hfit)).bind fun d hd =>
          Reader.yields_pure (draftFits_some hd)
      · exact (yields_noVariant shape).bind fun d hd => Reader.yields_pure (draftFits_some hd)
    · exact Reader.yields_pure draftFits_none

theorem readItems_yields {rounds : Nat} (h : FitsBelow S F rounds) (item : ν) :
    (S.readItems F (rounds + 1) item).Yields fun ds => ∀ d ∈ ds, Fits S F item d := by
  rw [readItems]
  refine Reader.Yields.seq fun ahead => ?_
  split
  · exact Reader.Yields.seq fun _ => Reader.yields_pure (by simp)
  · refine (h.value item).bind fun d hd => Reader.Yields.seq fun _ => ?_
    refine (h.items item).bind fun rest hrest => Reader.yields_pure fun x hx => ?_
    cases d with
    | none => exact hrest x hx
    | some y =>
      rcases List.mem_cons.1 hx with rfl | hx
      · exact hd x rfl
      · exact hrest x hx

theorem readMembers_yields {rounds : Nat} (h : FitsBelow S F rounds) {all ms : List (Member ν)}
    {fields : List (String × Draft)} (hnd : (all.map (·.name)).Nodup) (hsub : ms ⊆ all)
    (hfit : FieldsFit S F all fields) :
    (S.readMembers F (rounds + 1) ms fields).Yields (FieldsFit S F all) := by
  rw [readMembers]
  refine Reader.Yields.seq fun t => ?_
  split
  · exact Reader.yields_pure hfit
  · refine Reader.Yields.seq fun key => ?_
    split
    · next m hm =>
      obtain ⟨hmem, rfl⟩ := memberOf?_eq_some hm
      exact (h.value m.target).bind fun d hd =>
        h.members all ms _ hnd hsub (hfit.setField hnd (hsub hmem) hd)
    · exact Reader.Yields.seq fun _ => h.members all ms fields hnd hsub hfit
  · exact Reader.yields_notWanted

theorem yields_variantValue {rounds : Nat} (h : FitsBelow S F rounds) {ms : List (Member ν)} {m : Member ν}
    (hm : m ∈ ms) {f : Option Draft → Reader (Option (String × Draft))}
    (hsome : ∀ d, f (some d) = S.readVariant F rounds ms (some (m.name, d)))
    (hnone : f none = Reader.failContent (.nullVariant m.name)) :
    (S.readAt F rounds m.target >>= f).Yields (FoundFits S F ms) := by
  refine (h.value m.target).bind fun d hd => ?_
  cases d with
  | none =>
    rw [hnone]
    exact Reader.yields_failContent
  | some d =>
    rw [hsome]
    refine h.variant ms _ fun name x hx => ?_
    cases hx
    exact ⟨m, hm, rfl, hd d rfl⟩

theorem readVariant_yields {rounds : Nat} (h : FitsBelow S F rounds) {ms : List (Member ν)}
    {found : Option (String × Draft)} (hfit : FoundFits S F ms found) :
    (S.readVariant F (rounds + 1) ms found).Yields (FoundFits S F ms) := by
  rw [readVariant]
  refine Reader.Yields.seq fun t => ?_
  split
  · exact Reader.yields_pure hfit
  · refine Reader.Yields.seq fun ahead => ?_
    split
    · exact Reader.Yields.seq fun _ => h.variant ms found hfit
    · refine Reader.Yields.seq fun key => ?_
      split
      · next m hm =>
        obtain ⟨hmem, rfl⟩ := memberOf?_eq_some hm
        split
        · exact Reader.Yields.seq fun _ => yields_variantValue h hmem (fun _ => rfl) rfl
        · exact yields_variantValue h hmem (fun _ => rfl) rfl
      · exact Reader.Yields.seq fun _ => h.variant ms found hfit
  · exact Reader.yields_notWanted

/-! ### All rounds -/

theorem fitsBelow (hS : WellFormed S) (rounds : Nat) : FitsBelow S F rounds := by
  induction rounds with
  | zero =>
    refine ⟨fun n => ?_, fun item => ?_, fun all ms fields _ _ _ => ?_, fun ms found _ => ?_⟩
    · rw [readAt]; exact Reader.yields_failWith
    · rw [readItems]; exact Reader.yields_failWith
    · rw [readMembers]; exact Reader.yields_failWith
    · rw [readVariant]; exact Reader.yields_failWith
  | succ rounds ih =>
    exact ⟨fun n => readAt_yields hS ih n, fun item => readItems_yields ih item,
      fun _ _ _ hnd hsub hfit => readMembers_yields ih hnd hsub hfit,
      fun _ _ hfit => readVariant_yields ih hfit⟩

theorem yields_read (hS : WellFormed S) (n : ν) : (S.read F n).Yields (DraftFits S F n) :=
  Reader.Yields.seq fun rounds => (fitsBelow hS rounds).value n

theorem decode_eq_ok_iff {n : ν} {text : List UInt8} {o : Option Value} {rest : Tokens} :
    S.decode F n text = .ok (o, rest) ↔
      ∃ d, S.read F n (tokenize text) = (.ok d, rest) ∧ d.map (S.build F n) = o.map .ok := by
  constructor
  · intro h
    unfold decode at h
    split at h
    · cases h
    · next more hread =>
      cases h
      exact ⟨none, hread, rfl⟩
    · next d more hread =>
      split at h
      · next v hv =>
        cases h
        exact ⟨some d, hread, congrArg some hv⟩
      · cases h
  · rintro ⟨d, hread, hbuild⟩
    rw [decode, hread]
    cases d with
    | none =>
      cases o with
      | none => rfl
      | some v => cases hbuild
    | some d =>
      cases o with
      | none => cases hbuild
      | some v =>
        have hv : S.build F n d = .ok v := Option.some.inj hbuild
        simp only [hv]

/-- **A value that is read and checked conforms to its shape**, whatever the text is. -/
theorem conforms_of_decode (hS : WellFormed S) {n : ν} {text : List UInt8} {v : Value} {rest : Tokens}
    (h : S.decode F n text = .ok (some v, rest)) : Conforms S F n v := by
  obtain ⟨o, hread, hbuild⟩ := decode_eq_ok_iff.1 h
  obtain ⟨d, rfl, hd⟩ := Option.map_eq_some_iff.1 hbuild
  have hfit : Fits S F n d := yields_read hS n _ _ _ hread d rfl
  exact hfit.conforms_of_build hS hd

end WireShapes.Schema
