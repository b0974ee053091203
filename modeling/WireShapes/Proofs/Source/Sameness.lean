import Mathlib.Data.List.Forall2
import Mathlib.Data.List.Perm.Subperm
import WireShapes.Proofs.Source.Tables

/-!
What it means that two definitions are equal: everything is, but for the order of keys and the sign of
a zero.

* `Tabled R`: tables with the same keys in whatever order, and related values under each
* `Value.Alike`, `RawMember.Alike`, `RawShape.Alike`: values, members and definitions that differ in
  the order of keys and the sign of a zero alone
* `RawShape.same_iff`: that is what is compared when definitions are merged
-/

namespace WireShapes.Source

variable {α : Type}

/-! ### Tables -/

/-- The same keys, each once and in whatever order, and related values under each. -/
structure Tabled (R : α → α → Prop) (a b : List (String × α)) : Prop where
  distinct : (a.map Prod.fst).Nodup
  keys : (a.map Prod.fst).Perm (b.map Prod.fst)
  values : ∀ key v w, (key, v) ∈ a → (key, w) ∈ b → R v w

namespace Tabled

variable {R : α → α → Prop} {a b c : List (String × α)}

theorem right_distinct (h : Tabled R a b) : (b.map Prod.fst).Nodup := h.keys.nodup_iff.1 h.distinct

theorem exists_of_mem (h : Tabled R a b) {key : String} {v : α} (hv : (key, v) ∈ a) : ∃ w, (key, w) ∈ b ∧ R v w := by
  have hkey : key ∈ b.map Prod.fst := h.keys.subset (List.mem_map.2 ⟨(key, v), hv, rfl⟩)
  obtain ⟨⟨_, w⟩, hw, rfl⟩ := List.mem_map.1 hkey
  exact ⟨w, hw, h.values _ _ _ hv hw⟩

theorem exists_of_mem_right (h : Tabled R a b) {key : String} {w : α} (hw : (key, w) ∈ b) :
    ∃ v, (key, v) ∈ a ∧ R v w := by
  have hkey : key ∈ a.map Prod.fst := h.keys.symm.subset (List.mem_map.2 ⟨(key, w), hw, rfl⟩)
  obtain ⟨⟨_, v⟩, hv, rfl⟩ := List.mem_map.1 hkey
  exact ⟨v, hv, h.values _ _ _ hv hw⟩

theorem refl {P : α → Prop} (hR : ∀ v, P v → R v v) (h : Table P a) : Tabled R a a where
  distinct := h.distinct
  keys := List.Perm.refl _
  values key v w hv hw := by
    obtain rfl : v = w := Option.some.inj ((h.mem_iff.1 hv).symm.trans (h.mem_iff.1 hw))
    exact hR v (h.each _ hv)

theorem symm (hR : ∀ v w, R v w → R w v) (h : Tabled R a b) : Tabled R b a where
  distinct := h.right_distinct
  keys := h.keys.symm
  values key v w hv hw := hR w v (h.values key w v hw hv)

theorem trans (hR : ∀ u v w, R u v → R v w → R u w) (hab : Tabled R a b) (hbc : Tabled R b c) : Tabled R a c where
  distinct := hab.distinct
  keys := hab.keys.trans hbc.keys
  values key u w hu hw := by
    obtain ⟨v, hv, huv⟩ := hab.exists_of_mem hu
    exact hR u v w huv (hbc.values key v w hv hw)

/-- A step that treats related values alike succeeds on all entries of both tables, or of neither. -/
theorem all_ok_iff {ε β : Type} {S : β → β → Prop} (h : Tabled R a b) {step : String → α → Except ε β}
    (hstep : ∀ key v w, R v w → Results.Agree S (step key v) (step key w)) :
    (∀ e ∈ a, ∃ r, step e.1 e.2 = .ok r) ↔ ∀ e ∈ b, ∃ r, step e.1 e.2 = .ok r := by
  constructor
  · intro hall e he
    obtain ⟨v, hv, hvw⟩ := h.exists_of_mem_right he
    exact (hstep e.1 v e.2 hvw).ok_iff.1 (hall _ hv)
  · intro hall e he
    obtain ⟨w, hw, hvw⟩ := h.exists_of_mem he
    exact (hstep e.1 e.2 w hvw).ok_iff.2 (hall _ hw)

theorem get? (h : Tabled R a b) (key : String) : Option.Rel R (Entries.get? key a) (Entries.get? key b) := by
  cases ha : Entries.get? key a with
  | some v =>
    obtain ⟨w, hw, hvw⟩ := h.exists_of_mem (Entries.mem_of_get? ha)
    rw [Entries.get?_of_mem h.right_distinct hw]
    exact .some hvw
  | none =>
    have hb : Entries.get? key b = none :=
      Entries.get?_eq_none_iff.2 fun hkey => Entries.get?_eq_none_iff.1 ha (h.keys.symm.subset hkey)
    rw [hb]
    exact .none

end Tabled

/-- Tables of one length are compared from one side: with distinct keys, the other has no more. -/
theorem tabled_iff {R : α → α → Prop} {a b : List (String × α)} (ha : (a.map Prod.fst).Nodup)
    (hb : (b.map Prod.fst).Nodup) :
    Tabled R a b ↔ a.length = b.length ∧ ∀ e ∈ a, ∃ w, Entries.get? e.1 b = some w ∧ R e.2 w := by
  constructor
  · intro h
    refine ⟨by simpa using h.keys.length_eq, fun e he => ?_⟩
    obtain ⟨w, hw, hR⟩ := h.exists_of_mem he
    exact ⟨w, Entries.get?_of_mem hb hw, hR⟩
  · rintro ⟨hlength, hall⟩
    refine ⟨ha, ?_, fun key v w hv hw => ?_⟩
    · have hsubset : a.map Prod.fst ⊆ b.map Prod.fst := by
        intro key hkey
        obtain ⟨e, he, rfl⟩ := List.mem_map.1 hkey
        obtain ⟨w, hw, -⟩ := hall e he
        exact List.mem_map.2 ⟨(e.1, w), Entries.mem_of_get? hw, rfl⟩
      refine (ha.subperm hsubset).perm_of_length_le ?_
      simp [hlength]
    · obtain ⟨x, hx, hvx⟩ := hall (key, v) hv
      have heq : some x = some w := hx.symm.trans (Entries.get?_of_mem hb hw)
      exact Option.some.inj heq ▸ hvx

theorem sameTable_iff {same : α → α → Bool} {R : α → α → Prop} {a b : List (String × α)}
    (ha : (a.map Prod.fst).Nodup) (hb : (b.map Prod.fst).Nodup)
    (hsame : ∀ e ∈ a, ∀ f ∈ b, (same e.2 f.2 = true ↔ R e.2 f.2)) : sameTable same a b = true ↔ Tabled R a b := by
  rw [tabled_iff ha hb, sameTable, Bool.and_eq_true, beq_iff_eq, List.all_eq_true]
  refine and_congr_right fun _ => forall₂_congr fun e he => ?_
  cases hfound : Entries.get? e.1 b with
  | none => simp
  | some w => simp [hsame e he _ (Entries.mem_of_get? hfound)]

theorem sameOption_iff {same : α → α → Bool} {R : α → α → Prop} {a b : Option α}
    (hsame : ∀ x ∈ a, ∀ y ∈ b, (same x y = true ↔ R x y)) : sameOption same a b = true ↔ Option.Rel R a b := by
  cases a with
  | none =>
    cases b with
    | none => exact ⟨fun _ => .none, fun _ => rfl⟩
    | some y => exact ⟨(nomatch ·), (nomatch ·)⟩
  | some x =>
    cases b with
    | none => exact ⟨(nomatch ·), (nomatch ·)⟩
    | some y => exact (hsame x rfl y rfl).trans ⟨.some, fun h => by cases h; assumption⟩

/-! ### Values -/

/-- Values that differ in the order of keys and the sign of a zero alone. -/
inductive Value.Alike : Value → Value → Prop
  | object {a b : List (String × Value)} (distinct : (a.map Prod.fst).Nodup)
      (keys : (a.map Prod.fst).Perm (b.map Prod.fst))
      (values : ∀ key v w, (key, v) ∈ a → (key, w) ∈ b → Alike v w) : Alike (.object a) (.object b)
  | array {a b : List Value} (length : a.length = b.length)
      (items : ∀ i (ha : i < a.length) (hb : i < b.length), Alike (a.get ⟨i, ha⟩) (b.get ⟨i, hb⟩)) :
      Alike (.array a) (.array b)
  | number {m n : Number} (same : sameNumber m n = true) : Alike (.number m) (.number n)
  | string {s : String} : Alike (.string s) (.string s)
  | bool {b : Bool} : Alike (.bool b) (.bool b)
  | null : Alike .null .null

theorem alike_object_iff {a b : List (String × Value)} :
    Value.Alike (.object a) (.object b) ↔ Tabled Value.Alike a b := by
  constructor
  · intro h
    cases h with
    | object distinct keys values => exact ⟨distinct, keys, values⟩
  · rintro ⟨distinct, keys, values⟩
    exact .object distinct keys values

theorem alike_array_iff {a b : List Value} : Value.Alike (.array a) (.array b) ↔ List.Forall₂ Value.Alike a b := by
  rw [List.forall₂_iff_get]
  constructor
  · intro h
    cases h with
    | array length items => exact ⟨length, items⟩
  · rintro ⟨length, items⟩
    exact .array length items

theorem rel_getElem? {R : α → α → Prop} {a b : List α} (h : List.Forall₂ R a b) (i : Nat) :
    Option.Rel R a[i]? b[i]? := by
  induction h generalizing i with
  | nil => exact .none
  | cons hhead _ ih =>
    cases i with
    | zero => exact .some hhead
    | succ i => exact ih i

theorem sameDouble_symm {x y : Double} (h : x.same y = true) : y.same x = true := by
  simp only [Double.same, Bool.and_eq_true, Bool.or_eq_true, beq_iff_eq] at h ⊢
  exact ⟨⟨h.1.2, h.1.1⟩, h.2.imp Eq.symm And.symm⟩

theorem sameDouble_trans {x y z : Double} (hxy : x.same y = true) (hyz : y.same z = true) : x.same z = true := by
  simp only [Double.same, Bool.and_eq_true, Bool.or_eq_true, beq_iff_eq] at hxy hyz ⊢
  refine ⟨⟨hxy.1.1, hyz.1.2⟩, ?_⟩
  rcases hxy.2 with rfl | ⟨hx, hy⟩
  · exact hyz.2
  · rcases hyz.2 with rfl | ⟨-, hz⟩
    · exact .inr ⟨hx, hy⟩
    · exact .inr ⟨hx, hz⟩

theorem sameNumber_symm {m n : Number} (h : sameNumber m n = true) : sameNumber n m = true := by
  cases m with
  | real x =>
    cases n with
    | real y => exact sameDouble_symm h
    | _ => cases h
  | _ => cases n <;> simp_all [sameNumber]

theorem sameNumber_trans {l m n : Number} (hlm : sameNumber l m = true) (hmn : sameNumber m n = true) :
    sameNumber l n = true := by
  cases l with
  | real x =>
    cases m with
    | real y =>
      cases n with
      | real z => exact sameDouble_trans hlm hmn
      | _ => cases hmn
    | _ => cases hlm
  | _ => cases m <;> cases n <;> simp_all [sameNumber]

theorem Value.Alike.refl {v : Value} (h : v.Sound) : v.Alike v := by
  induction h with
  | object distinct _ ih =>
    have htable : Table (fun v => Value.Alike v v) _ := ⟨distinct, ih⟩
    exact alike_object_iff.2 (Tabled.refl (fun _ h => h) htable)
  | array _ ih => exact .array rfl fun i _ _ => ih _ (List.get_mem _ _)
  | number same => exact .number same
  | string => exact .string
  | bool => exact .bool
  | null => exact .null

theorem Value.Alike.symm {v w : Value} (h : v.Alike w) : w.Alike v := by
  induction h with
  | object distinct keys _ ih =>
    exact .object (keys.nodup_iff.1 distinct) keys.symm fun key v w hv hw => ih key w v hw hv
  | array length _ ih => exact .array length.symm fun i ha hb => ih i hb ha
  | number same => exact .number (sameNumber_symm same)
  | string => exact .string
  | bool => exact .bool
  | null => exact .null

theorem Value.Alike.trans {u v w : Value} (huv : u.Alike v) (hvw : v.Alike w) : u.Alike w := by
  induction huv generalizing w with
  | object distinct keys _ ih =>
    cases hvw with
    | object _ keys' values' =>
      refine .object distinct (keys.trans keys') fun key x z hx hz => ?_
      have hkey := keys.subset (List.mem_map.2 ⟨(key, x), hx, rfl⟩)
      obtain ⟨⟨_, y⟩, hy, rfl⟩ := List.mem_map.1 hkey
      exact ih _ x y hx hy (values' _ y z hy hz)
  | array length _ ih =>
    cases hvw with
    | array length' items' =>
      exact .array (length.trans length') fun i ha hc => ih i ha (length ▸ ha) (items' i _ hc)
  | number same =>
    cases hvw with
    | number same' => exact .number (sameNumber_trans same same')
  | string => exact hvw
  | bool => exact hvw
  | null => exact hvw

theorem sameEntries_iff {R : Value → Value → Prop} {a b : List (String × Value)}
    (hsame : ∀ e ∈ a, ∀ f ∈ b, (Value.same e.2 f.2 = true ↔ R e.2 f.2)) :
    sameEntries a b = true ↔ ∀ e ∈ a, ∃ w, Entries.get? e.1 b = some w ∧ R e.2 w := by
  induction a with
  | nil => simp [sameEntries]
  | cons e rest ih =>
    rw [sameEntries, Bool.and_eq_true, ih fun f hf => hsame f (List.mem_cons_of_mem _ hf), List.forall_mem_cons]
    refine and_congr_left fun _ => ?_
    cases hfound : Entries.get? e.1 b with
    | none => simp
    | some w => simp [hsame e List.mem_cons_self _ (Entries.mem_of_get? hfound)]

theorem sameItems_iff {R : Value → Value → Prop} {a b : List Value}
    (hsame : ∀ v ∈ a, ∀ w ∈ b, (Value.same v w = true ↔ R v w)) : sameItems a b = true ↔ List.Forall₂ R a b := by
  induction a generalizing b with
  | nil => cases b <;> simp [sameItems]
  | cons v vs ih =>
    cases b with
    | nil => simp [sameItems]
    | cons w ws =>
      have hrest := ih fun x hx y hy => hsame x (List.mem_cons_of_mem _ hx) y (List.mem_cons_of_mem _ hy)
      rw [sameItems, Bool.and_eq_true, List.forall₂_cons, hrest, hsame v List.mem_cons_self w List.mem_cons_self]

/-- **Values are compared up to the order of keys,** if no key stands twice. -/
theorem Value.same_iff {v w : Value} (hv : v.Sound) (hw : w.Sound) : v.same w = true ↔ v.Alike w := by
  induction hv generalizing w with
  | @object a distinct _ ih =>
    cases hw with
    | @object b distinct' each' =>
      rw [alike_object_iff, tabled_iff distinct distinct', Value.same, Bool.and_eq_true, beq_iff_eq,
        sameEntries_iff fun e he f hf => ih e he (each' f hf)]
    | _ => exact ⟨fun h => by simp [Value.same] at h, fun h => nomatch h⟩
  | @array a _ ih =>
    cases hw with
    | @array b each' => rw [alike_array_iff, Value.same, sameItems_iff fun v hv w hw => ih v hv (each' w hw)]
    | _ => exact ⟨fun h => by simp [Value.same] at h, fun h => nomatch h⟩
  | number =>
    cases hw with
    | number =>
      rw [Value.same]
      exact ⟨.number, fun h => by cases h; assumption⟩
    | _ => exact ⟨fun h => by simp [Value.same] at h, fun h => nomatch h⟩
  | string =>
    cases hw with
    | string =>
      rw [Value.same, beq_iff_eq]
      exact ⟨fun h => h ▸ .string, fun h => by cases h; rfl⟩
    | _ => exact ⟨fun h => by simp [Value.same] at h, fun h => nomatch h⟩
  | bool =>
    cases hw with
    | bool =>
      rw [Value.same, beq_iff_eq]
      exact ⟨fun h => h ▸ .bool, fun h => by cases h; rfl⟩
    | _ => exact ⟨fun h => by simp [Value.same] at h, fun h => nomatch h⟩
  | null =>
    cases hw with
    | null => exact ⟨fun _ => .null, fun _ => by rw [Value.same]⟩
    | _ => exact ⟨fun h => by simp [Value.same] at h, fun h => nomatch h⟩

/-! ### Definitions -/

/-- Members with equal targets and traits that are alike. -/
structure RawMember.Alike (m n : RawMember) : Prop where
  target : m.target = n.target
  traits : Tabled Value.Alike m.traits n.traits

theorem RawMember.Alike.refl {m : RawMember} (h : m.Sound) : m.Alike m :=
  ⟨rfl, Tabled.refl (fun _ => Value.Alike.refl) h⟩

theorem RawMember.Alike.symm {m n : RawMember} (h : m.Alike n) : n.Alike m :=
  ⟨h.target.symm, h.traits.symm fun _ _ => Value.Alike.symm⟩

theorem RawMember.Alike.trans {l m n : RawMember} (hlm : l.Alike m) (hmn : m.Alike n) : l.Alike n :=
  ⟨hlm.target.trans hmn.target, hlm.traits.trans (fun _ _ _ => Value.Alike.trans) hmn.traits⟩

theorem RawMember.same_iff {m n : RawMember} (hm : m.Sound) (hn : n.Sound) : m.same n = true ↔ m.Alike n := by
  have htraits : sameTable Value.same m.traits n.traits = true ↔ Tabled Value.Alike m.traits n.traits :=
    sameTable_iff hm.distinct hn.distinct fun e he f hf => Value.same_iff (hm.each e he) (hn.each f hf)
  rw [RawMember.same, Bool.and_eq_true, beq_iff_eq, htraits]
  exact ⟨fun h => ⟨h.1, h.2⟩, fun h => ⟨h.target, h.traits⟩⟩

/-- Definitions with alike members in whatever order, alike traits in whatever order, and everything
else equal. -/
structure RawShape.Alike (s t : RawShape) : Prop where
  type : s.type = t.type
  members : Tabled RawMember.Alike s.members t.members
  member : Option.Rel RawMember.Alike s.member t.member
  key : Option.Rel RawMember.Alike s.key t.key
  value : Option.Rel RawMember.Alike s.value t.value
  input : s.input = t.input
  output : s.output = t.output
  errors : s.errors = t.errors
  operations : s.operations = t.operations
  version : s.version = t.version
  traits : Tabled Value.Alike s.traits t.traits

theorem rel_refl {R : α → α → Prop} {a : Option α} (h : ∀ x ∈ a, R x x) : Option.Rel R a a := by
  cases a with
  | none => exact .none
  | some x => exact .some (h x rfl)

theorem rel_symm {R : α → α → Prop} (hR : ∀ x y, R x y → R y x) {a b : Option α} (h : Option.Rel R a b) :
    Option.Rel R b a := by
  cases h with
  | none => exact .none
  | some h => exact .some (hR _ _ h)

theorem rel_trans {R : α → α → Prop} (hR : ∀ x y z, R x y → R y z → R x z) {a b c : Option α}
    (hab : Option.Rel R a b) (hbc : Option.Rel R b c) : Option.Rel R a c := by
  cases hab with
  | none => exact hbc
  | some hab =>
    cases hbc with
    | some hbc => exact .some (hR _ _ _ hab hbc)

theorem RawShape.Alike.refl {s : RawShape} (h : s.Sound) : s.Alike s where
  type := rfl
  members := Tabled.refl (fun _ => RawMember.Alike.refl) h.members
  member := rel_refl fun m hm => .refl (h.member m hm)
  key := rel_refl fun m hm => .refl (h.key m hm)
  value := rel_refl fun m hm => .refl (h.value m hm)
  input := rfl
  output := rfl
  errors := rfl
  operations := rfl
  version := rfl
  traits := Tabled.refl (fun _ => Value.Alike.refl) h.traits

theorem RawShape.Alike.symm {s t : RawShape} (h : s.Alike t) : t.Alike s where
  type := h.type.symm
  members := h.members.symm fun _ _ => RawMember.Alike.symm
  member := rel_symm (fun _ _ => RawMember.Alike.symm) h.member
  key := rel_symm (fun _ _ => RawMember.Alike.symm) h.key
  value := rel_symm (fun _ _ => RawMember.Alike.symm) h.value
  input := h.input.symm
  output := h.output.symm
  errors := h.errors.symm
  operations := h.operations.symm
  version := h.version.symm
  traits := h.traits.symm fun _ _ => Value.Alike.symm

theorem RawShape.Alike.trans {s t u : RawShape} (hst : s.Alike t) (htu : t.Alike u) : s.Alike u where
  type := hst.type.trans htu.type
  members := hst.members.trans (fun _ _ _ => RawMember.Alike.trans) htu.members
  member := rel_trans (fun _ _ _ h => h.trans) hst.member htu.member
  key := rel_trans (fun _ _ _ h => h.trans) hst.key htu.key
  value := rel_trans (fun _ _ _ h => h.trans) hst.value htu.value
  input := hst.input.trans htu.input
  output := hst.output.trans htu.output
  errors := hst.errors.trans htu.errors
  operations := hst.operations.trans htu.operations
  version := hst.version.trans htu.version
  traits := hst.traits.trans (fun _ _ _ => Value.Alike.trans) htu.traits

/-- **Definitions are compared up to the order of members, traits and keys.** -/
theorem RawShape.same_iff {s t : RawShape} (hs : s.Sound) (ht : t.Sound) : s.same t = true ↔ s.Alike t := by
  have hmembers : sameTable RawMember.same s.members t.members = true ↔ Tabled RawMember.Alike s.members t.members :=
    sameTable_iff hs.members.distinct ht.members.distinct fun e he f hf =>
      RawMember.same_iff (hs.members.each e he) (ht.members.each f hf)
  have htraits : sameTable Value.same s.traits t.traits = true ↔ Tabled Value.Alike s.traits t.traits :=
    sameTable_iff hs.traits.distinct ht.traits.distinct fun e he f hf =>
      Value.same_iff (hs.traits.each e he) (ht.traits.each f hf)
  have hmember := sameOption_iff fun m hm n hn => RawMember.same_iff (hs.member m hm) (ht.member n hn)
  have hkey := sameOption_iff fun m hm n hn => RawMember.same_iff (hs.key m hm) (ht.key n hn)
  have hvalue := sameOption_iff fun m hm n hn => RawMember.same_iff (hs.value m hm) (ht.value n hn)
  simp only [RawShape.same, Bool.and_eq_true, beq_iff_eq, and_assoc, hmembers, htraits, hmember, hkey, hvalue]
  constructor
  · rintro ⟨type, members, member, key, value, input, output, errors, operations, version, traits⟩
    exact ⟨type, members, member, key, value, input, output, errors, operations, version, traits⟩
  · intro h
    exact ⟨h.type, h.members, h.member, h.key, h.value, h.input, h.output, h.errors, h.operations, h.version, h.traits⟩

end WireShapes.Source
