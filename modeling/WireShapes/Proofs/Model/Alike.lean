import WireShapes.Proofs.Model.Traits

/-!
Shapes of definitions that are alike.

* `Member.Alike`, `Kind.Alike`, `Shape.Alike`: the same members in whatever order, and traits of tables
  that are alike
* `lowerShape_agree`: alike definitions make alike shapes, or both make none
-/

namespace WireShapes

open Source (Value RawMember RawShape Tabled)
open Results (Agree)

/-! ### Shapes that are alike -/

/-- Members of one name and target, with traits that are alike. -/
structure Member.Alike (m n : Member) : Prop where
  name : m.name = n.name
  target : m.target = n.target
  traits : m.traits.Alike n.traits

def byName (members : List Member) : List (String × Member) := members.map fun m => (m.name, m)

/-- Kinds that differ in the order of their members and in their traits alone. -/
inductive Kind.Alike : Kind → Kind → Prop
  | same {k : Kind} : Alike k k
  | struct {ms ns : List Member} (members : Tabled Member.Alike (byName ms) (byName ns)) : Alike (.struct ms) (.struct ns)
  | union {ms ns : List Member} (members : Tabled Member.Alike (byName ms) (byName ns)) : Alike (.union ms) (.union ns)
  | list {m n : Member} (member : m.Alike n) : Alike (.list m) (.list n)
  | map {k l m n : Member} (key : k.Alike l) (value : m.Alike n) : Alike (.map k m) (.map l n)
  | enum {ms ns : List Member} (members : Tabled Member.Alike (byName ms) (byName ns)) :
      Alike (.enum (ms.map variantOfMember)) (.enum (ns.map variantOfMember))

/-- Shapes of one id that differ in the order of their members and in their traits alone. -/
structure Shape.Alike (s t : Shape) : Prop where
  id : s.id = t.id
  kind : s.kind.Alike t.kind
  traits : s.traits.Alike t.traits

/-- Shapes that are alike refer to the same, under the same names. -/
theorem Shape.Alike.references {s t : Shape} (h : s.Alike t) {r : String × ShapeId} (hr : r ∈ t.references) :
    r ∈ s.references := by
  have hmembers {ms ns : List Member} (hms : Tabled Member.Alike (byName ms) (byName ns))
      (hr : r ∈ ns.map fun n => (n.name, n.target)) : r ∈ ms.map fun m => (m.name, m.target) := by
    obtain ⟨n, hn, rfl⟩ := List.mem_map.1 hr
    obtain ⟨m, hm, halike⟩ := hms.exists_of_mem_right (List.mem_map.2 ⟨n, hn, rfl⟩)
    obtain ⟨m', hm', heq⟩ := List.mem_map.1 hm
    obtain rfl : m' = m := congrArg Prod.snd heq
    exact List.mem_map.2 ⟨m', hm', by rw [halike.name, halike.target]⟩
  obtain ⟨id, kind, traits⟩ := s
  obtain ⟨id', kind', traits'⟩ := t
  have hkind : kind.Alike kind' := h.kind
  unfold Shape.references Shape.members at hr ⊢
  cases hkind with
  | same => exact hr
  | struct members => simpa using hmembers members (by simpa using hr)
  | union members => simpa using hmembers members (by simpa using hr)
  | list member => simpa [member.name, member.target] using hr
  | map key value => simpa [key.name, key.target, value.name, value.target] using hr
  | enum members => exact hr

/-! ### The prelude -/

theorem Traits.Alike.refl {id : ShapeId} {raw : List (String × Value)} {traits : Traits}
    (hraw : Source.Table Value.Sound raw) (h : lowerTraits id raw = .ok traits) : traits.Alike traits :=
  ⟨id, raw, raw, Tabled.refl (fun _ => Value.Alike.refl) hraw, h, h⟩

theorem simpleShape_alike (name : String) (kind : Kind) : (simpleShape name kind).Alike (simpleShape name kind) where
  id := rfl
  kind := .same
  traits := .refl (Source.table_nil _) (rfl : lowerTraits ⟨name⟩ [] = .ok {})

theorem primitiveShape_alike (name : String) (kind : Kind) {v : Value} (h : v.Sound) :
    (primitiveShape name kind v).Alike (primitiveShape name kind v) where
  id := rfl
  kind := .same
  traits := by
    have hshort : shortTraitName "default" = "default" := by decide
    have htraits : lowerTraits ⟨name⟩ [("default", v)] = .ok { default := some v } := by
      rw [lowerTraits, List.foldlM_cons, lowerTrait, hshort]
      rfl
    exact .refl ((Source.table_nil _).insert "default" h) htraits

theorem prelude_alike : ∀ s ∈ preludeShapes, s.Alike s := by
  have hzero : Value.Sound (.number (.natural 0)) := .number rfl
  have hfalse : Value.Sound (.bool false) := .bool
  unfold preludeShapes
  simp only [List.forall_mem_cons, simpleShape_alike, primitiveShape_alike _ _ hzero, primitiveShape_alike _ _ hfalse,
    true_and]
  exact fun s hs => nomatch hs

/-! ### Members -/

theorem lowerMember_agree (id : ShapeId) (name : String) {m n : RawMember} (h : m.Alike n) :
    Agree Member.Alike (lowerMember id name m) (lowerMember id name n) := by
  unfold lowerMember
  refine (lowerTraits_agree _ h.traits).bind fun traits traits' htraits => ?_
  exact .ok ⟨rfl, by rw [h.target], htraits⟩

theorem name_of_lowerMember {id : ShapeId} {name : String} {raw : RawMember} {m : Member}
    (h : lowerMember id name raw = .ok m) : m.name = name := by
  obtain ⟨_, -, h⟩ := Results.bind_eq_ok_iff.1 h
  cases h
  rfl

theorem lowerSlot_agree (id : ShapeId) (slot : String) {m n : Option RawMember} (h : Option.Rel RawMember.Alike m n) :
    Agree Member.Alike (lowerSlot id slot m) (lowerSlot id slot n) := by
  cases h with
  | none => exact .error
  | some h => exact lowerMember_agree id slot h

/-- Members are made one by one, each under the name of its definition. -/
theorem byName_of_lowerMembers {id : ShapeId} {raw : List (String × RawMember)} {members : List Member}
    (h : lowerMembers id raw = .ok members) :
    (byName members).map Prod.fst = raw.map Prod.fst ∧
      ∀ key m, (key, m) ∈ byName members → ∃ r, (key, r) ∈ raw ∧ lowerMember id key r = .ok m := by
  have hall := Results.forall₂_of_mapM h
  clear h
  induction hall with
  | nil => exact ⟨rfl, fun key m hm => nomatch hm⟩
  | @cons e m raw members hhead _ ih =>
    obtain ⟨key, r⟩ := e
    have hname : m.name = key := name_of_lowerMember hhead
    refine ⟨?_, fun key' m' hm' => ?_⟩
    · rw [byName, List.map_cons, List.map_cons, List.map_cons, hname]
      exact congrArg _ ih.1
    · rcases List.mem_cons.1 hm' with heq | hm'
      · cases heq
        exact ⟨r, hname ▸ List.mem_cons_self, hname ▸ hhead⟩
      · obtain ⟨r', hr', hlower⟩ := ih.2 key' m' hm'
        exact ⟨r', List.mem_cons_of_mem _ hr', hlower⟩

theorem lowerMembers_agree (id : ShapeId) {raw raw' : List (String × RawMember)} (h : Tabled RawMember.Alike raw raw') :
    Agree (fun ms ns => Tabled Member.Alike (byName ms) (byName ns)) (lowerMembers id raw) (lowerMembers id raw') := by
  refine Agree.of_ok_iff ?_ fun ms ns hms hns => ?_
  · unfold lowerMembers
    rw [Results.mapM_ok_iff, Results.mapM_ok_iff]
    exact h.all_ok_iff fun key r r' => lowerMember_agree id key
  · obtain ⟨hnames, hfrom⟩ := byName_of_lowerMembers hms
    obtain ⟨hnames', hfrom'⟩ := byName_of_lowerMembers hns
    refine ⟨hnames ▸ h.distinct, ?_, fun key m n hm hn => ?_⟩
    · rw [hnames, hnames']
      exact h.keys
    · obtain ⟨r, hr, hm⟩ := hfrom key m hm
      obtain ⟨r', hr', hn⟩ := hfrom' key n hn
      have hboth := lowerMember_agree id key (h.values key r r' hr hr')
      rw [hm, hn] at hboth
      cases hboth with
      | ok halike => exact halike

/-! ### Kinds and shapes -/

theorem lowerKind_agree (id : ShapeId) {raw raw' : RawShape} (h : raw.Alike raw') {traits traits' : Traits}
    (htraits : lowerTraits id raw.traits = .ok traits) (htraits' : lowerTraits id raw'.traits = .ok traits') :
    Agree (Option.Rel Kind.Alike) (lowerKind id traits raw) (lowerKind id traits' raw') := by
  have hmembers := lowerMembers_agree id h.members
  unfold lowerKind
  rw [← h.type]
  split
  -- kinds without parts
  any_goals exact .ok (.some .same)
  case h_1 => exact hmembers.map fun _ _ hms => .some (.struct hms)
  case h_2 => exact hmembers.map fun _ _ hms => .some (.union hms)
  case h_3 => exact (lowerSlot_agree id "member" h.member).map fun _ _ hm => .some (.list hm)
  case h_4 => exact (lowerSlot_agree id "member" h.member).map fun _ _ hm => .some (.list hm)
  case h_5 =>
    refine (lowerSlot_agree id "key" h.key).bind fun _ _ hkey => ?_
    exact (lowerSlot_agree id "value" h.value).bind fun _ _ hvalue => .ok (.some (.map hkey hvalue))
  case h_6 =>
    rw [get?_enumTrait_lowerTraits h.traits.distinct htraits,
      get?_enumTrait_lowerTraits h.traits.right_distinct htraits']
    have hfound := h.traits.get? enumTrait
    generalize Entries.get? enumTrait raw.traits = x at hfound
    generalize Entries.get? enumTrait raw'.traits = y at hfound
    cases hfound with
    | none => exact .ok (.some .same)
    | @some v w hvw =>
      have hvariants := steady_asVariants v w hvw
      simp only
      generalize asVariants v = vs at hvariants
      generalize asVariants w = ws at hvariants
      cases hvariants with
      | ok heq => exact heq ▸ .ok (.some .same)
      | error => exact .error
  case h_7 => exact hmembers.map fun _ _ hms => .some (.enum hms)
  case h_21 =>
    rw [h.input, h.output, h.errors]
    exact .ok (.some .same)
  case h_22 =>
    rw [h.version, h.operations]
    exact .ok (.some .same)
  case h_23 => exact .ok .none
  case h_24 => exact .ok .none
  case h_25 => exact .error

/-- **Definitions that are alike** make shapes that are alike; or neither makes one, or both are at fault. -/
theorem lowerShape_agree (id : String) {raw raw' : RawShape} (h : raw.Alike raw') :
    Agree (Option.Rel Shape.Alike) (lowerShape id raw) (lowerShape id raw') := by
  have htraits := lowerTraits_agree ⟨id⟩ h.traits
  unfold lowerShape
  generalize hleft : lowerTraits ⟨id⟩ raw.traits = x at htraits
  generalize hright : lowerTraits ⟨id⟩ raw'.traits = y at htraits
  cases htraits with
  | error => exact .error
  | ok halike =>
    refine (lowerKind_agree ⟨id⟩ h hleft hright).bind fun kind kind' hkind => ?_
    cases hkind with
    | none => exact .ok .none
    | some hkind => exact .ok (.some ⟨rfl, hkind, halike⟩)

end WireShapes
