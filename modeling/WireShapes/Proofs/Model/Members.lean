import WireShapes.Proofs.Model.Merging

/-!
A member is the one of its name.

* `Shape.MembersDistinct`, `Model.MembersDistinct`: no two members of a shape have one name
* `membersDistinct_loadModel`, `unboxed_loadModel`: models that were loaded are so, and none of their members is boxed
* `members_normalizeOperations`: filling the slots of operations touches no members
* `Model.boxMarked`: the first member of each of some names is boxed, one after the other
* `boxMarked_eq_boxRecursive`, `prepare_loadModel`: hence members may be boxed by their names, in whatever order
-/

namespace WireShapes

open Source (RawMember RawModel RawShape)

/-- No two members have one name. -/
def Shape.MembersDistinct (s : Shape) : Prop := (s.members.map Member.name).Nodup

def Model.MembersDistinct (m : Model) : Prop := ∀ s ∈ m.shapes, s.MembersDistinct

/-- A member of a name is the only one. -/
theorem Shape.MembersDistinct.eq_of_name {s : Shape} (h : s.MembersDistinct) {member other : Member}
    (hmember : member ∈ s.members) (hother : other ∈ s.members) (hname : member.name = other.name) :
    member = other :=
  List.inj_on_of_nodup_map h hmember hother hname

theorem Shape.MembersDistinct.of_eq_nil {s : Shape} (h : s.members = []) : s.MembersDistinct := by
  rw [Shape.MembersDistinct, h]
  exact List.nodup_nil

/-! ### Loading -/

section Loading

variable {id : ShapeId} {traits : Traits} {raw : RawShape} {s : Shape}

theorem names_of_lowerMembers {raw : List (String × RawMember)} {members : List Member}
    (h : lowerMembers id raw = .ok members) : members.map Member.name = raw.map Prod.fst := by
  have hnames := (byName_of_lowerMembers h).1
  rw [byName, List.map_map] at hnames
  exact hnames

theorem boxed_of_lowerMember {name : String} {raw : RawMember} {member : Member}
    (h : lowerMember id name raw = .ok member) : member.traits.boxed = false := by
  obtain ⟨traits, htraits, h⟩ := Results.bind_eq_ok_iff.1 h
  cases h
  exact boxed_lowerTraits htraits

theorem boxed_of_lowerMembers {raw : List (String × RawMember)} {members : List Member}
    (h : lowerMembers id raw = .ok members) : ∀ member ∈ members, member.traits.boxed = false := by
  intro member hmember
  obtain ⟨e, -, hlower⟩ := Results.exists_of_mem_mapM h hmember
  exact boxed_of_lowerMember hlower

theorem exists_of_lowerSlot {slot : String} {raw : Option RawMember} {member : Member}
    (h : lowerSlot id slot raw = .ok member) : ∃ r, lowerMember id slot r = .ok member := by
  cases raw with
  | none => cases h
  | some r => exact ⟨r, h⟩

/-- Members come from the definition, or are the one or two of a collection. -/
theorem members_of_lowerKind (h : lowerKind id traits raw = .ok (some s.kind)) :
    s.members = [] ∨ lowerMembers id raw.members = .ok s.members ∨
      (∃ member r, s.members = [member] ∧ lowerMember id "member" r = .ok member) ∨
      ∃ key value k v, s.members = [key, value] ∧ lowerMember id "key" k = .ok key ∧
        lowerMember id "value" v = .ok value := by
  obtain ⟨sid, kind, straits⟩ := s
  unfold lowerKind at h
  split at h
  -- structures and unions, then lists and sets, then maps
  case h_1 | h_2 =>
    obtain ⟨members, hmembers, hkind⟩ := Results.map_eq_ok_iff.1 h
    cases hkind
    exact .inr (.inl hmembers)
  case h_3 | h_4 =>
    obtain ⟨member, hslot, hkind⟩ := Results.map_eq_ok_iff.1 h
    cases hkind
    obtain ⟨r, hlower⟩ := exists_of_lowerSlot hslot
    exact .inr (.inr (.inl ⟨member, r, rfl, hlower⟩))
  case h_5 =>
    obtain ⟨key, hkey, h⟩ := Results.bind_eq_ok_iff.1 h
    obtain ⟨value, hvalue, h⟩ := Results.bind_eq_ok_iff.1 h
    cases h
    obtain ⟨k, hkey⟩ := exists_of_lowerSlot hkey
    obtain ⟨v, hvalue⟩ := exists_of_lowerSlot hvalue
    exact .inr (.inr (.inr ⟨key, value, k, v, rfl, hkey, hvalue⟩))
  -- strings and enumerations: what stands in the definition becomes variants
  case h_6 =>
    left
    split at h
    · cases h
      rfl
    · split at h
      · cases h
        rfl
      · cases h
  case h_7 =>
    left
    obtain ⟨members, -, hkind⟩ := Results.map_eq_ok_iff.1 h
    cases hkind
    rfl
  -- definitions that make no shape, and kinds without members
  case h_23 | h_24 | h_25 => cases h
  all_goals
    cases h
    exact .inl rfl

theorem membersDistinct_of_lowerKind (hraw : raw.Sound) (h : lowerKind id traits raw = .ok (some s.kind)) :
    s.MembersDistinct := by
  rcases members_of_lowerKind h with hnone | hall | ⟨member, r, hone, -⟩ | ⟨key, value, k, v, htwo, hkey, hvalue⟩
  · exact .of_eq_nil hnone
  · rw [Shape.MembersDistinct, names_of_lowerMembers hall]
    exact hraw.members.distinct
  · rw [Shape.MembersDistinct, hone]
    exact List.nodup_singleton _
  · rw [Shape.MembersDistinct, htwo, List.map_cons, List.map_singleton, name_of_lowerMember hkey,
      name_of_lowerMember hvalue]
    decide

theorem boxed_of_lowerKind (h : lowerKind id traits raw = .ok (some s.kind)) :
    ∀ member ∈ s.members, member.traits.boxed = false := by
  rcases members_of_lowerKind h with hnone | hall | ⟨member, r, hone, hlower⟩ | ⟨key, value, k, v, htwo, hkey, hvalue⟩
  · rw [hnone]
    exact List.forall_mem_nil _
  · exact boxed_of_lowerMembers hall
  · rw [hone, List.forall_mem_singleton]
    exact boxed_of_lowerMember hlower
  · rw [htwo, List.forall_mem_cons, List.forall_mem_singleton]
    exact ⟨boxed_of_lowerMember hkey, boxed_of_lowerMember hvalue⟩

theorem exists_of_lowerShape {key : String} (h : lowerShape key raw = .ok (some s)) :
    ∃ traits, lowerKind ⟨key⟩ traits raw = .ok (some s.kind) := by
  obtain ⟨traits, -, h⟩ := Results.bind_eq_ok_iff.1 h
  obtain ⟨kind, hkind, h⟩ := Results.bind_eq_ok_iff.1 h
  obtain ⟨k, rfl, rfl⟩ := Option.map_eq_some_iff.1 (Except.ok.inj h)
  exact ⟨traits, hkind⟩

theorem mem_place {shapes : List Shape} {shape : Shape} (h : s ∈ Model.place shape shapes) :
    s = shape ∨ s ∈ shapes := by
  induction shapes with
  | nil => exact .inl (List.mem_singleton.1 h)
  | cons first rest ih =>
    unfold Model.place at h
    split at h
    · exact (List.mem_cons.1 h).imp_right (List.mem_cons_of_mem first)
    · rcases List.mem_cons.1 h with rfl | h
      · exact .inr List.mem_cons_self
      · exact (ih h).imp_right (List.mem_cons_of_mem first)

/-- **What a model is made of**: shapes of the prelude, and those that the definitions make. -/
theorem mem_lowerAll {raw : List (String × RawShape)} {m : Model} (h : lowerAll raw = .ok m) :
    ∀ s ∈ m.shapes, s ∈ preludeShapes ∨ ∃ e ∈ raw, lowerShape e.1 e.2 = .ok (some s) := by
  refine Results.invariant_foldlM (P := fun m : Model =>
    ∀ s ∈ m.shapes, s ∈ preludeShapes ∨ ∃ e ∈ raw, lowerShape e.1 e.2 = .ok (some s)) ?_ (fun s hs => .inl hs) h
  intro e he m m' hm hstep s hs
  obtain ⟨lowered, hlower, hstep⟩ := Results.bind_eq_ok_iff.1 hstep
  cases lowered with
  | none =>
    cases hstep
    exact hm s hs
  | some shape =>
    cases hstep
    rcases mem_place hs with rfl | hs
    · exact .inr ⟨e, he, hlower⟩
    · exact hm s hs

theorem members_prelude : ∀ s ∈ preludeShapes, s.members = [] := by decide

theorem allSound_mergeDocuments {docs : List RawModel} {merged : List (String × RawShape)}
    (hdocs : AllSound (definitions docs)) (h : mergeDocuments docs = .ok merged) : AllSound merged :=
  Results.invariant_foldlM (P := AllSound) (fun e he _ _ hmerged hstep => sound_mergeShape hmerged (hdocs e he) hstep)
    (fun _ he => absurd he List.not_mem_nil) h

variable {sources : List SourceText} {m : Model}

/-- A shape of a model that was loaded has no members, or is made of a sound definition. -/
theorem exists_of_mem_loadModel (h : loadModel sources = .ok m) (hs : s ∈ m.shapes) :
    s.members = [] ∨ ∃ id traits raw, raw.Sound ∧ lowerKind id traits raw = .ok (some s.kind) := by
  obtain ⟨docs, hparse, hassemble⟩ := Results.bind_eq_ok_iff.1 h
  obtain ⟨merged, hmerge, hlower, -⟩ := Model.assemble_eq_ok_iff.1 hassemble
  have hdocs : ∀ d ∈ docs, ∃ source, parseDocument source = .ok d := by
    intro d hd
    obtain ⟨source, -, hsource⟩ := Results.exists_of_mem_mapM hparse hd
    exact ⟨source, hsource⟩
  have hsound := allSound_mergeDocuments (allSound_of_parse hdocs) hmerge
  rcases mem_lowerAll hlower s hs with hprelude | ⟨e, he, hshape⟩
  · exact .inl (members_prelude s hprelude)
  · obtain ⟨traits, hkind⟩ := exists_of_lowerShape hshape
    exact .inr ⟨_, traits, e.2, hsound e he, hkind⟩

/-- **A model that was loaded has distinct members**, since the keys of a definition are. -/
theorem membersDistinct_loadModel (h : loadModel sources = .ok m) : m.MembersDistinct := by
  intro s hs
  rcases exists_of_mem_loadModel h hs with hnone | ⟨id, traits, raw, hraw, hkind⟩
  · exact .of_eq_nil hnone
  · exact membersDistinct_of_lowerKind hraw hkind

/-- **No member of a model that was loaded is boxed.** -/
theorem unboxed_loadModel (h : loadModel sources = .ok m) : m.Unboxed := by
  intro s hs
  rcases exists_of_mem_loadModel h hs with hnone | ⟨id, traits, raw, -, hkind⟩
  · rw [hnone]
    exact List.forall_mem_nil _
  · exact boxed_of_lowerKind hkind

end Loading

/-! ### Filling slots -/

namespace Model

variable {m m' : Model}

theorem members_putSlots (id : ShapeId) (input output : Option ShapeId) (s : Shape) :
    (putSlots id input output s).members = s.members := by
  by_cases hop : s.id = id ∧ ∃ op, s.kind = .operation op
  · obtain ⟨hid, op, hop⟩ := hop
    rw [putSlots_of_operation hid hop]
    simp only [Shape.members, hop]
  · rw [putSlots_eq_self hop]

/-- Filling the slots of operations touches no members, and what comes in has none. -/
theorem members_normalizeOperations (h : m.normalizeOperations = .ok m') {s' : Shape} (hs' : s' ∈ m'.shapes) :
    s'.members = [] ∨ ∃ s ∈ m.shapes, s'.members = s.members := by
  revert s'
  refine Results.invariant_foldlM (P := fun m' : Model =>
    ∀ {s' : Shape}, s' ∈ m'.shapes → s'.members = [] ∨ ∃ s ∈ m.shapes, s'.members = s.members) ?_
    (fun {s} hs => .inr ⟨s, hs, rfl⟩) h
  intro e _ middle next hmiddle hstep s' hs'
  obtain ⟨input, output, grown, ⟨added, hgrown, hadded⟩, hshapes, -⟩ := normalizeOperation_exact hstep
  rw [hshapes] at hs'
  obtain ⟨s, hs, rfl⟩ := List.mem_map.1 hs'
  rw [members_putSlots]
  rw [hgrown] at hs
  rcases List.mem_append.1 hs with hs | hs
  · exact hmiddle hs
  · rcases (hadded s hs).2 with ⟨-, rfl⟩ | ⟨-, rfl⟩ <;> exact .inl rfl

theorem MembersDistinct.normalizeOperations (hm : m.MembersDistinct) (h : m.normalizeOperations = .ok m') :
    m'.MembersDistinct := by
  intro s' hs'
  rcases members_normalizeOperations h hs' with hnone | ⟨s, hs, hsame⟩
  · exact .of_eq_nil hnone
  · rw [Shape.MembersDistinct, hsame]
    exact hm s hs

theorem Unboxed.normalizeOperations (hm : m.Unboxed) (h : m.normalizeOperations = .ok m') : m'.Unboxed := by
  intro s' hs'
  rcases members_normalizeOperations h hs' with hnone | ⟨s, hs, hsame⟩
  · rw [hnone]
    exact List.forall_mem_nil _
  · rw [hsame]
    exact hm s hs

end Model

/-! ### Boxing by name -/

/-- The member behind a pointer. -/
def Member.box (member : Member) : Member := { member with traits := { member.traits with boxed := true } }

/-- Members of which the first one of the name is boxed. -/
def boxFirst (name : String) : List Member → List Member
  | [] => []
  | member :: rest => if member.name = name then member.box :: rest else member :: boxFirst name rest

/-- The first member of a name is the only one, where names are distinct. -/
theorem boxFirst_eq_map {name : String} {members : List Member} (h : (members.map Member.name).Nodup) :
    boxFirst name members = members.map fun member => if member.name = name then member.box else member := by
  induction members with
  | nil => rfl
  | cons member rest ih =>
    rw [List.map_cons, List.nodup_cons] at h
    rw [boxFirst, List.map_cons]
    by_cases hname : member.name = name
    · have hrest : rest.map (fun other => if other.name = name then other.box else other) = rest := by
        refine (List.map_congr_left fun other hother => if_neg fun heq => ?_).trans (List.map_id rest)
        exact h.1 (hname.trans heq.symm ▸ List.mem_map_of_mem hother)
      rw [if_pos hname, if_pos hname, hrest]
    · rw [if_neg hname, if_neg hname, ih h.2]

theorem names_boxFirst (name : String) (members : List Member) :
    (boxFirst name members).map Member.name = members.map Member.name := by
  induction members with
  | nil => rfl
  | cons member rest ih =>
    unfold boxFirst
    split
    · rfl
    · rw [List.map_cons, ih, List.map_cons]

namespace Shape

/-- The shape with the members of a structure or union changed. -/
def mapMembers (f : List Member → List Member) (s : Shape) : Shape :=
  match s.kind with
  | .struct members => { s with kind := .struct (f members) }
  | .union members => { s with kind := .union (f members) }
  | _ => s

variable {f g : List Member → List Member} {s : Shape}

@[simp] theorem id_mapMembers (f : List Member → List Member) (s : Shape) : (s.mapMembers f).id = s.id := by
  unfold mapMembers
  split <;> rfl

theorem mapMembers_id (s : Shape) : s.mapMembers (fun members => members) = s := by
  obtain ⟨id, kind, traits⟩ := s
  cases kind <;> rfl

theorem mapMembers_mapMembers (f g : List Member → List Member) (s : Shape) :
    (s.mapMembers f).mapMembers g = s.mapMembers fun members => g (f members) := by
  obtain ⟨id, kind, traits⟩ := s
  cases kind <;> rfl

/-- Only what becomes of the members of the shape counts. -/
theorem mapMembers_congr (h : f s.members = g s.members) : s.mapMembers f = s.mapMembers g := by
  obtain ⟨id, kind, traits⟩ := s
  cases kind with
  | struct members => exact congrArg (fun members => (⟨id, .struct members, traits⟩ : Shape)) h
  | union members => exact congrArg (fun members => (⟨id, .union members, traits⟩ : Shape)) h
  | _ => rfl

theorem MembersDistinct.mapMembers (hs : s.MembersDistinct)
    (h : (f s.members).map Member.name = s.members.map Member.name) : (s.mapMembers f).MembersDistinct := by
  obtain ⟨id, kind, traits⟩ := s
  unfold MembersDistinct at hs ⊢
  cases kind with
  | struct members =>
    rw [← h] at hs
    exact hs
  | union members =>
    rw [← h] at hs
    exact hs
  | _ => exact hs

end Shape

namespace Model

variable {m m' : Model} {marks : List (ShapeId × String)}

/-- The model with members boxed one after the other: in the shape of the id, the first one of the name. -/
def boxMarked (m : Model) (marks : List (ShapeId × String)) : Model :=
  marks.foldl (fun m mark => m.modify mark.1 (Shape.mapMembers (boxFirst mark.2))) m

/-- The members that close a cycle of inline storage, by the ids of their shapes and their names. -/
def cycleMarks (m : Model) : List (ShapeId × String) :=
  m.shapes.flatMap fun s => (s.members.filter (m.closesCycle s.id)).map fun member => (s.id, member.name)

/-- A member of the shape of the id, boxed if it is marked. -/
def markMember (marks : List (ShapeId × String)) (id : ShapeId) (member : Member) : Member :=
  if (id, member.name) ∈ marks then member.box else member

theorem markMember_cons_of_ne {id : ShapeId} {member : Member} {mark : ShapeId × String}
    (h : (id, member.name) ≠ mark) : markMember (mark :: marks) id member = markMember marks id member := by
  simp only [markMember, List.mem_cons, h, false_or]

/-- Whether the box comes first or last makes no difference. -/
theorem map_markMember_boxFirst {members : List Member} (h : (members.map Member.name).Nodup) (id : ShapeId)
    (name : String) :
    (boxFirst name members).map (markMember marks id) = members.map (markMember ((id, name) :: marks) id) := by
  rw [boxFirst_eq_map h, List.map_map]
  refine List.map_congr_left fun member _ => ?_
  show markMember marks id (if member.name = name then member.box else member) = _
  by_cases hname : member.name = name
  · rw [if_pos hname, markMember, markMember, hname, if_pos List.mem_cons_self]
    split <;> rfl
  · have hother : (id, member.name) ≠ (id, name) := fun h => hname (congrArg Prod.snd h)
    rw [if_neg hname, markMember_cons_of_ne hother]

theorem MembersDistinct.modify (hm : m.MembersDistinct) (id : ShapeId) (name : String) :
    (m.modify id (Shape.mapMembers (boxFirst name))).MembersDistinct := by
  intro s' hs'
  obtain ⟨s, hs, rfl⟩ := List.mem_map.1 hs'
  split
  · exact (hm s hs).mapMembers (names_boxFirst name s.members)
  · exact hm s hs

/-- What the marks come to, one after the other, is that each member is boxed that is marked. -/
theorem shapes_boxMarked (hm : m.MembersDistinct) (marks : List (ShapeId × String)) :
    (m.boxMarked marks).shapes = m.shapes.map fun s => s.mapMembers (List.map (markMember marks s.id)) := by
  induction marks generalizing m with
  | nil =>
    refine ((List.map_congr_left fun s _ => ?_).trans (List.map_id m.shapes)).symm
    refine (Shape.mapMembers_congr ?_).trans s.mapMembers_id
    exact (List.map_congr_left fun member _ => if_neg List.not_mem_nil).trans (List.map_id _)
  | cons mark rest ih =>
    obtain ⟨id, name⟩ := mark
    show ((m.modify id (Shape.mapMembers (boxFirst name))).boxMarked rest).shapes = _
    rw [ih (hm.modify id name), modify, List.map_map]
    refine List.map_congr_left fun s hs => ?_
    rw [Function.comp_apply]
    by_cases hid : s.id = id
    · subst hid
      rw [if_pos rfl, Shape.id_mapMembers, Shape.mapMembers_mapMembers]
      exact Shape.mapMembers_congr (map_markMember_boxFirst (hm s hs) s.id name)
    · rw [if_neg hid]
      refine Shape.mapMembers_congr (List.map_congr_left fun member _ => ?_)
      exact (markMember_cons_of_ne fun heq => hid (congrArg Prod.fst heq)).symm

theorem mem_cycleMarks_iff (hshapes : m.Distinct) (hmembers : m.MembersDistinct) {s : Shape} (hs : s ∈ m.shapes)
    {member : Member} (hmember : member ∈ s.members) :
    (s.id, member.name) ∈ m.cycleMarks ↔ m.closesCycle s.id member = true := by
  unfold cycleMarks
  simp only [List.mem_flatMap, List.mem_map, List.mem_filter, Prod.mk.injEq]
  constructor
  · rintro ⟨s', hs', member', ⟨hmember', hcloses⟩, hid, hname⟩
    obtain rfl : s' = s := List.inj_on_of_nodup_map hshapes hs' hs hid
    obtain rfl : member' = member := (hmembers s' hs').eq_of_name hmember' hmember hname
    exact hcloses
  · exact fun hcloses => ⟨s, hs, member, ⟨hmember, hcloses⟩, rfl, rfl⟩

/-- **Members may be boxed by their names.** To box, for each name of a member that closes a cycle, the first
member of the name, in whatever order, is to box the members that close one. -/
theorem boxMarked_eq_boxRecursive (hshapes : m.Distinct) (hmembers : m.MembersDistinct)
    (hmarks : ∀ mark, mark ∈ marks ↔ mark ∈ m.cycleMarks) : m.boxMarked marks = m.boxRecursive := by
  have hsame : (m.boxMarked marks).shapes = m.boxRecursive.shapes := by
    rw [shapes_boxMarked hmembers, boxRecursive_eq]
    refine List.map_congr_left fun s hs => ?_
    refine Shape.mapMembers_congr (g := m.boxMembers s.id) (List.map_congr_left fun member hmember => ?_)
    have hmark := (hmarks _).trans (mem_cycleMarks_iff hshapes hmembers hs hmember)
    by_cases hcloses : m.closesCycle s.id member = true
    · rw [markMember, if_pos (hmark.2 hcloses), if_pos hcloses]
      rfl
    · rw [markMember, if_neg (mt hmark.1 hcloses), if_neg hcloses]
  exact congrArg Model.mk hsame

theorem MembersDistinct.boxRecursive (hm : m.MembersDistinct) : m.boxRecursive.MembersDistinct := by
  intro s' hs'
  rw [boxRecursive_eq] at hs'
  obtain ⟨s, hs, rfl⟩ := List.mem_map.1 hs'
  refine (hm s hs).mapMembers (f := m.boxMembers s.id) ?_
  rw [boxMembers_eq, List.map_map]
  exact List.map_congr_left fun member _ => name_boxMember s.id member

end Model

/-- **How a model that was loaded is prepared.** No member is boxed when the slots of its operations are filled;
the first members of the names that close a cycle are boxed then; and names are distinct also in the end. -/
theorem prepare_loadModel {sources : List SourceText} {m m' : Model} (h : loadModel sources = .ok m)
    (hprepare : m.prepare = .ok m') :
    m'.MembersDistinct ∧ ∃ normal, m.normalizeOperations = .ok normal ∧ normal.Unboxed ∧
      ∀ marks, (∀ mark, mark ∈ marks ↔ mark ∈ normal.cycleMarks) → normal.boxMarked marks = m' := by
  unfold Model.prepare at hprepare
  obtain ⟨normal, hnormal, hprepare⟩ := Results.bind_eq_ok_iff.1 hprepare
  cases hprepare
  have hshapes := Model.distinct_normalizeOperations (distinct_loadModel h) hnormal
  have hmembers := (membersDistinct_loadModel h).normalizeOperations hnormal
  refine ⟨hmembers.boxRecursive, normal, hnormal, (unboxed_loadModel h).normalizeOperations hnormal, ?_⟩
  exact fun marks hmarks => Model.boxMarked_eq_boxRecursive hshapes hmembers hmarks

end WireShapes
