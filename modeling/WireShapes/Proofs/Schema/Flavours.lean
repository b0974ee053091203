import WireShapes.Proofs.Schema.RoundTrip

/-!
The same value on both sides of the wire.

* `Value.bare`: a value without the types that only checked values have
* `Conforms.bare`: what a server holds is, so stripped, what a client holds
* `Conforms.bare_of_build`: what a server builds of the value of a client is that value
* `Conforms.toNode_bare`: and both write the same
-/

namespace WireShapes.Schema

open Json

variable {ν : Type} {S : Schema ν} {F : Flavour}

mutual

/-- A value without the types that only checked values have. -/
def Value.bare : Value → Value
  | .list items => .list (bareItems items)
  | .struct fields => .struct (bareFields fields)
  | .variant name v => .variant name v.bare
  | .constrained v => v.bare
  | .text s => .text s
  | .integer n => .integer n
  | .boolean b => .boolean b
  | .blob bytes => .blob bytes
  | .symbol s => .symbol s
  | .unknown => .unknown
  | .stream => .stream

def bareItems : List Value → List Value
  | [] => []
  | v :: rest => v.bare :: bareItems rest

def bareFields : List (String × Value) → List (String × Value)
  | [] => []
  | (name, v) :: rest => (name, v.bare) :: bareFields rest

end

attribute [grind =] Value.bare bareItems bareFields

theorem bareItems_eq (items : List Value) : bareItems items = items.map Value.bare := by
  induction items with
  | nil => rfl
  | cons v rest ih => rw [bareItems, ih, List.map_cons]

theorem bareFields_eq (fields : List (String × Value)) :
    bareFields fields = fields.map fun f => (f.1, f.2.bare) := by
  induction fields with
  | nil => rfl
  | cons f rest ih => rw [bareFields, ih, List.map_cons]

theorem names_bareFields (fields : List (String × Value)) :
    (bareFields fields).map Prod.fst = fields.map Prod.fst := by
  rw [bareFields_eq, List.map_map]
  rfl

theorem get?_bareFields (name : String) (fields : List (String × Value)) :
    Entries.get? name (bareFields fields) = (Entries.get? name fields).map Value.bare := by
  rw [bareFields_eq]
  exact Entries.get?_map (fun _ v => v.bare) name fields

theorem bare_hold (F : Flavour) (restricted : Bool) (v : Value) :
    (hold F restricted v).bare = v.bare := by
  rcases hold_eq F restricted v with h | h <;> rw [h]
  rw [Value.bare]

theorem hold_client (restricted : Bool) (v : Value) : hold .client restricted v = v := rfl

/-- **What either side holds is, without the types of checked values, what a client holds.** -/
theorem Conforms.bare {n : ν} {v : Value} (h : Conforms S F n v) : Conforms S .client n v.bare := by
  induction h with
  | text shape form =>
    rw [form, bare_hold, Value.bare]
    exact .text shape (hold_client _ _).symm fun h => by cases h
  | integer shape form fits =>
    rw [form, bare_hold, Value.bare]
    exact .integer shape (hold_client _ _).symm fits fun h => by cases h
  | boolean shape => exact .boolean shape
  | blob shape => exact .blob shape
  | symbol shape => exact .symbol shape fun h => by cases h
  | list shape _ ih =>
    rw [Value.bare, bareItems_eq]
    refine .list shape fun w hw => ?_
    obtain ⟨v, hv, rfl⟩ := List.mem_map.1 hw
    exact ih v hv
  | struct shape order standing _ ih =>
    rw [Value.bare]
    refine .struct shape (by rw [names_bareFields]; exact order) (fun m hm hst => ?_) fun m hm w hw => ?_
    · rw [get?_bareFields, Option.isSome_map]
      exact standing m hm hst
    · rw [get?_bareFields] at hw
      obtain ⟨v, hv, rfl⟩ := Option.map_eq_some_iff.1 hw
      exact ih m hm v hv
  | variant shape mem _ ih => exact .variant shape mem ih
  | unknown _ shape => exact .unknown rfl shape
  | stream shape => exact .stream shape

theorem Conforms.bare_eq (hS : WellFormed S) {n : ν} {v : Value} (h : Conforms S .client n v) : v.bare = v := by
  induction h with
  | text shape form => rw [form, hold_client, Value.bare]
  | integer shape form => rw [form, hold_client, Value.bare]
  | boolean => rfl
  | blob => rfl
  | symbol => rfl
  | list shape _ ih =>
    rw [Value.bare, bareItems_eq, Value.list.injEq]
    exact (List.map_congr_left ih).trans (List.map_id _)
  | struct shape order standing _ ih =>
    rw [Value.bare, bareFields_eq, Value.struct.injEq]
    refine (List.map_congr_left fun f hf => ?_).trans (List.map_id _)
    obtain ⟨m, hm, -, hget⟩ := get?_of_mem_fields hS shape order hf
    rw [ih m hm _ hget]
    rfl
  | variant shape mem _ ih => rw [Value.bare, ih]
  | unknown => rfl
  | stream => rfl

theorem finished_of_checks (hF : F.checks = true) (d : Draft) (v : Value) : finished F d v = d := by
  cases F with
  | client => cases hF
  | server => rfl
  | internal => rfl

/-- **What a server builds of the value of a client is that value**, in the types of checked values. -/
theorem Conforms.bare_of_build (hS : WellFormed S) (hF : F.checks = true) {n : ν} {v w : Value}
    (h : Conforms S .client n v) (hw : S.build F n (v.draft F) = .ok w) : w.bare = v := by
  induction h generalizing w with
  | text shape form =>
    rw [form, hold_client, Value.draft, build, checkText_text shape] at hw
    rw [hw.1, bare_hold, form, hold_client, Value.bare]
  | integer shape form =>
    rw [form, hold_client, Value.draft, build, checkInteger_integer shape] at hw
    rw [hw.1, bare_hold, form, hold_client, Value.bare]
  | boolean => rw [Value.draft, build, Except.ok.injEq] at hw; rw [← hw, Value.bare]
  | blob => rw [Value.draft, build, Except.ok.injEq] at hw; rw [← hw, Value.bare]
  | symbol shape =>
    rw [Value.draft, build, checkText_symbol shape] at hw
    rw [hw.1, Value.bare]
  | @list n item items shape _ ih =>
    rw [Value.draft, build, itemDrafts_eq, Results.map_eq_ok_iff] at hw
    obtain ⟨values, hvalues, rfl⟩ := hw
    rw [buildItems_eq_ok_iff, item_of_list shape, List.map_map] at hvalues
    rw [Value.bare, bareItems_eq, Value.list.injEq]
    refine List.ext_getElem? fun i => ?_
    have hi := congrArg (·[i]?) hvalues
    simp only [List.getElem?_map] at hi ⊢
    cases hv : items[i]? with
    | none =>
      rw [hv, Option.map_none, eq_comm, Option.map_eq_none_iff] at hi
      rw [hi, Option.map_none]
    | some v =>
      rw [hv, Option.map_some] at hi
      obtain ⟨w, hw, hbuilt⟩ := Option.map_eq_some_iff.1 hi.symm
      rw [hw, Option.map_some, ih v (List.mem_of_getElem? hv) hbuilt.symm]
  | @struct n members fields shape order standing _ ih =>
    rw [Value.draft, finished_of_checks hF, build_struct_eq_ok_iff hS shape] at hw
    obtain ⟨values, rfl, hsub, hall⟩ := hw
    have hnd : (members.map (·.name)).Nodup := members_of_struct shape ▸ hS.nodup n
    have hget : ∀ m ∈ members, Entries.get? m.name (bareFields values) = Entries.get? m.name fields := by
      intro m hm
      rw [get?_bareFields]
      cases hu : Entries.get? m.name fields with
      | some u =>
        obtain ⟨w, hw, hbuilt⟩ := (hall m hm).1 (u.draft F) (by rw [get?_fieldDrafts, hu, Option.map_some])
        rw [hw, Option.map_some, ih m hm u hu hbuilt]
      | none =>
        have hdefault := ((hall m hm).2 (by rw [get?_fieldDrafts, hu, Option.map_none])).1
        -- a member with a default would be there
        have hnone : m.default = none := by
          cases hd : m.default with
          | none => rfl
          | some d => simpa [hu] using standing m hm (.inr (by simp [hd]))
        rw [hdefault, hnone, Option.map_none]
    have hbare : ((bareFields values).map Prod.fst).Sublist (members.map (·.name)) := by
      rw [names_bareFields]
      exact hsub
    rw [Value.bare, Value.struct.injEq]
    refine (Entries.eq_filterMap_of_sublist hnd hbare).trans
      (.trans (List.filterMap_congr fun name hname => ?_) (Entries.eq_filterMap_of_sublist hnd order).symm)
    obtain ⟨m, hm, rfl⟩ := List.mem_map.1 hname
    rw [hget m hm]
  | @variant n members m v shape mem _ ih =>
    rw [Value.draft, finished_of_checks hF, build, hS.target_eq (members_of_union shape ▸ mem)] at hw
    split at hw
    · next u hu => rw [← Except.ok.inj hw, Value.bare, ih hu]
    · cases hw
  | unknown => rw [Value.draft, build, Except.ok.injEq] at hw; rw [← hw, Value.bare]
  | stream => rw [Value.draft, build, Except.ok.injEq] at hw; rw [← hw, Value.bare]

theorem toNode_struct_bare {fields : List (String × Value)} (solid : ∀ f ∈ fields, f.2 ≠ .stream)
    (bareSolid : ∀ f ∈ fields, f.2.bare ≠ .stream) (each : ∀ f ∈ fields, f.2.bare.toNode = f.2.toNode) :
    (Value.struct fields).bare.toNode = (Value.struct fields).toNode := by
  have hb : ∀ f ∈ bareFields fields, f.2 ≠ .stream := by
    rw [bareFields_eq]
    intro f hf
    obtain ⟨g, hg, rfl⟩ := List.mem_map.1 hf
    exact bareSolid g hg
  rw [Value.bare, Value.toNode, Value.toNode, fieldNodes_eq solid, fieldNodes_eq hb, bareFields_eq,
    List.map_map]
  congr 1
  exact List.map_congr_left fun f hf => congrArg (f.1, ·) (each f hf)

/-- **Both sides write the same for it.** -/
theorem Conforms.toNode_bare (hS : WellFormed S) {P : ν → Prop} (hP : DocumentClass S P) {n : ν}
    {v : Value} (h : Conforms S F n v) (hn : P n) : v.bare.toNode = v.toNode := by
  induction h with
  | text shape form => rw [form, bare_hold, toNode_hold, Value.bare]
  | integer shape form => rw [form, bare_hold, toNode_hold, Value.bare]
  | boolean => rfl
  | blob => rfl
  | symbol => rfl
  | list shape _ ih =>
    rw [Value.bare, Value.toNode, Value.toNode, bareItems_eq, itemNodes_eq, itemNodes_eq, List.map_map]
    congr 1
    exact List.map_congr_left fun v hv => ih v hv (hP.item _ _ hn shape)
  | @struct n members fields shape order standing each ih =>
    -- every field is one of a member, so that none is a stream and each is written alike
    have hfield : ∀ f ∈ fields, ∃ m, Conforms S F m f.2 ∧ P m ∧ f.2.bare.toNode = f.2.toNode := by
      intro f hf
      obtain ⟨m, hm, -, hget⟩ := get?_of_mem_fields hS shape order hf
      have hclass := hP.member _ hn m (members_of_struct shape ▸ hm)
      exact ⟨m.target, each m hm _ hget, hclass.1, ih m hm _ hget hclass.1⟩
    refine toNode_struct_bare (fun f hf => ?_) (fun f hf => ?_) fun f hf => (hfield f hf).choose_spec.2.2
    · obtain ⟨m, hconf, hm, -⟩ := hfield f hf
      exact hconf.ne_stream (hP.solid _ hm).2
    · obtain ⟨m, hconf, hm, -⟩ := hfield f hf
      exact hconf.bare.ne_stream (hP.solid _ hm).2
  | variant shape mem _ ih =>
    rw [Value.bare, Value.toNode, Value.toNode, ih (hP.member _ hn _ (members_of_union shape ▸ mem)).1]
  | unknown => rfl
  | stream => rfl

theorem plain_bare : ∀ v : Value, v.bare.plain = v.plain
  | .constrained v => by rw [Value.bare, plain_bare v, Value.plain]
  | .list _ => rfl
  | .struct _ => rfl
  | .variant _ _ => rfl
  | .text _ => rfl
  | .integer _ => rfl
  | .boolean _ => rfl
  | .blob _ => rfl
  | .symbol _ => rfl
  | .unknown => rfl
  | .stream => rfl

end WireShapes.Schema
