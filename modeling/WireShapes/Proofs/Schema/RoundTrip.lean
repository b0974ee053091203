import WireShapes.Proofs.Json.Writing
import WireShapes.Proofs.Schema.Drafts
import WireShapes.Schema.Writing

/-!
What is written for a value is read as that value.

* `DocumentClass S P`: shapes that travel in documents and refer to each other only
* `Ranked S P rank`, `Conforms.depth_le`: values that are bounded in depth by their shapes
* `Value.draft F`: the draft that the side `F` reads from the text of a value
* `Conforms.build_draft`: the value is built of it again
* `Conforms.reads_draft`: it is what is read from the lexemes of the value, of which none is left
* `Conforms.decode_toJson`: the text of a value stands for the value
-/

namespace WireShapes.Schema

open Json

variable {ν : Type} {S : Schema ν} {F : Flavour}

/-- Shapes that travel in documents and refer to each other only. -/
structure DocumentClass (S : Schema ν) (P : ν → Prop) : Prop where
  member : ∀ n, P n → ∀ m ∈ S.members n, P m.target ∧ m.place ≠ .stream
  item : ∀ n item, P n → S.shape n = .list item → P item
  solid : ∀ n, P n → S.shape n ≠ .blob ∧ S.shape n ≠ .stream

/-! ### Values as nodes -/

@[simp] theorem toNode_hold (F : Flavour) (restricted : Bool) (v : Value) :
    (hold F restricted v).toNode = v.toNode := by
  rcases hold_eq F restricted v with h | h <;> rw [h]
  rw [Value.toNode]

attribute [grind =] Value.toNode itemNodes fieldNodes

theorem itemNodes_eq (items : List Value) : itemNodes items = items.map Value.toNode := by
  induction items with
  | nil => rfl
  | cons v rest ih => rw [itemNodes, ih, List.map_cons]

theorem fieldNodes_eq {fields : List (String × Value)} (h : ∀ f ∈ fields, f.2 ≠ .stream) :
    fieldNodes fields = fields.map fun f => (f.1, f.2.toNode) := by
  induction fields with
  | nil => rfl
  | cons f rest ih =>
    obtain ⟨name, v⟩ := f
    have hv : v ≠ .stream := h (name, v) (by simp)
    rw [fieldNodes, ih fun g hg => h g (by simp [hg]), List.map_cons]
    exact hv

theorem mem_fieldNodes {fields : List (String × Value)} {e : String × Node} (h : e ∈ fieldNodes fields) :
    ∃ v, (e.1, v) ∈ fields ∧ e.2 = v.toNode := by
  induction fields with
  | nil => simp [fieldNodes] at h
  | cons f rest ih =>
    obtain ⟨name, v⟩ := f
    unfold fieldNodes at h
    split at h
    · cases ‹_ :: _ = []›
    · next heq =>
      obtain ⟨w, hw, he⟩ := ih ((List.cons.inj heq).2 ▸ h)
      exact ⟨w, by simp [hw], he⟩
    · next name' v' rest' _ heq =>
      obtain ⟨hf, rfl⟩ := List.cons.inj heq
      obtain ⟨rfl, rfl⟩ := Prod.mk.inj hf
      rcases List.mem_cons.1 h with rfl | hrest
      · exact ⟨v, by simp, rfl⟩
      · obtain ⟨w, hw, he⟩ := ih hrest
        exact ⟨w, by simp [hw], he⟩

theorem get?_of_mem_fields (hS : WellFormed S) {n : ν} {members : List (Member ν)}
    {fields : List (String × Value)} (shape : S.shape n = .struct members)
    (order : (fields.map Prod.fst).Sublist (members.map (·.name))) {f : String × Value}
    (h : f ∈ fields) :
    ∃ m ∈ members, m.name = f.1 ∧ Entries.get? m.name fields = some f.2 := by
  have hnd : (members.map (·.name)).Nodup := members_of_struct shape ▸ hS.nodup n
  have hmem : f.1 ∈ members.map (·.name) := order.subset (List.mem_map.2 ⟨_, h, rfl⟩)
  obtain ⟨m, hm, hname⟩ := List.mem_map.1 hmem
  exact ⟨m, hm, hname, hname ▸ Entries.get?_of_mem (hnd.sublist order) h⟩

/-- What is written for a value has no number that is not an integer. -/
theorem Conforms.plain (hS : WellFormed S) {n : ν} {v : Value} (h : Conforms S F n v) :
    v.toNode.Plain := by
  induction h with
  | text shape form => rw [form, toNode_hold]; exact .string
  | integer shape form fits => rw [form, toNode_hold]; exact .number (Number.exact_ofInt fits)
  | boolean => exact .bool
  | blob => exact .blob
  | symbol => exact .string
  | list shape _ ih =>
    rw [Value.toNode, itemNodes_eq]
    refine .array fun x hx => ?_
    obtain ⟨v, hv, rfl⟩ := List.mem_map.1 hx
    exact ih v hv
  | struct shape order standing _ ih =>
    rw [Value.toNode]
    refine .object fun e he => ?_
    obtain ⟨v, hv, heq⟩ := mem_fieldNodes he
    obtain ⟨m, hm, -, hget⟩ := get?_of_mem_fields hS shape order hv
    exact heq ▸ ih m hm v hget
  | variant shape mem _ ih =>
    rw [Value.toNode]
    refine .object fun e he => ?_
    rw [List.mem_singleton.1 he]
    exact ih
  | unknown => exact .object fun e he => by simp at he
  | stream => exact .null

/-- Shapes that refer to shapes of a lower rank only, so that values end after as many containers. -/
structure Ranked (S : Schema ν) (P : ν → Prop) (rank : ν → Nat) : Prop where
  member : ∀ n, P n → ∀ m ∈ S.members n, P m.target ∧ rank m.target < rank n
  item : ∀ n item, P n → S.shape n = .list item → P item ∧ rank item < rank n

theorem depth_object_le {entries : List (String × Node)} {k : Nat} (h : ∀ e ∈ entries, e.2.tree.depth ≤ k) :
    (Node.object entries).tree.depth ≤ k + 1 := by
  rw [Node.tree, Tree.depth, entryTrees_eq, Nat.add_comm]
  refine Nat.add_le_add_right (entriesDepth_le fun e he => ?_) 1
  obtain ⟨f, hf, rfl⟩ := List.mem_map.1 he
  exact h f hf

/-- **A value is no deeper than the rank of its shape allows.** -/
theorem Conforms.depth_le (hS : WellFormed S) {P : ν → Prop} {rank : ν → Nat} (hR : Ranked S P rank) {n : ν}
    {v : Value} (h : Conforms S F n v) (hn : P n) : v.toNode.tree.depth ≤ rank n + 1 := by
  induction h with
  | text shape form => rw [form, toNode_hold]; exact Nat.zero_le _
  | integer shape form => rw [form, toNode_hold]; exact Nat.zero_le _
  | boolean => exact Nat.zero_le _
  | blob => exact Nat.zero_le _
  | symbol => exact Nat.zero_le _
  | list shape _ ih =>
    obtain ⟨hitem, hrank⟩ := hR.item _ _ hn shape
    rw [Value.toNode, Node.tree, Tree.depth, itemNodes_eq, itemTrees_eq, Nat.add_comm]
    refine Nat.add_le_add_right (itemsDepth_le fun t ht => ?_) 1
    obtain ⟨x, hx, rfl⟩ := List.mem_map.1 ht
    obtain ⟨v, hv, rfl⟩ := List.mem_map.1 hx
    exact Nat.le_trans (ih v hv hitem) hrank
  | struct shape order standing _ ih =>
    rw [Value.toNode]
    refine depth_object_le fun e he => ?_
    obtain ⟨v, hv, heq⟩ := mem_fieldNodes he
    obtain ⟨m, hm, -, hget⟩ := get?_of_mem_fields hS shape order hv
    obtain ⟨hmember, hrank⟩ := hR.member _ hn m (members_of_struct shape ▸ hm)
    exact heq ▸ Nat.le_trans (ih m hm v hget hmember) hrank
  | variant shape mem _ ih =>
    obtain ⟨hmember, hrank⟩ := hR.member _ hn _ (members_of_union shape ▸ mem)
    rw [Value.toNode]
    refine depth_object_le fun e he => ?_
    rw [List.mem_singleton.1 he]
    exact Nat.le_trans (ih hmember) hrank
  | unknown =>
    rw [Value.toNode]
    exact depth_object_le fun e he => by simp at he
  | stream => exact Nat.zero_le _

/-! ### Drafts of values -/

/-- What a side makes of a structure or union that is complete: a client builds it, a server leaves it
as it is. -/
def finished (F : Flavour) (d : Draft) (v : Value) : Draft :=
  match F with
  | .client => .built v
  | _ => d

mutual

/-- The draft that a side reads from the text of a value. -/
def Value.draft (F : Flavour) : Value → Draft
  | .text s => .text s
  | .integer n => .integer n
  | .boolean b => .boolean b
  | .blob bytes => .blob bytes
  | .symbol s => .text s
  | .list items => .list (itemDrafts F items)
  | .struct fields => finished F (.struct (fieldDrafts F fields)) (.struct fields)
  | .variant name v => finished F (.variant name (v.draft F)) (.variant name v)
  | .unknown => .built .unknown
  | .stream => .built .stream
  | .constrained v => v.draft F

def itemDrafts (F : Flavour) : List Value → List Draft
  | [] => []
  | v :: rest => v.draft F :: itemDrafts F rest

def fieldDrafts (F : Flavour) : List (String × Value) → List (String × Draft)
  | [] => []
  | (name, v) :: rest => (name, v.draft F) :: fieldDrafts F rest

end

attribute [grind =] Value.draft itemDrafts fieldDrafts

theorem itemDrafts_eq (items : List Value) : itemDrafts F items = items.map (Value.draft F) := by
  induction items with
  | nil => rfl
  | cons v rest ih => rw [itemDrafts, ih, List.map_cons]

theorem fieldDrafts_eq (fields : List (String × Value)) :
    fieldDrafts F fields = fields.map fun f => (f.1, f.2.draft F) := by
  induction fields with
  | nil => rfl
  | cons f rest ih => rw [fieldDrafts, ih, List.map_cons]

theorem get?_fieldDrafts (name : String) (fields : List (String × Value)) :
    Entries.get? name (fieldDrafts F fields) = (Entries.get? name fields).map (Value.draft F) := by
  rw [fieldDrafts_eq]
  exact Entries.get?_map (fun _ v => v.draft F) name fields

theorem draft_hold (G : Flavour) (restricted : Bool) (v : Value) :
    (hold G restricted v).draft F = v.draft F := by
  rcases hold_eq G restricted v with h | h <;> rw [h]
  rw [Value.draft]

theorem build_finished {n : ν} {d : Draft} {v : Value} (h : S.build F n d = .ok v) :
    S.build F n (finished F d v) = .ok v := by
  unfold finished
  split
  · rw [build]
  · exact h

/-- A structure is built of the drafts of its fields if each of its fields is. -/
theorem build_fieldDrafts (hS : WellFormed S) {n : ν} {members : List (Member ν)}
    {fields : List (String × Value)} (shape : S.shape n = .struct members)
    (order : (fields.map Prod.fst).Sublist (members.map (·.name)))
    (standing : ∀ m ∈ members, m.Standing → (Entries.get? m.name fields).isSome = true)
    (each : ∀ m ∈ members, ∀ v, Entries.get? m.name fields = some v →
      S.build F m.target (v.draft F) = .ok v) :
    S.build F n (.struct (fieldDrafts F fields)) = .ok (.struct fields) := by
  refine (build_struct_eq_ok_iff hS shape).2 ⟨fields, rfl, order, fun m hm => ⟨fun d hd => ?_,
    fun hnone => ?_⟩⟩
  · rw [get?_fieldDrafts] at hd
    obtain ⟨v, hv, rfl⟩ := Option.map_eq_some_iff.1 hd
    exact ⟨v, hv, each m hm v hv⟩
  · rw [get?_fieldDrafts, Option.map_eq_none_iff] at hnone
    -- a member that has to stand in the value would be there
    have hno : ¬m.Standing := fun h => by simpa [hnone] using standing m hm h
    rw [hnone]
    refine ⟨?_, fun h => hno (.inl h.1)⟩
    cases hd : m.default with
    | none => rfl
    | some v => exact absurd (.inr (by simp [hd])) hno

theorem build_variantDraft (hS : WellFormed S) {n : ν} {members : List (Member ν)} {m : Member ν}
    {v : Value} (shape : S.shape n = .union members) (mem : m ∈ members)
    (value : S.build F m.target (v.draft F) = .ok v) :
    S.build F n (.variant m.name (v.draft F)) = .ok (.variant m.name v) := by
  rw [build, hS.target_eq (members_of_union shape ▸ mem), value]

/-- **A value is built of the draft that is read from its text.** -/
theorem Conforms.build_draft (hS : WellFormed S) {n : ν} {v : Value} (h : Conforms S F n v) :
    S.build F n (v.draft F) = .ok v := by
  induction h with
  | text shape form admits =>
    rw [form, draft_hold, Value.draft, build, checkText_text shape]
    exact ⟨rfl, admits⟩
  | integer shape form fits inRange =>
    rw [form, draft_hold, Value.draft, build, checkInteger_integer shape]
    exact ⟨rfl, inRange⟩
  | boolean => rw [Value.draft, build]
  | blob => rw [Value.draft, build]
  | symbol shape listed =>
    rw [Value.draft, build, checkText_symbol shape]
    exact ⟨rfl, listed⟩
  | @list n item items shape _ ih =>
    rw [Value.draft, build, itemDrafts_eq]
    have hitems : S.buildItems F n 0 (items.map (Value.draft F)) = .ok items := by
      rw [buildItems_eq_ok_iff, item_of_list shape, List.map_map]
      exact List.map_congr_left ih
    rw [hitems]
    rfl
  | @struct n members fields shape order standing _ ih =>
    rw [Value.draft]
    exact build_finished (build_fieldDrafts hS shape order standing ih)
  | variant shape mem _ ih =>
    rw [Value.draft]
    exact build_finished (build_variantDraft hS shape mem ih)
  | unknown => rw [Value.draft, build]
  | stream => rw [Value.draft, build]

/-! ### Reading them -/

/-- The lexemes of a value are read as its draft. -/
def ReadsValue (S : Schema ν) (F : Flavour) (n : ν) (v : Value) : Prop :=
  ∀ rounds, 2 * v.toNode.tree.lexemes.length ≤ rounds + 1 →
    (S.readAt F rounds n).Reads v.toNode.tree.lexemes (some (v.draft F))

theorem reads_readOpening (start : Lexeme) (what : Wanted) :
    (readOpening start what).Reads [start] true := by
  refine Reader.Reads.token fun t ht => ?_
  rw [if_pos ht]
  exact Reader.reads_pure true

theorem reads_readInteger {k : Int} (h : IntWidth.w32.fits k = true) :
    readInteger.Reads [.number (Number.ofInt k)] (some k) := by
  rw [← List.append_nil [Lexeme.number _]]
  refine (Reader.reads_number _).bind ?_
  simp only [IntWidth.ofNumber_ofInt h]
  exact Reader.reads_pure (some k)

theorem reads_finish {n : ν} {d : Draft} {v : Value} (h : S.build F n d = .ok v) :
    (S.finish F n d).Reads [] (finished F d v) := by
  unfold finish finished
  cases F with
  | client => simp only [h]; exact Reader.reads_pure _
  | server => exact Reader.reads_pure d
  | internal => exact Reader.reads_pure d

theorem reads_passAbsent (d : Draft) : (passAbsent F (some d)).Reads [] () := by
  unfold passAbsent
  cases F <;> exact Reader.reads_pure ()

theorem reads_itemDrafts {item : ν} {items : List Value} (each : ∀ v ∈ items, ReadsValue S F item v)
    (rounds : Nat)
    (hrounds : 2 * ((itemLexemes (itemTrees (itemNodes items))).length + 1) ≤ rounds) :
    (S.readItems F rounds item).Reads (itemLexemes (itemTrees (itemNodes items)) ++ [.endArray])
      (itemDrafts F items) := by
  induction items generalizing rounds with
  | nil =>
    obtain ⟨rounds, rfl⟩ := Nat.exists_eq_add_one_of_ne_zero (by omega : rounds ≠ 0)
    rw [readItems]
    exact Reader.Reads.peek (Reader.Reads.next fun _ _ => Reader.reads_pure [])
  | cons v rest ih =>
    rw [itemNodes, itemTrees, itemLexemes, List.length_append] at hrounds
    obtain ⟨rounds, rfl⟩ := Nat.exists_eq_add_one_of_ne_zero (by omega : rounds ≠ 0)
    obtain ⟨x, xs, hx, hend, -⟩ := v.toNode.tree.lexemes_start
    have hpos : 0 < v.toNode.tree.lexemes.length := by simp [hx]
    have hv := each v (by simp) rounds (by omega)
    have hrest := ih (fun w hw => each w (by simp [hw])) rounds (by omega)
    have hkeep := hrest.map (keepItem (some (v.draft F)))
    have hitem := hv.bind (f := fun d => do
      passAbsent F d
      return keepItem d (← S.readItems F rounds item)) ((reads_passAbsent (v.draft F)).bind hkeep)
    rw [itemNodes, itemTrees, itemLexemes, itemDrafts, readItems, List.append_assoc]
    rw [hx, List.cons_append] at hitem ⊢
    refine Reader.Reads.peek ?_
    split
    · next heq => exact absurd (Option.some.inj heq) hend
    · exact hitem

/-- Fields that are given one after the other. -/
def giveFields (fields : List (String × Draft)) (given : List (String × Draft)) :
    List (String × Draft) :=
  given.foldl (fun fields d => setField fields d.1 (some d.2)) fields

theorem giveFields_append {fields given : List (String × Draft)}
    (h : ((fields ++ given).map Prod.fst).Nodup) : giveFields fields given = fields ++ given := by
  induction given generalizing fields with
  | nil => simp [giveFields]
  | cons d rest ih =>
    have hnot : d.1 ∉ fields.map Prod.fst := by
      rw [List.map_append, List.map_cons, List.nodup_append] at h
      exact fun hmem => h.2.2 _ hmem _ (by simp) rfl
    have hstep : giveFields fields (d :: rest) = giveFields (fields ++ [d]) rest := by
      rw [giveFields, List.foldl_cons, setField, Entries.insert_of_not_mem hnot]
      rfl
    rw [hstep, ih (by simpa using h)]
    simp

/-- The lexemes of the entries that fields are written as. -/
def fieldLexemes (fields : List (String × Value)) : List Lexeme :=
  entryLexemes (entryTrees (fields.map fun f => (f.1, f.2.toNode)))

theorem reads_fieldDrafts {members : List (Member ν)} {fields : List (String × Value)}
    (each : ∀ f ∈ fields, ∃ m, memberOf? members f.1 = some m ∧ ReadsValue S F m.target f.2)
    (rounds : Nat) (hrounds : 2 * ((fieldLexemes fields).length + 1) ≤ rounds)
    (given : List (String × Draft)) :
    (S.readMembers F rounds members given).Reads (fieldLexemes fields ++ [.endObject])
      (giveFields given (fieldDrafts F fields)) := by
  induction fields generalizing rounds given with
  | nil =>
    obtain ⟨rounds, rfl⟩ := Nat.exists_eq_add_one_of_ne_zero (by omega : rounds ≠ 0)
    rw [readMembers]
    refine Reader.Reads.token fun t ht => ?_
    rw [ht]
    exact Reader.reads_pure given
  | cons f rest ih =>
    obtain ⟨name, v⟩ := f
    obtain ⟨m, hm, hv⟩ : ∃ m, memberOf? members name = some m ∧ ReadsValue S F m.target v :=
      each (name, v) (by simp)
    have hlex : fieldLexemes ((name, v) :: rest) =
        .key (escape name) :: (v.toNode.tree.lexemes ++ fieldLexemes rest) := by
      simp only [fieldLexemes, List.map_cons, entryTrees, entryLexemes]
    rw [hlex] at hrounds ⊢
    simp only [List.length_cons, List.length_append] at hrounds
    obtain ⟨rounds, rfl⟩ := Nat.exists_eq_add_one_of_ne_zero (by omega : rounds ≠ 0)
    have hrest := ih (fun g hg => each g (by simp [hg])) rounds (by omega)
      (setField given name (some (v.draft F)))
    rw [readMembers, List.cons_append, List.append_assoc]
    refine Reader.Reads.token fun t ht => ?_
    rw [ht]
    refine (Reader.reads_unescaped name).bind ?_
    simp only [hm]
    exact (hv rounds (by omega)).bind hrest

theorem reads_variantDraft {members : List (Member ν)} {m : Member ν} {v : Value}
    (hm : memberOf? members m.name = some m) (hv : ReadsValue S F m.target v)
    (hnull : v.toNode.tree ≠ .null) (rounds : Nat)
    (hrounds : 2 * (v.toNode.tree.lexemes.length + 2) ≤ rounds) :
    (S.readVariant F rounds members none).Reads
      (.key (escape m.name) :: (v.toNode.tree.lexemes ++ [.endObject])) (some (m.name, v.draft F)) := by
  obtain ⟨rounds, rfl⟩ := Nat.exists_eq_add_one_of_ne_zero (by omega : rounds ≠ 0)
  obtain ⟨x, xs, hx, -, hxnull⟩ := v.toNode.tree.lexemes_start
  have hend : (S.readVariant F rounds members (some (m.name, v.draft F))).Reads [.endObject]
      (some (m.name, v.draft F)) := by
    obtain ⟨rounds, rfl⟩ := Nat.exists_eq_add_one_of_ne_zero (by omega : rounds ≠ 0)
    rw [readVariant]
    refine Reader.Reads.token fun t ht => ?_
    rw [ht]
    exact Reader.reads_pure _
  rw [readVariant]
  refine Reader.Reads.token fun t ht => ?_
  rw [ht, hx, List.cons_append]
  refine Reader.Reads.peek ?_
  split
  · next heq => exact absurd (hxnull (Option.some.inj heq)) hnull
  · rw [← List.cons_append, ← hx, ← List.nil_append (v.toNode.tree.lexemes ++ _)]
    refine (Reader.reads_unescaped m.name).bind ?_
    rw [hm]
    exact (hv rounds (by omega)).bind hend

theorem Conforms.tree_ne_null {n : ν} {v : Value} (h : Conforms S F n v) (hn : S.shape n ≠ .stream) :
    v.toNode.tree ≠ .null := by
  cases h with
  | text shape form => rw [form, toNode_hold, Value.toNode, Node.tree]; simp
  | integer shape form => rw [form, toNode_hold, Value.toNode, Node.tree]; simp
  | boolean => rw [Value.toNode, Node.tree]; simp
  | blob => rw [Value.toNode, Node.tree]; simp
  | symbol => rw [Value.toNode, Node.tree]; simp
  | list => rw [Value.toNode, Node.tree]; simp
  | struct => rw [Value.toNode, Node.tree]; simp
  | variant => rw [Value.toNode, Node.tree]; simp
  | unknown => rw [Value.toNode, Node.tree]; simp
  | stream shape => exact absurd shape hn

theorem Conforms.ne_stream {n : ν} {v : Value} (h : Conforms S F n v) (hn : S.shape n ≠ .stream) :
    v ≠ .stream := by
  rintro rfl
  exact h.tree_ne_null hn rfl

theorem readsValue_list {n item : ν} {items : List Value} (shape : S.shape n = .list item)
    (each : ∀ v ∈ items, ReadsValue S F item v) : ReadsValue S F n (.list items) := by
  intro rounds hrounds
  rw [Value.toNode, Node.tree, Tree.lexemes] at hrounds ⊢
  simp only [List.length_cons, List.length_append, List.length_nil] at hrounds
  obtain ⟨rounds, rfl⟩ := Nat.exists_eq_add_one_of_ne_zero (by omega : rounds ≠ 0)
  have hitems := reads_itemDrafts each rounds (by omega)
  rw [readAt, shape, Value.draft]
  exact (reads_readOpening .startArray .arrayOrNull).bind (hitems.map fun ds => some (Draft.list ds))

theorem readsValue_struct (hS : WellFormed S) {n : ν} {members : List (Member ν)}
    {fields : List (String × Value)} (shape : S.shape n = .struct members)
    (order : (fields.map Prod.fst).Sublist (members.map (·.name)))
    (placed : ∀ m ∈ members, m.place ≠ .stream) (present : ∀ f ∈ fields, f.2 ≠ .stream)
    (built : S.build F n (.struct (fieldDrafts F fields)) = .ok (.struct fields))
    (each : ∀ m ∈ members, ∀ v, Entries.get? m.name fields = some v → ReadsValue S F m.target v) :
    ReadsValue S F n (.struct fields) := by
  intro rounds hrounds
  have hdocument : S.documentMembers n = members := by
    have hmembers := members_of_struct shape
    rw [documentMembers_eq (hmembers ▸ placed), hmembers]
  have hnd : (members.map (·.name)).Nodup := members_of_struct shape ▸ hS.nodup n
  have hlex : (Value.struct fields).toNode.tree.lexemes =
      .startObject :: (fieldLexemes fields ++ [.endObject]) := by
    rw [Value.toNode, fieldNodes_eq present, Node.tree, Tree.lexemes, fieldLexemes]
  rw [hlex] at hrounds ⊢
  simp only [List.length_cons, List.length_append, List.length_nil] at hrounds
  obtain ⟨rounds, rfl⟩ := Nat.exists_eq_add_one_of_ne_zero (by omega : rounds ≠ 0)
  have hread : ∀ f ∈ fields, ∃ m, memberOf? members f.1 = some m ∧ ReadsValue S F m.target f.2 := by
    intro f hf
    obtain ⟨m, hm, hname, hget⟩ := get?_of_mem_fields hS shape order hf
    exact ⟨m, hname ▸ find_member hnd hm, each m hm f.2 hget⟩
  have hfields := reads_fieldDrafts hread rounds (by omega) []
  have hnames : (([] ++ fieldDrafts F fields).map Prod.fst).Nodup := by
    rw [List.nil_append, fieldDrafts_eq, List.map_map]
    exact hnd.sublist order
  rw [giveFields_append hnames, List.nil_append] at hfields
  have hall := hfields.bind (f := fun ds => do return some (← S.finish F n (.struct ds)))
    ((reads_finish built).map some)
  rw [List.append_nil] at hall
  rw [readAt, shape, Value.draft]
  refine (reads_readOpening .startObject .objectOrNull).bind ?_
  rw [if_pos rfl, hdocument]
  exact hall

theorem readsValue_variant {n : ν} {members : List (Member ν)} {m : Member ν} {v : Value}
    (hS : WellFormed S) (shape : S.shape n = .union members) (mem : m ∈ members)
    (hnull : v.toNode.tree ≠ .null) (built : S.build F n (.variant m.name (v.draft F)) = .ok (.variant m.name v))
    (value : ReadsValue S F m.target v) : ReadsValue S F n (.variant m.name v) := by
  intro rounds hrounds
  have hnd : (members.map (·.name)).Nodup := members_of_union shape ▸ hS.nodup n
  have hlex : (Value.variant m.name v).toNode.tree.lexemes =
      .startObject :: (.key (escape m.name) :: (v.toNode.tree.lexemes ++ [.endObject])) := by
    simp [Value.toNode, Node.tree, entryTrees, Tree.lexemes, entryLexemes]
  rw [hlex] at hrounds ⊢
  simp only [List.length_cons, List.length_append, List.length_nil] at hrounds
  obtain ⟨rounds, rfl⟩ := Nat.exists_eq_add_one_of_ne_zero (by omega : rounds ≠ 0)
  have hvariant := reads_variantDraft (find_member hnd mem) value hnull rounds (by omega)
  rw [readAt, shape, Value.draft]
  refine (reads_readOpening .startObject .objectOrNull).bind ?_
  rw [if_pos rfl, ← List.append_nil (Lexeme.key _ :: _)]
  exact hvariant.bind ((reads_finish built).map some)

theorem readsValue_unknown {n : ν} {members : List (Member ν)} (shape : S.shape n = .union members) :
    ReadsValue S .client n .unknown := by
  intro rounds hrounds
  rw [Value.toNode, Node.tree, entryTrees, Tree.lexemes, entryLexemes] at hrounds ⊢
  simp only [List.length_cons, List.length_append, List.length_nil] at hrounds
  obtain ⟨rounds, rfl⟩ := Nat.exists_eq_add_one_of_ne_zero (by omega : rounds ≠ 0)
  have hend : (S.readVariant .client rounds members none).Reads [.endObject] none := by
    obtain ⟨rounds, rfl⟩ := Nat.exists_eq_add_one_of_ne_zero (by omega : rounds ≠ 0)
    rw [readVariant]
    refine Reader.Reads.token fun t ht => ?_
    rw [ht]
    exact Reader.reads_pure none
  rw [readAt, shape, Value.draft]
  refine (reads_readOpening .startObject .objectOrNull).bind ?_
  rw [if_pos rfl]
  exact hend.bind (Reader.reads_pure (some (Draft.built .unknown)))

theorem readsValue_simple {α : Type} {n : ν} {v : Value} {x : Lexeme} {r : Reader (Option α)} {a : α}
    {f : α → Draft} (lexemes : v.toNode.tree.lexemes = [x]) (draft : v.draft F = f a)
    (reader : ∀ rounds, S.readAt F (rounds + 1) n = do return (← r).map f) (h : r.Reads [x] (some a)) :
    ReadsValue S F n v := by
  intro rounds hrounds
  rw [lexemes, List.length_singleton] at hrounds
  obtain ⟨rounds, rfl⟩ := Nat.exists_eq_add_one_of_ne_zero (by omega : rounds ≠ 0)
  rw [lexemes, draft, reader]
  exact h.map (Option.map f)

theorem readsValue_text {n : ν} {rule : TextRule} (shape : S.shape n = .text rule) (s : String) :
    ReadsValue S F n (.text s) :=
  readsValue_simple (f := Draft.text) rfl rfl (fun _ => by rw [readAt, shape]) (Reader.reads_string s)

/-- How a side holds a value does not show in its text. -/
theorem ReadsValue.hold {n : ν} {v : Value} (h : ReadsValue S F n v) (G : Flavour) (restricted : Bool) :
    ReadsValue S F n (Schema.hold G restricted v) := by
  unfold ReadsValue
  rw [toNode_hold, draft_hold]
  exact h

/-- **From the lexemes of a value its draft is read**, and nothing of what comes after them. -/
theorem Conforms.reads_draft (hS : WellFormed S) {P : ν → Prop} (hP : DocumentClass S P) {n : ν}
    {v : Value} (h : Conforms S F n v) (hn : P n) : ReadsValue S F n v := by
  induction h with
  | @text _ _ s _ shape form => exact form ▸ (readsValue_text shape s).hold _ _
  | @integer _ _ k _ shape form fits =>
    have hk : ReadsValue S F _ (.integer k) := readsValue_simple (f := Draft.integer) rfl rfl
      (fun _ => by rw [readAt, shape]) (reads_readInteger fits)
    exact form ▸ hk.hold _ _
  | @boolean _ b shape =>
    exact readsValue_simple (f := Draft.boolean) rfl rfl (fun _ => by rw [readAt, shape])
      (Reader.reads_bool b)
  | blob shape => exact absurd shape (hP.solid _ hn).1
  | @symbol _ _ s shape =>
    exact readsValue_simple (f := Draft.text) rfl rfl (fun _ => by rw [readAt, shape])
      (Reader.reads_string s)
  | list shape _ ih => exact readsValue_list shape fun v hv => ih v hv (hP.item _ _ hn shape)
  | struct shape order standing each ih =>
    have hclass := fun m hm => hP.member _ hn m (members_of_struct shape ▸ hm)
    refine readsValue_struct hS shape order (fun m hm => (hclass m hm).2) (fun f hf => ?_) ?_
      fun m hm v hv => ih m hm v hv (hclass m hm).1
    · obtain ⟨m, hm, -, hget⟩ := get?_of_mem_fields hS shape order hf
      exact (each m hm _ hget).ne_stream (hP.solid _ (hclass m hm).1).2
    · exact build_fieldDrafts hS shape order standing fun m hm v hv => (each m hm v hv).build_draft hS
  | variant shape mem value ih =>
    have hm := hP.member _ hn _ (members_of_union shape ▸ mem)
    exact readsValue_variant hS shape mem (value.tree_ne_null (hP.solid _ hm.1).2)
      (build_variantDraft hS shape mem (value.build_draft hS)) (ih hm.1)
  | unknown client shape => exact client ▸ readsValue_unknown shape
  | stream shape => exact absurd shape (hP.solid _ hn).2

/-- **The text of a value stands for the value**, and nothing of the text is left. -/
theorem Conforms.decode_toJson (hS : WellFormed S) {P : ν → Prop} (hP : DocumentClass S P) {n : ν}
    {v : Value} (h : Conforms S F n v) (hn : P n) (hdepth : v.toNode.tree.depth ≤ maxDepth) :
    S.decode F n (Utf8.encode v.toJson) = .ok (some v, []) := by
  obtain ⟨toks, hlex, htoks⟩ := tokenize_write (h.plain hS) hdepth
  have hread : (S.read F n).Reads v.toNode.tree.lexemes (some (v.draft F)) :=
    Reader.Reads.rounds fun rounds hrounds => h.reads_draft hS hP hn rounds (by omega)
  have htokens := hread toks [] hlex
  rw [List.append_nil] at htokens
  rw [decode, Value.toJson, htoks, htokens]
  simp only [h.build_draft hS]

end WireShapes.Schema
