import Mathlib.Data.List.Nodup
import WireShapes.Proofs.Entries
import WireShapes.Proofs.Results
import WireShapes.Proofs.Source.Numbers
import WireShapes.Source.Ast

/-!
Documents that were decoded have every key once, and their numbers equal themselves.

* `Table P`: entries with distinct keys, and `P` holds of their values
* `Value.Sound`, `RawShape.Sound`, `RawModel.Sound`: there are only such tables in a value, a
  definition, a document
* `Gives P`: whatever a decoder reads has the property; one lemma for each way to put decoders together
* `gives_shape`, `gives_model`: the tables of definitions and documents
* `sound_of_decode`: hence what is decoded is sound
-/

namespace WireShapes.Source

variable {α σ : Type}

/-! ### Tables -/

/-- Every key stands once, and the property holds of all values. -/
structure Table (P : α → Prop) (entries : List (String × α)) : Prop where
  distinct : (entries.map Prod.fst).Nodup
  each : ∀ e ∈ entries, P e.2

theorem table_nil (P : α → Prop) : Table P [] := ⟨List.nodup_nil, fun _ he => absurd he List.not_mem_nil⟩

theorem Table.insert {P : α → Prop} {entries : List (String × α)} (h : Table P entries) (key : String) {v : α} (hv : P v) :
    Table P (Entries.insert key v entries) := by
  constructor
  · exact Entries.nodup_insert h.distinct
  · intro e he
    rcases Entries.mem_insert he with rfl | he
    · exact hv
    · exact h.each e he

/-- In a table, what stands under a key is what is found under it. -/
theorem Table.mem_iff {P : α → Prop} {entries : List (String × α)} (h : Table P entries) {key : String} {v : α} :
    (key, v) ∈ entries ↔ Entries.get? key entries = some v :=
  ⟨Entries.get?_of_mem h.distinct, Entries.mem_of_get?⟩

/-- No object in the value has a key twice, and every number equals itself. -/
inductive Value.Sound : Value → Prop
  | object {entries : List (String × Value)} (distinct : (entries.map Prod.fst).Nodup)
      (each : ∀ e ∈ entries, Sound e.2) : Sound (.object entries)
  | array {items : List Value} (each : ∀ v ∈ items, Sound v) : Sound (.array items)
  | number {n : Number} (same : sameNumber n n = true) : Sound (.number n)
  | string {s : String} : Sound (.string s)
  | bool {b : Bool} : Sound (.bool b)
  | null : Sound .null

def RawMember.Sound (m : RawMember) : Prop := Table Value.Sound m.traits

/-- No table of a definition has a key twice, and all values are sound. -/
structure RawShape.Sound (s : RawShape) : Prop where
  members : Table RawMember.Sound s.members
  member : ∀ m ∈ s.member, m.Sound
  key : ∀ m ∈ s.key, m.Sound
  value : ∀ m ∈ s.value, m.Sound
  traits : Table Value.Sound s.traits

/-- No table of a document has a key twice, and all values are sound. -/
def RawModel.Sound (d : RawModel) : Prop := Table RawShape.Sound d.shapes

/-! ### Decoders -/

/-- Whatever the decoder reads has the property. -/
def Gives (P : α → Prop) (decoder : Decoder α) : Prop :=
  ∀ here cs v rest, decoder here cs = .ok (v, rest) → P v

theorem Gives.trivial (decoder : Decoder α) : Gives (fun _ => True) decoder := fun _ _ _ _ _ => True.intro

theorem orFail_eq_ok {path : Path} {result : Option α} {v : α} : orFail path result = .ok v ↔ result = some v := by
  cases result <;> simp [orFail]

theorem enter_eq_ok {here : Place} {k : Except Path α} {v : α} (h : enter here k = .ok v) : k = .ok v := by
  unfold enter at h
  split at h
  · cases h
  · exact h

theorem Gives.optional {P : α → Prop} {decoder : Decoder α} (h : Gives P decoder) :
    Gives (fun v : Option α => ∀ a ∈ v, P a) (optional decoder) := by
  intro here cs v rest hv
  unfold Source.optional at hv
  split at hv
  · obtain ⟨r, -, heq⟩ := Option.map_eq_some_iff.1 (orFail_eq_ok.1 hv)
    cases heq
    simp
  · obtain ⟨r, hr, heq⟩ := Results.map_eq_ok_iff.1 hv
    cases heq
    intro a ha
    obtain rfl := Option.some.inj ha
    exact h _ _ _ _ hr

theorem Gives.itemsFrom {P : α → Prop} {decoder : Decoder α} (h : Gives P decoder) (here : Place) (rounds i : Nat) :
    Gives (fun items : List α => ∀ v ∈ items, P v) (itemsFrom decoder here rounds i) := by
  induction rounds generalizing i with
  | zero =>
    intro _ _ _ _ hv
    cases hv
  | succ rounds ih =>
    intro _ cs items rest hv
    unfold Source.itemsFrom at hv
    obtain ⟨⟨more, cs⟩, -, hv⟩ := Results.bind_eq_ok_iff.1 hv
    cases more with
    | false =>
      cases hv
      exact fun v hv => absurd hv List.not_mem_nil
    | true =>
      obtain ⟨⟨item, cs⟩, hitem, hv⟩ := Results.bind_eq_ok_iff.1 hv
      obtain ⟨⟨others, cs⟩, hothers, hv⟩ := Results.bind_eq_ok_iff.1 hv
      cases hv
      exact List.forall_mem_cons.2 ⟨h _ _ _ _ hitem, ih (i + 1) _ _ _ _ hothers⟩

theorem Gives.items {P : α → Prop} {decoder : Decoder α} (h : Gives P decoder) :
    Gives (fun items : List α => ∀ v ∈ items, P v) (items decoder) := by
  intro here cs items rest hv
  unfold Source.items at hv
  split at hv
  · obtain ⟨⟨list, cs⟩, hlist, hv⟩ := Results.bind_eq_ok_iff.1 (enter_eq_ok hv)
    obtain ⟨cs, -, hv⟩ := Results.bind_eq_ok_iff.1 hv
    cases hv
    exact h.itemsFrom _ _ _ _ _ _ _ hlist
  · cases hv

theorem Gives.tableFrom {P : α → Prop} {decoder : Decoder α} (h : Gives P decoder) {here : Place} {rounds : Nat}
    {first : Bool} {entries after : List (String × α)} {cs rest : List Char} (hentries : Table P entries)
    (hafter : tableFrom decoder here rounds first entries cs = .ok (after, rest)) : Table P after := by
  induction rounds generalizing first entries cs with
  | zero => cases hafter
  | succ rounds ih =>
    unfold Source.tableFrom at hafter
    obtain ⟨⟨key, cs⟩, -, hafter⟩ := Results.bind_eq_ok_iff.1 hafter
    cases key with
    | none =>
      cases hafter
      exact hentries
    | some key =>
      obtain ⟨cs, -, hafter⟩ := Results.bind_eq_ok_iff.1 hafter
      obtain ⟨⟨v, cs⟩, hv, hafter⟩ := Results.bind_eq_ok_iff.1 hafter
      exact ih (hentries.insert key (h _ _ _ _ hv)) hafter

/-- **A map has every key once,** whatever its text repeats. -/
theorem Gives.table {P : α → Prop} {decoder : Decoder α} (h : Gives P decoder) : Gives (Table P) (table decoder) := by
  intro here cs entries rest hv
  unfold Source.table at hv
  split at hv
  · exact h.tableFrom (table_nil P) (enter_eq_ok hv)
  · cases hv

theorem gives_valueIn (depth : Nat) : Gives Value.Sound (valueIn depth) := by
  induction depth with
  | zero =>
    intro _ _ _ _ hv
    cases hv
  | succ depth ih =>
    intro here cs v rest hv
    unfold valueIn at hv
    split at hv
    · obtain ⟨r, -, heq⟩ := Option.map_eq_some_iff.1 (orFail_eq_ok.1 hv)
      cases heq
      exact .null
    · obtain ⟨r, -, heq⟩ := Option.map_eq_some_iff.1 (orFail_eq_ok.1 hv)
      cases heq
      exact .bool
    · obtain ⟨r, -, heq⟩ := Option.map_eq_some_iff.1 (orFail_eq_ok.1 hv)
      cases heq
      exact .bool
    · obtain ⟨r, -, heq⟩ := Option.map_eq_some_iff.1 (orFail_eq_ok.1 hv)
      cases heq
      exact .string
    · obtain ⟨r, hr, heq⟩ := Results.map_eq_ok_iff.1 hv
      cases heq
      exact .array (ih.items _ _ _ _ hr)
    · obtain ⟨r, hr, heq⟩ := Results.map_eq_ok_iff.1 hv
      cases heq
      have htable := ih.table _ _ _ _ hr
      exact .object htable.distinct htable.each
    · obtain ⟨r, hr, heq⟩ := Option.map_eq_some_iff.1 (orFail_eq_ok.1 hv)
      cases heq
      exact .number (sameNumber_of_takeNumber? hr)

theorem gives_value : Gives Value.Sound value := fun here cs v rest hv => gives_valueIn _ here cs v rest hv

/-! ### Records -/

/-- The field keeps a property of the record that is put together. -/
def Field.Keeps (I : σ → Prop) (field : Field σ) : Prop := ∀ s, I s → Gives I (field.read s)

theorem keeps_field {I : σ → Prop} {P : α → Prop} {decoder : Decoder α} (h : Gives P decoder) {name : String}
    {get : σ → Option α} {put : σ → α → σ} {trailing : Bool} (hput : ∀ s v, I s → P v → I (put s v)) :
    (field name get put decoder trailing).Keeps I := by
  intro s hs here cs v rest hv
  obtain ⟨r, hr, heq⟩ := Results.map_eq_ok_iff.1 hv
  cases heq
  exact hput _ _ hs (h _ _ _ _ hr)

section Record

variable {I : σ → Prop} {fields : List (Field σ)} (hfields : ∀ field ∈ fields, field.Keeps I)
include hfields

theorem keeps_fieldsFrom {strict : Bool} {here : Place} {rounds : Nat} {first : Bool} {s after : σ} {cs rest : List Char}
    (hs : I s) (h : fieldsFrom fields strict here rounds first s cs = .ok (after, rest)) : I after := by
  induction rounds generalizing first s cs with
  | zero => cases h
  | succ rounds ih =>
    unfold fieldsFrom at h
    obtain ⟨⟨key, cs⟩, -, h⟩ := Results.bind_eq_ok_iff.1 h
    cases key with
    | none =>
      cases h
      exact hs
    | some key =>
      dsimp only at h
      split at h
      · next field hfield =>
        split at h
        · cases h
        · obtain ⟨cs, -, h⟩ := Results.bind_eq_ok_iff.1 h
          obtain ⟨⟨next, cs⟩, hnext, h⟩ := Results.bind_eq_ok_iff.1 h
          exact ih (hfields field (List.mem_of_find?_eq_some hfield) s hs _ _ _ _ hnext) h
      · split at h
        · cases h
        · obtain ⟨cs, -, h⟩ := Results.bind_eq_ok_iff.1 h
          obtain ⟨⟨_, cs⟩, -, h⟩ := Results.bind_eq_ok_iff.1 h
          exact ih hs h

theorem keeps_positionsFrom {here : Place} {i : Nat} {s after : σ} {cs rest : List Char} (hs : I s)
    (h : positionsFrom here fields i s cs = .ok (after, rest)) : I after := by
  induction fields generalizing i s cs with
  | nil =>
    cases h
    exact hs
  | cons field more ih =>
    have hmore := fun f hf => hfields f (List.mem_cons_of_mem _ hf)
    unfold positionsFrom at h
    obtain ⟨⟨found, cs⟩, -, h⟩ := Results.bind_eq_ok_iff.1 h
    cases found with
    | true =>
      obtain ⟨⟨next, cs⟩, hnext, h⟩ := Results.bind_eq_ok_iff.1 h
      exact ih hmore (hfields field List.mem_cons_self s hs _ _ _ _ hnext) h
    | false =>
      simp only [Bool.false_eq_true, if_false] at h
      split at h
      · exact ih hmore hs h
      · cases h

/-- **A record is put together field by field,** so that it has what every field keeps. -/
theorem gives_record {P : α → Prop} {strict : Bool} {start : σ} {finish : σ → Option α} (hstart : I start)
    (hfinish : ∀ s a, I s → finish s = some a → P a) : Gives P (record fields strict start finish) := by
  intro here cs v rest hv
  unfold record at hv
  split at hv
  · obtain ⟨⟨s, cs⟩, hs, hv⟩ := Results.bind_eq_ok_iff.1 (enter_eq_ok hv)
    obtain ⟨made, hmade, hv⟩ := Results.bind_eq_ok_iff.1 hv
    cases hv
    exact hfinish s _ (keeps_fieldsFrom hfields hstart hs) (orFail_eq_ok.1 hmade)
  · obtain ⟨⟨s, cs⟩, hs, hv⟩ := Results.bind_eq_ok_iff.1 (enter_eq_ok hv)
    obtain ⟨cs, -, hv⟩ := Results.bind_eq_ok_iff.1 hv
    obtain ⟨made, hmade, hv⟩ := Results.bind_eq_ok_iff.1 hv
    cases hv
    exact hfinish s _ (keeps_positionsFrom hfields hstart hs) (orFail_eq_ok.1 hmade)
  · cases hv

end Record

/-! ### Documents -/

theorem gives_member : Gives RawMember.Sound member := by
  refine gives_record (I := fun p => ∀ traits ∈ p.traits, Table Value.Sound traits) ?_ (by simp) ?_
  · intro field hfield
    simp only [List.mem_cons, List.not_mem_nil, or_false] at hfield
    rcases hfield with rfl | rfl
    · exact keeps_field (Gives.trivial text) fun _ _ hs _ => hs
    · refine keeps_field gives_value.table fun _ _ _ htraits => ?_
      simpa using htraits
  · intro p m hp hm
    obtain ⟨target, -, rfl⟩ := Option.map_eq_some_iff.1 hm
    show Table Value.Sound (p.traits.getD [])
    cases htraits : p.traits with
    | none => exact table_nil _
    | some traits => exact hp traits htraits

/-- No table among the parts has a key twice, and all values are sound. -/
structure ShapeParts.Sound (p : ShapeParts) : Prop where
  members : ∀ members ∈ p.members, Table RawMember.Sound members
  member : ∀ slot ∈ p.member, ∀ m ∈ slot, m.Sound
  key : ∀ slot ∈ p.key, ∀ m ∈ slot, m.Sound
  value : ∀ slot ∈ p.value, ∀ m ∈ slot, m.Sound
  traits : ∀ traits ∈ p.traits, Table Value.Sound traits

theorem ShapeParts.Sound.finish {p : ShapeParts} (hp : p.Sound) {s : RawShape} (h : p.finish = some s) : s.Sound := by
  obtain ⟨type, -, rfl⟩ := Option.map_eq_some_iff.1 h
  have htable {α : Type} {P : α → Prop} {part : Option (List (String × α))} (hpart : ∀ t ∈ part, Table P t) :
      Table P (part.getD []) := by
    cases part with
    | none => exact table_nil P
    | some t => exact hpart t rfl
  have hslot {part : Option (Option RawMember)} (hpart : ∀ slot ∈ part, ∀ m ∈ slot, m.Sound) :
      ∀ m ∈ part.getD none, m.Sound := by
    cases part with
    | none => exact fun m hm => nomatch hm
    | some slot => exact hpart slot rfl
  exact ⟨htable hp.members, hslot hp.member, hslot hp.key, hslot hp.value, htable hp.traits⟩

theorem gives_shape : Gives RawShape.Sound shape := by
  refine gives_record (I := ShapeParts.Sound) ?_ (by constructor <;> simp) fun _ _ hp h => hp.finish h
  intro field hfield
  simp only [List.mem_cons, List.not_mem_nil, or_false] at hfield
  rcases hfield with rfl | rfl | rfl | rfl | rfl | rfl | rfl | rfl | rfl | rfl | rfl
  · exact keeps_field (Gives.trivial _) fun _ _ hp _ => { hp with }
  · exact keeps_field gives_member.table fun _ _ hp hv => { hp with members := by simpa using hv }
  · exact keeps_field gives_member.optional fun _ _ hp hv => { hp with member := by simpa using hv }
  · exact keeps_field gives_member.optional fun _ _ hp hv => { hp with key := by simpa using hv }
  · exact keeps_field gives_member.optional fun _ _ hp hv => { hp with value := by simpa using hv }
  · exact keeps_field (Gives.trivial _) fun _ _ hp _ => { hp with }
  · exact keeps_field (Gives.trivial _) fun _ _ hp _ => { hp with }
  · exact keeps_field (Gives.trivial _) fun _ _ hp _ => { hp with }
  · exact keeps_field (Gives.trivial _) fun _ _ hp _ => { hp with }
  · exact keeps_field (Gives.trivial _) fun _ _ hp _ => { hp with }
  · exact keeps_field gives_value.table fun _ _ hp hv => { hp with traits := by simpa using hv }

theorem gives_model : Gives RawModel.Sound model := by
  refine gives_record (I := fun p => ∀ shapes ∈ p.shapes, Table RawShape.Sound shapes) ?_ (by simp) ?_
  · intro field hfield
    simp only [List.mem_cons, List.not_mem_nil, or_false] at hfield
    rcases hfield with rfl | rfl
    · exact keeps_field (Gives.trivial text) fun _ _ hs _ => hs
    · refine keeps_field gives_shape.table fun _ _ _ hshapes => ?_
      simpa using hshapes
  · intro p d hp hd
    obtain ⟨version, -, rfl⟩ := Option.map_eq_some_iff.1 hd
    show Table RawShape.Sound (p.shapes.getD [])
    cases hshapes : p.shapes with
    | none => exact table_nil _
    | some shapes => exact hp shapes hshapes

/-- **A document that was decoded has every key once,** in its table of shapes and in every table below it. -/
theorem sound_of_decode {source : String} {d : RawModel} (h : decode model source = .ok d) : d.Sound := by
  obtain ⟨⟨_, rest⟩, hread, rfl⟩ := Results.map_eq_ok_iff.1 h
  exact gives_model _ _ _ _ hread

end WireShapes.Source
