import WireShapes.Numeric.Number
import WireShapes.Proofs.Entries
import WireShapes.Schema.Build

/-!
What the values and the drafts of a shape are, said without running any check.

* `TextRule.Admits`, `InRange`: the rules of simple values; no violation is found exactly where they
  hold
* `Conforms S F n v`: `v` is a value of the shape `n` as the side `F` holds it, all the way down: its
  members in the order of their declaration, those that have to be there present, and every rule kept
  where `F` checks rules
* `Part S k w n v`: `w` stands somewhere in the value `v` of the shape `n`, as a value of the shape `k`
* `Fits S F n d`: `d` is a draft of the shape `n`, of which nothing has been checked
* `Meets S F n d`: every rule holds of what `d` gives, and nothing that has to be there is missing
* `Holds S F n d v`: `v` has exactly what `d` gives, and the default where `d` gives nothing
* `WellFormed S`: members have names of their own, and defaults are values of their shapes
-/

namespace WireShapes.Schema

/-! ### Simple values -/

structure TextRule.Admits (rule : TextRule) (s : String) : Prop where
  length : ∀ bounds, rule.length = some bounds → bounds.least ≤ s.length ∧ s.length ≤ bounds.greatest
  pattern : ∀ p, rule.pattern = some p → Pattern.isMatch p s = true

/-- An integer lies within the bounds, if there are any. -/
def InRange (range : Option (Interval Int)) (k : Int) : Prop :=
  ∀ bounds, range = some bounds → bounds.least ≤ k ∧ k ≤ bounds.greatest

theorem Interval.contains_iff {α : Type} [LE α] [DecidableLE α] (i : Interval α) (x : α) :
    i.contains x = true ↔ i.least ≤ x ∧ x ≤ i.greatest := by
  simp [Interval.contains]

theorem TextRule.lengthViolation?_eq_none_iff (rule : TextRule) (shape s : String) :
    rule.lengthViolation? shape s = none ↔
      ∀ bounds, rule.length = some bounds → bounds.least ≤ s.length ∧ s.length ≤ bounds.greatest := by
  unfold TextRule.lengthViolation?
  cases rule.length with
  | none => simp
  | some bounds =>
    simp only [Option.bind_some, Option.some.injEq, forall_eq', ← Interval.contains_iff]
    split <;> simp_all

theorem TextRule.patternViolation?_eq_none_iff (rule : TextRule) (shape s : String) :
    rule.patternViolation? shape s = none ↔
      ∀ p, rule.pattern = some p → Pattern.isMatch p s = true := by
  unfold TextRule.patternViolation?
  cases rule.pattern with
  | none => simp
  | some p =>
    simp only [Option.bind_some, Option.some.injEq, forall_eq']
    split <;> simp_all

/-- **No violation of a text is found exactly where its rule is kept.** -/
theorem textViolation?_eq_none_iff (rule : TextRule) (shape s : String) :
    textViolation? rule shape s = none ↔ rule.Admits s := by
  unfold textViolation?
  rw [Option.or_eq_none_iff, rule.lengthViolation?_eq_none_iff, rule.patternViolation?_eq_none_iff]
  exact ⟨fun h => ⟨h.1, h.2⟩, fun h => ⟨h.length, h.pattern⟩⟩

/-- **No violation of an integer is found exactly where it is in range.** -/
theorem integerViolation?_eq_none_iff (range : Option (Interval Int)) (shape : String) (k : Int) :
    integerViolation? range shape k = none ↔ InRange range k := by
  unfold integerViolation? InRange
  cases range with
  | none => simp
  | some bounds =>
    simp only [Option.bind_some, Option.some.injEq, forall_eq', ← Interval.contains_iff]
    split <;> simp_all

theorem admits_free (s : String) : TextRule.free.Admits s :=
  ⟨fun _ h => by simp [TextRule.free] at h, fun _ h => by simp [TextRule.free] at h⟩

/-- The member is there in every value: it is asked for, or a default stands in for it. -/
def Member.Standing {ν : Type} (m : Member ν) : Prop := m.required = true ∨ m.default.isSome = true

instance {ν : Type} (m : Member ν) : Decidable m.Standing :=
  inferInstanceAs (Decidable (m.required = true ∨ m.default.isSome = true))

variable {ν : Type} (S : Schema ν) (F : Flavour)

/-! ### Values -/

/-- `v` is a value of the shape `n` as the side `F` holds it. -/
inductive Conforms : ν → Value → Prop
  | text {n : ν} {rule : TextRule} {s : String} {v : Value} (shape : S.shape n = .text rule)
      (form : v = hold F (decide (rule ≠ .free)) (.text s)) (admits : F.checks = true → rule.Admits s) :
      Conforms n v
  | integer {n : ν} {range : Option (Interval Int)} {k : Int} {v : Value}
      (shape : S.shape n = .integer range) (form : v = hold F range.isSome (.integer k))
      (fits : IntWidth.w32.fits k = true) (inRange : F.checks = true → InRange range k) : Conforms n v
  | boolean {n : ν} {b : Bool} (shape : S.shape n = .boolean) : Conforms n (.boolean b)
  | blob {n : ν} {bytes : List UInt8} (shape : S.shape n = .blob) : Conforms n (.blob bytes)
  | symbol {n : ν} {constants : List (String × String)} {s : String}
      (shape : S.shape n = .enumeration constants)
      (listed : F.checks = true → s ∈ constants.map (·.2)) : Conforms n (.symbol s)
  | list {n item : ν} {items : List Value} (shape : S.shape n = .list item)
      (each : ∀ v ∈ items, Conforms item v) : Conforms n (.list items)
  | struct {n : ν} {members : List (Member ν)} {fields : List (String × Value)}
      (shape : S.shape n = .struct members)
      (order : (fields.map Prod.fst).Sublist (members.map (·.name)))
      (standing : ∀ m ∈ members, m.Standing → (Entries.get? m.name fields).isSome = true)
      (each : ∀ m ∈ members, ∀ v, Entries.get? m.name fields = some v → Conforms m.target v) :
      Conforms n (.struct fields)
  | variant {n : ν} {members : List (Member ν)} {m : Member ν} {v : Value}
      (shape : S.shape n = .union members) (mem : m ∈ members) (value : Conforms m.target v) :
      Conforms n (.variant m.name v)
  | unknown {n : ν} {members : List (Member ν)} (client : F = .client)
      (shape : S.shape n = .union members) : Conforms n .unknown
  | stream {n : ν} (shape : S.shape n = .stream) : Conforms n .stream

/-- What stands in a value: the value itself, and what stands in its members, items and variant. -/
inductive Part (k : ν) (w : Value) : ν → Value → Prop
  | self : Part k w k w
  | field {n : ν} {m : Member ν} {fields : List (String × Value)} {v : Value} (mem : m ∈ S.members n)
      (get : Entries.get? m.name fields = some v) (part : Part k w m.target v) :
      Part k w n (.struct fields)
  | item {n : ν} {items : List Value} {v : Value} (mem : v ∈ items) (part : Part k w (S.item n) v) :
      Part k w n (.list items)
  | variant {n : ν} {m : Member ν} {v : Value} (mem : m ∈ S.members n) (part : Part k w m.target v) :
      Part k w n (.variant m.name v)

/-! ### Drafts -/

/-- `d` is a draft of the shape `n`: simple values are of the right kind, and what has been built
already is a value of its shape. -/
inductive Fits : ν → Draft → Prop
  | built {n : ν} {v : Value} (value : Conforms S F n v) : Fits n (.built v)
  | text {n : ν} {rule : TextRule} {s : String} (shape : S.shape n = .text rule) : Fits n (.text s)
  | symbol {n : ν} {constants : List (String × String)} {s : String}
      (shape : S.shape n = .enumeration constants) : Fits n (.text s)
  | integer {n : ν} {range : Option (Interval Int)} {k : Int} (shape : S.shape n = .integer range)
      (fits : IntWidth.w32.fits k = true) : Fits n (.integer k)
  | boolean {n : ν} {b : Bool} (shape : S.shape n = .boolean) : Fits n (.boolean b)
  | blob {n : ν} {bytes : List UInt8} (shape : S.shape n = .blob) : Fits n (.blob bytes)
  | list {n item : ν} {items : List Draft} (shape : S.shape n = .list item)
      (each : ∀ d ∈ items, Fits item d) : Fits n (.list items)
  | struct {n : ν} {members : List (Member ν)} {fields : List (String × Draft)}
      (shape : S.shape n = .struct members)
      (each : ∀ m ∈ members, ∀ d, Entries.get? m.name fields = some d → Fits m.target d) :
      Fits n (.struct fields)
  | variant {n : ν} {members : List (Member ν)} {m : Member ν} {d : Draft}
      (shape : S.shape n = .union members) (mem : m ∈ members) (value : Fits m.target d) :
      Fits n (.variant m.name d)

/-- Every rule that `F` checks holds of what the draft `d` of the shape `n` gives, and every member
that has to be given is. -/
inductive Meets : ν → Draft → Prop
  | built {n : ν} {v : Value} (value : Conforms S F n v) : Meets n (.built v)
  | text {n : ν} {rule : TextRule} {s : String} (shape : S.shape n = .text rule)
      (admits : F.checks = true → rule.Admits s) : Meets n (.text s)
  | symbol {n : ν} {constants : List (String × String)} {s : String}
      (shape : S.shape n = .enumeration constants)
      (listed : F.checks = true → s ∈ constants.map (·.2)) : Meets n (.text s)
  | integer {n : ν} {range : Option (Interval Int)} {k : Int} (shape : S.shape n = .integer range)
      (fits : IntWidth.w32.fits k = true) (inRange : F.checks = true → InRange range k) :
      Meets n (.integer k)
  | boolean {n : ν} {b : Bool} (shape : S.shape n = .boolean) : Meets n (.boolean b)
  | blob {n : ν} {bytes : List UInt8} (shape : S.shape n = .blob) : Meets n (.blob bytes)
  | list {n item : ν} {items : List Draft} (shape : S.shape n = .list item)
      (each : ∀ d ∈ items, Meets item d) : Meets n (.list items)
  | struct {n : ν} {members : List (Member ν)} {fields : List (String × Draft)}
      (shape : S.shape n = .struct members)
      (given : ∀ m ∈ members, m.required = true → m.default = none →
        (Entries.get? m.name fields).isSome = true)
      (each : ∀ m ∈ members, ∀ d, Entries.get? m.name fields = some d → Meets m.target d) :
      Meets n (.struct fields)
  | variant {n : ν} {members : List (Member ν)} {m : Member ν} {d : Draft}
      (shape : S.shape n = .union members) (mem : m ∈ members) (value : Meets m.target d) :
      Meets n (.variant m.name d)

/-- `v` has exactly what the draft `d` of the shape `n` gives: simple values as they are given, items
in their order, and for a member that is not given its default or nothing. -/
inductive Holds : ν → Draft → Value → Prop
  | built {n : ν} {v : Value} : Holds n (.built v) v
  | text {n : ν} {rule : TextRule} {s : String} {v : Value} (shape : S.shape n = .text rule)
      (form : v = hold F (decide (rule ≠ .free)) (.text s)) : Holds n (.text s) v
  | symbol {n : ν} {constants : List (String × String)} {s : String}
      (shape : S.shape n = .enumeration constants) : Holds n (.text s) (.symbol s)
  | integer {n : ν} {range : Option (Interval Int)} {k : Int} {v : Value}
      (shape : S.shape n = .integer range) (form : v = hold F range.isSome (.integer k)) :
      Holds n (.integer k) v
  | boolean {n : ν} {b : Bool} : Holds n (.boolean b) (.boolean b)
  | blob {n : ν} {bytes : List UInt8} : Holds n (.blob bytes) (.blob bytes)
  | list {n item : ν} {items : List Draft} {values : List Value} (shape : S.shape n = .list item)
      (length : values.length = items.length)
      (each : ∀ (i : Nat) d v, items[i]? = some d → values[i]? = some v → Holds item d v) :
      Holds n (.list items) (.list values)
  | struct {n : ν} {members : List (Member ν)} {fields : List (String × Draft)}
      {values : List (String × Value)} (shape : S.shape n = .struct members)
      (order : (values.map Prod.fst).Sublist (members.map (·.name)))
      (given : ∀ m ∈ members, ∀ d, Entries.get? m.name fields = some d →
        (Entries.get? m.name values).isSome = true)
      (each : ∀ m ∈ members, ∀ d v, Entries.get? m.name fields = some d →
        Entries.get? m.name values = some v → Holds m.target d v)
      (default : ∀ m ∈ members, Entries.get? m.name fields = none →
        Entries.get? m.name values = m.default) :
      Holds n (.struct fields) (.struct values)
  | variant {n : ν} {members : List (Member ν)} {m : Member ν} {d : Draft} {v : Value}
      (shape : S.shape n = .union members) (mem : m ∈ members) (value : Holds m.target d v) :
      Holds n (.variant m.name d) (.variant m.name v)

/-! ### Schemas -/

/-- Members have names of their own, and defaults are values of their shapes. -/
structure WellFormed : Prop where
  nodup : ∀ n, ((S.members n).map (·.name)).Nodup
  default : ∀ n, ∀ m ∈ S.members n, ∀ v, m.default = some v → ∀ F, Conforms S F m.target v

variable {S F} {n : ν} {members : List (Member ν)}

theorem members_of_struct (h : S.shape n = .struct members) : S.members n = members := by
  simp [Schema.members, h]

theorem members_of_union (h : S.shape n = .union members) : S.members n = members := by
  simp [Schema.members, h]

theorem item_of_list {item : ν} (h : S.shape n = .list item) : S.item n = item := by
  simp [Schema.item, h]

theorem find_member (hd : (members.map (·.name)).Nodup) {m : Member ν} (hm : m ∈ members) :
    members.find? (·.name == m.name) = some m := by
  induction members with
  | nil => simp at hm
  | cons a rest ih =>
    rw [List.map_cons, List.nodup_cons] at hd
    rcases List.mem_cons.1 hm with rfl | hrest
    · simp
    · have hne : a.name ≠ m.name := fun h => hd.1 (h ▸ List.mem_map.2 ⟨m, hrest, rfl⟩)
      rw [List.find?_cons_of_neg (by simpa using hne)]
      exact ih hd.2 hrest

theorem WellFormed.target_eq (hS : WellFormed S) {m : Member ν} (hm : m ∈ S.members n) :
    S.target n m.name = m.target := by
  simp [Schema.target, find_member (hS.nodup n) hm]

/-! ### Values, taken apart -/

theorem hold_eq (F : Flavour) (restricted : Bool) (v : Value) :
    hold F restricted v = v ∨ hold F restricted v = .constrained v := by
  unfold hold
  split
  · split <;> simp
  · simp

theorem Conforms.struct_inv {fields : List (String × Value)} (h : Conforms S F n (.struct fields)) :
    ∃ members, S.shape n = .struct members ∧
      (fields.map Prod.fst).Sublist (members.map (·.name)) ∧
      (∀ m ∈ members, m.Standing → (Entries.get? m.name fields).isSome = true) ∧
      ∀ m ∈ members, ∀ v, Entries.get? m.name fields = some v → Conforms S F m.target v := by
  cases h with
  | text _ form => rcases hold_eq F _ _ with h | h <;> rw [h] at form <;> cases form
  | integer _ form => rcases hold_eq F _ _ with h | h <;> rw [h] at form <;> cases form
  | struct shape order standing each => exact ⟨_, shape, order, standing, each⟩

theorem Conforms.list_inv {items : List Value} (h : Conforms S F n (.list items)) :
    ∃ item, S.shape n = .list item ∧ ∀ v ∈ items, Conforms S F item v := by
  cases h with
  | text _ form => rcases hold_eq F _ _ with h | h <;> rw [h] at form <;> cases form
  | integer _ form => rcases hold_eq F _ _ with h | h <;> rw [h] at form <;> cases form
  | list shape each => exact ⟨_, shape, each⟩

theorem Conforms.variant_inv {name : String} {v : Value} (h : Conforms S F n (.variant name v)) :
    ∃ members, S.shape n = .union members ∧ ∃ m ∈ members, m.name = name ∧ Conforms S F m.target v := by
  cases h with
  | text _ form => rcases hold_eq F _ _ with h | h <;> rw [h] at form <;> cases form
  | integer _ form => rcases hold_eq F _ _ with h | h <;> rw [h] at form <;> cases form
  | variant shape mem value => exact ⟨_, shape, _, mem, rfl, value⟩

theorem Conforms.text_inv {s : String} (h : Conforms S F n (.text s)) :
    ∃ rule, S.shape n = .text rule := by
  cases h with
  | text shape => exact ⟨_, shape⟩
  | integer _ form => rcases hold_eq F _ _ with h | h <;> rw [h] at form <;> cases form

theorem Conforms.of_text {rule : TextRule} {v : Value} (h : Conforms S F n v)
    (shape : S.shape n = .text rule) :
    ∃ s, v = hold F (decide (rule ≠ .free)) (.text s) ∧ (F.checks = true → rule.Admits s) := by
  cases h with
  | text shape' form admits =>
    obtain rfl := Shape.text.inj (shape.symm.trans shape')
    exact ⟨_, form, admits⟩
  | _ => simp_all

theorem Conforms.of_freeText {v : Value} (h : Conforms S F n v) (shape : S.shape n = .text .free) :
    ∃ s, v = .text s := by
  obtain ⟨s, rfl, -⟩ := h.of_text shape
  exact ⟨s, by cases F <;> rfl⟩

theorem Conforms.of_enumeration {constants : List (String × String)} {v : Value} (h : Conforms S F n v)
    (shape : S.shape n = .enumeration constants) : ∃ s, v = .symbol s := by
  cases h with
  | symbol => exact ⟨_, rfl⟩
  | _ => simp_all

theorem Conforms.of_boolean {v : Value} (h : Conforms S F n v) (shape : S.shape n = .boolean) :
    ∃ b, v = .boolean b := by
  cases h with
  | boolean => exact ⟨_, rfl⟩
  | _ => simp_all

theorem Conforms.of_blob {v : Value} (h : Conforms S F n v) (shape : S.shape n = .blob) :
    ∃ bytes, v = .blob bytes := by
  cases h with
  | blob => exact ⟨_, rfl⟩
  | _ => simp_all

theorem Conforms.of_list {item : ν} {v : Value} (h : Conforms S F n v) (shape : S.shape n = .list item) :
    ∃ items, v = .list items ∧ ∀ w ∈ items, Conforms S F item w := by
  cases h with
  | list shape' each =>
    obtain rfl := Shape.list.inj (shape.symm.trans shape')
    exact ⟨_, rfl, each⟩
  | _ => simp_all

theorem Conforms.of_struct {v : Value} (h : Conforms S F n v) (shape : S.shape n = .struct members) :
    ∃ fields, v = .struct fields := by
  cases h with
  | struct => exact ⟨_, rfl⟩
  | _ => simp_all

/-- **What stands in a value that conforms conforms itself.** -/
theorem Conforms.part (hS : WellFormed S) {k : ν} {v w : Value} (h : Conforms S F n v)
    (hpart : Part S k w n v) : Conforms S F k w := by
  induction hpart with
  | self => exact h
  | field mem get _ ih =>
    obtain ⟨members, shape, -, -, each⟩ := h.struct_inv
    exact ih (each _ (members_of_struct shape ▸ mem) _ get)
  | item mem _ ih =>
    obtain ⟨item, shape, each⟩ := h.list_inv
    exact ih (item_of_list shape ▸ each _ mem)
  | variant mem _ ih =>
    obtain ⟨members, shape, m', mem', hname, value⟩ := h.variant_inv
    have hm := hS.target_eq mem
    rw [← hname, hS.target_eq (members_of_union shape ▸ mem')] at hm
    exact ih (hm ▸ value)

end WireShapes.Schema
