import WireShapes.Model.Lowering
import WireShapes.Proofs.Source.Sameness

/-!
Traits of tables that are alike.

* `Steady R`: a reader that does not tell values apart that are alike, up to a relation of what it reads; one
  lemma for each way to read a field, and for each reader
* `lowerTrait_agree`: whether a trait is understood depends on its name and its value alone
* `lowerTrait_frame`: it goes into its field, or is kept with the others
* `get?_enumTrait_lowerTraits`: what makes an enumeration of a string is found again
* `Traits.Alike`: traits that were made of tables that are alike
* `lowerTraits_agree`: such tables are both understood, or neither is
-/

namespace WireShapes

open Source (Value Tabled)
open Results (Agree)

variable {α : Type} {R : α → α → Prop}

/-- On values that are alike, both readings fail, or what is read is related. -/
def Steady (R : α → α → Prop) (read : Value → Typed α) : Prop :=
  ∀ v w, Value.Alike v w → Agree R (read v) (read w)

/-- Any two things: of interest is only that there are some. -/
def Any (_ _ : α) : Prop := True

/-! ### Readers -/

theorem steady_asText : Steady Eq asText := by
  intro v w h
  cases h with
  | string => exact .ok rfl
  | _ => exact .error

theorem steady_asNatural (typeName : String) (bound : Nat) : Steady Eq (asNatural typeName bound) := by
  intro v w h
  cases h with
  | @number m n same =>
    cases m with
    | natural m =>
      cases n with
      | natural n =>
        obtain rfl := eq_of_beq same
        exact Agree.refl (fun _ => rfl) _
      | _ => cases same
    | _ =>
      cases n with
      | natural => cases same
      | _ => exact .error
  | _ => exact .error

theorem steady_asDouble : Steady Any asDouble := by
  intro v w h
  cases h with
  | number => exact .ok True.intro
  | _ => exact .error

theorem steady_asOptional {read : Value → Typed α} (hread : Steady R read) : Steady (Option.Rel R) (asOptional read) := by
  intro v w h
  have hboth := hread v w h
  cases h with
  | null => exact .ok .none
  | _ => exact hboth.map fun _ _ => .some

theorem steady_discard {read : Value → Typed α} (hread : Steady R read) : Steady Any fun v => discard (read v) :=
  fun v w h => (hread v w h).map fun _ _ _ => True.intro

theorem eq_of_rel {a b : Option α} (h : Option.Rel Eq a b) : a = b := by
  cases h with
  | none => rfl
  | some h => rw [h]

/-! ### Records -/

namespace RecordValue

variable {name : String} {count : Nat} {v w : Value} (h : v.Alike w)
include h

theorem agree_check : Agree Any (⟨name, count, v⟩ : RecordValue).check (⟨name, count, w⟩ : RecordValue).check := by
  cases h with
  | object => exact .ok True.intro
  | array => exact .ok True.intro
  | _ => exact .error

theorem agree_checkExtra :
    Agree Any (⟨name, count, v⟩ : RecordValue).checkExtra (⟨name, count, w⟩ : RecordValue).checkExtra := by
  cases h with
  | array length =>
    simp only [checkExtra, length]
    split
    · exact .error
    · exact .ok True.intro
  | _ => exact .ok True.intro

/-- The first fault depends on the order of the entries, whether there is one does not. -/
theorem agree_checkInOrder {check : String → Value → Typed Unit} (hcheck : ∀ key, Steady Any (check key)) :
    Agree Any ((⟨name, count, v⟩ : RecordValue).checkInOrder check)
      ((⟨name, count, w⟩ : RecordValue).checkInOrder check) := by
  cases hvw : h with
  | object =>
    refine Agree.of_ok_iff ?_ fun _ _ _ _ => True.intro
    simp only [checkInOrder]
    rw [Results.forM_ok_iff, Results.forM_ok_iff]
    exact (Source.alike_object_iff.1 h).all_ok_iff hcheck
  | _ => exact .ok True.intro

theorem agree_field {key : String} {i : Nat} {read : Value → Typed α} (hread : Steady R read) {missing : Typed α}
    (hmissing : Agree R missing missing) {ended : Option α} (hended : ∀ a ∈ ended, R a a) :
    Agree R ((⟨name, count, v⟩ : RecordValue).field key i read missing ended)
      ((⟨name, count, w⟩ : RecordValue).field key i read missing ended) := by
  cases hvw : h with
  | @object a b =>
    have hfound := (Source.alike_object_iff.1 h).get? key
    simp only [field]
    generalize Entries.get? key a = x at hfound
    generalize Entries.get? key b = y at hfound
    cases hfound with
    | none => exact hmissing
    | some hxy => exact hread _ _ hxy
  | @array a b =>
    have hfound := Source.rel_getElem? (Source.alike_array_iff.1 h) i
    simp only [field]
    generalize a[i]? = x at hfound
    generalize b[i]? = y at hfound
    cases hfound with
    | none =>
      cases ended with
      | none => exact .error
      | some default => exact .ok (hended default rfl)
    | some hxy => exact hread _ _ hxy
  | _ => exact .error

theorem agree_optional {key : String} {i : Nat} {read : Value → Typed α} (hread : Steady R read) :
    Agree (Option.Rel R) ((⟨name, count, v⟩ : RecordValue).optional key i read)
      ((⟨name, count, w⟩ : RecordValue).optional key i read) :=
  agree_field h (steady_asOptional hread) (.ok .none) fun _ h => nomatch h

theorem agree_required {key : String} {i : Nat} {read : Value → Typed α} (hread : Steady R read) :
    Agree R ((⟨name, count, v⟩ : RecordValue).required key i read)
      ((⟨name, count, w⟩ : RecordValue).required key i read) :=
  agree_field h hread .error fun _ h => nomatch h

end RecordValue

/-! ### Traits with a record for a value -/

/-- Lengths and ranges are read in one way, with bounds of their own. -/
theorem steady_bounds {β : Type} (name : String) {read : Value → Typed α} (hread : Steady R read)
    (make : Option α → Option α → β) :
    Steady Any fun v => (do
      let r : RecordValue := ⟨name, 2, v⟩
      r.check
      r.checkInOrder fun k v => if k = "min" ∨ k = "max" then discard (asOptional read v) else .ok ()
      let min ← r.optional "min" 0 read
      let max ← r.optional "max" 1 read
      r.checkExtra
      .ok (make min max) : Typed β) := by
  intro v w h
  refine (RecordValue.agree_check h).bind fun _ _ _ => ?_
  refine (RecordValue.agree_checkInOrder h fun key => ?_).bind fun _ _ _ => ?_
  · split
    · exact steady_discard (steady_asOptional hread)
    · exact fun _ _ _ => .ok True.intro
  refine (RecordValue.agree_optional h hread).bind fun _ _ _ => ?_
  refine (RecordValue.agree_optional h hread).bind fun _ _ _ => ?_
  exact (RecordValue.agree_checkExtra h).bind fun _ _ _ => .ok True.intro

theorem steady_asLength : Steady Any asLength := steady_bounds "LengthTrait" (steady_asNatural _ _) LengthBounds.mk

theorem steady_asRange : Steady Any asRange := steady_bounds "RangeTrait" steady_asDouble RangeBounds.mk

theorem steady_asHttp : Steady Eq asHttp := by
  intro v w h
  unfold asHttp
  refine (RecordValue.agree_check h).bind fun _ _ _ => ?_
  refine (RecordValue.agree_checkInOrder h fun key => ?_).bind fun _ _ _ => ?_
  · split
    · exact steady_discard steady_asText
    · split
      · exact steady_discard (steady_asNatural _ _)
      · exact fun _ _ _ => .ok True.intro
  refine (RecordValue.agree_required h steady_asText).bind fun method _ hmethod => ?_
  refine (RecordValue.agree_required h steady_asText).bind fun uri _ huri => ?_
  refine (RecordValue.agree_field h (steady_asNatural _ _) (.ok rfl) fun _ _ => rfl).bind fun code _ hcode => ?_
  refine (RecordValue.agree_checkExtra h).bind fun _ _ _ => ?_
  rw [hmethod, huri, hcode]
  exact .ok rfl

theorem steady_asVariant : Steady Eq asVariant := by
  intro v w h
  unfold asVariant
  refine (RecordValue.agree_check h).bind fun _ _ _ => ?_
  refine (RecordValue.agree_checkInOrder h fun key => ?_).bind fun _ _ _ => ?_
  · split
    · exact steady_discard steady_asText
    · split
      · exact steady_discard (steady_asOptional steady_asText)
      · exact fun _ _ _ => .ok True.intro
  refine (RecordValue.agree_required h steady_asText).bind fun value _ hvalue => ?_
  refine (RecordValue.agree_optional h steady_asText).bind fun name _ hname => ?_
  refine (RecordValue.agree_optional h steady_asText).bind fun documentation _ hdocumentation => ?_
  refine (RecordValue.agree_checkExtra h).bind fun _ _ _ => ?_
  rw [hvalue, eq_of_rel hname, eq_of_rel hdocumentation]
  exact .ok rfl

theorem steady_asVariants : Steady Eq asVariants := by
  intro v w h
  cases hvw : h with
  | array =>
    have hitems := (Source.alike_array_iff.1 h).imp steady_asVariant
    refine (Agree.mapM hitems).imp fun variants variants' hvariants => ?_
    rwa [List.forall₂_eq_eq_eq] at hvariants
  | _ => exact .error

/-! ### Other readers -/

theorem steady_asFormat : Steady Any asFormat := by
  intro v w h
  unfold asFormat
  refine (steady_asText v w h).bind fun name _ hname => ?_
  rw [hname]
  exact Agree.refl (fun _ => True.intro) _

theorem steady_asBlame : Steady Any asBlame := by
  intro v w h
  unfold asBlame
  refine (steady_asText v w h).bind fun name _ hname => ?_
  rw [hname]
  exact Agree.refl (fun _ => True.intro) _

theorem steady_asEnumValue : Steady Any asEnumValue := by
  intro v w h
  cases h with
  | string => exact .ok True.intro
  | number => exact .ok True.intro
  | _ => exact .error

theorem steady_asUriHttp : Steady Any asUriHttp := by
  intro v w h
  unfold asUriHttp
  refine (steady_asHttp v w h).bind fun http _ hhttp => ?_
  rw [hhttp]
  exact Agree.refl (fun _ => True.intro) _

/-! ### Traits -/

theorem agree_typed {id id' : ShapeId} {name name' : String} {x y : Typed α} {put put' : α → Traits} :
    Agree R x y → Agree Any
      (match x with
        | .ok a => .ok (put a)
        | .error reason => .error (.invalidTrait id name reason) : Except ModelError Traits)
      (match y with
        | .ok a => .ok (put' a)
        | .error reason => .error (.invalidTrait id' name' reason) : Except ModelError Traits) := by
  intro h
  cases h with
  | ok => exact .ok True.intro
  | error => exact .error

/-- **Whether a trait is understood** depends on its name and its value alone. -/
theorem lowerTrait_agree {v w : Value} (h : v.Alike w) (id id' : ShapeId) (traits traits' : Traits)
    (name : String) : Agree Any (lowerTrait id traits name v) (lowerTrait id' traits' name w) := by
  unfold lowerTrait
  dsimp only
  split
  -- flags, and traits whose value is kept as it is
  any_goals exact .ok True.intro
  · exact agree_typed (steady_asLength v w h)
  · exact agree_typed (steady_asRange v w h)
  · have hagree := steady_asText v w h
    generalize asText v = x at hagree
    generalize asText w = y at hagree
    cases hagree with
    | error => exact .error
    | ok hpattern =>
      rw [hpattern]
      simp only [Results.ok_bind, Option.getD_some]
      split
      · exact .ok True.intro
      · exact .error
  · exact agree_typed (steady_asText v w h)
  · exact agree_typed (steady_asFormat v w h)
  · exact agree_typed (steady_asEnumValue v w h)
  · exact agree_typed (steady_asBlame v w h)
  · exact agree_typed (steady_asNatural _ _ v w h)
  · exact agree_typed (steady_asUriHttp v w h)
  · exact agree_typed (steady_asText v w h)
  · exact agree_typed (steady_asText v w h)
  · exact agree_typed (steady_asText v w h)

/-- A trait goes into its field, unless it has none and is kept with the others. None says that a member is boxed. -/
theorem lowerTrait_frame {id : ShapeId} {traits traits' : Traits} {name : String} {v : Value}
    (h : lowerTrait id traits name v = .ok traits') :
    traits'.boxed = traits.boxed ∧
      (traits'.other = traits.other ∨ traits'.other = Entries.insert name v traits.other) := by
  have htyped {α : Type} {read : Typed α} {put : α → Traits} {made : Traits}
      (h : (match read with
        | .ok a => .ok (put a)
        | .error reason => .error (.invalidTrait id name reason) : Except ModelError Traits) = .ok made)
      (hput : ∀ a, (put a).boxed = traits.boxed ∧ (put a).other = traits.other) :
      made.boxed = traits.boxed ∧ made.other = traits.other := by
    cases read with
    | error => cases h
    | ok a =>
      cases h
      exact hput a
  unfold lowerTrait at h
  dsimp only at h
  split at h
  any_goals exact (htyped h fun _ => ⟨rfl, rfl⟩).imp_right .inl
  -- a pattern is looked at once more when it is in its field
  case h_5 =>
    obtain ⟨made, hmade, h⟩ := Results.bind_eq_ok_iff.1 h
    split at h
    · cases h
      exact (htyped hmade fun _ => ⟨rfl, rfl⟩).imp_right .inl
    · cases h
  case h_22 =>
    cases h
    exact ⟨rfl, .inr rfl⟩
  all_goals
    cases h
    exact ⟨rfl, .inl rfl⟩

theorem boxed_lowerTraits {id : ShapeId} {raw : List (String × Value)} {traits : Traits}
    (h : lowerTraits id raw = .ok traits) : traits.boxed = false :=
  Results.invariant_foldlM (P := fun traits : Traits => traits.boxed = false)
    (fun _ _ _ _ htraits hstep => (lowerTrait_frame hstep).1.trans htraits) rfl h

/-- What makes an enumeration of a string is kept with the others. -/
theorem get?_enumTrait_lowerTrait {id : ShapeId} {traits traits' : Traits} {name : String} {v : Value}
    (h : lowerTrait id traits name v = .ok traits') :
    Entries.get? enumTrait traits'.other = if name = enumTrait then some v else Entries.get? enumTrait traits.other := by
  by_cases hname : name = enumTrait
  · subst hname
    cases h
    rw [if_pos rfl, Entries.get?_insert, if_pos rfl]
  · rw [if_neg hname]
    rcases (lowerTrait_frame h).2 with hother | hother
    · rw [hother]
    · rw [hother, Entries.get?_insert, if_neg hname]

theorem get?_enumTrait_lowerTraits {id : ShapeId} {raw : List (String × Value)} {traits : Traits}
    (hraw : (raw.map Prod.fst).Nodup) (h : lowerTraits id raw = .ok traits) :
    Entries.get? enumTrait traits.other = Entries.get? enumTrait raw := by
  suffices hfold : ∀ start : Traits, raw.foldlM (fun traits e => lowerTrait id traits e.1 e.2) start = .ok traits →
      Entries.get? enumTrait traits.other = (Entries.get? enumTrait raw).or (Entries.get? enumTrait start.other) by
    rw [hfold {} h]
    exact Option.or_none
  clear h
  induction raw with
  | nil =>
    intro start h
    cases h
    rfl
  | cons e rest ih =>
    obtain ⟨name, v⟩ := e
    intro start h
    rw [List.map_cons, List.nodup_cons] at hraw
    rw [List.foldlM_cons] at h
    obtain ⟨middle, hfirst, hrest⟩ := Results.bind_eq_ok_iff.1 h
    rw [ih hraw.2 middle hrest, get?_enumTrait_lowerTrait hfirst, Entries.get?_cons]
    by_cases hname : name = enumTrait
    · subst hname
      rw [if_pos rfl, if_pos rfl, Entries.get?_eq_none_iff.2 hraw.1]
      rfl
    · rw [if_neg hname, if_neg hname]

/-- Traits that were made of tables that are alike. -/
def Traits.Alike (a b : Traits) : Prop :=
  ∃ id raw raw', Tabled Value.Alike raw raw' ∧ lowerTraits id raw = .ok a ∧ lowerTraits id raw' = .ok b

/-- Traits are understood one by one, whatever the others are. -/
theorem lowerTraits_ok_iff {id : ShapeId} {raw : List (String × Value)} (hraw : ∀ e ∈ raw, Value.Alike e.2 e.2) :
    (∃ traits, lowerTraits id raw = .ok traits) ↔ ∀ e ∈ raw, ∃ traits, lowerTrait id {} e.1 e.2 = .ok traits := by
  unfold lowerTraits
  exact Results.foldlM_ok_iff fun e he traits => (lowerTrait_agree (hraw e he) id id traits {} e.1).ok_iff

/-- **Tables that are alike** are both understood, or neither is. -/
theorem lowerTraits_agree (id : ShapeId) {raw raw' : List (String × Value)} (h : Tabled Value.Alike raw raw') :
    Agree Traits.Alike (lowerTraits id raw) (lowerTraits id raw') := by
  refine Agree.of_ok_iff ?_ fun a b ha hb => ⟨id, raw, raw', h, ha, hb⟩
  -- what is not a number is not alike itself, but neither does it stand in tables that are alike
  have hleft : ∀ e ∈ raw, Value.Alike e.2 e.2 := by
    intro e he
    obtain ⟨w, -, hvw⟩ := h.exists_of_mem he
    exact hvw.trans hvw.symm
  have hright : ∀ e ∈ raw', Value.Alike e.2 e.2 := by
    intro e he
    obtain ⟨v, -, hvw⟩ := h.exists_of_mem_right he
    exact hvw.symm.trans hvw
  rw [lowerTraits_ok_iff hleft, lowerTraits_ok_iff hright]
  exact h.all_ok_iff fun key v w hvw => lowerTrait_agree hvw id id {} {} key

end WireShapes
