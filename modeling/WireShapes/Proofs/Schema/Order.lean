import Mathlib.Data.List.Forall2
import Mathlib.Data.List.Nodup
import WireShapes.Proofs.Schema.Messages
import WireShapes.Proofs.Schema.Variants

/-!
The order of entries does not count, nor do entries that no member is named by.

* `Alike S n t t'`: the values `t` and `t'` say the same of all that the shape `n` knows
* `Draft.Same`: drafts that differ in the order of fields alone; `Draft.Same.build_eq`: the same is built
  of them
* `Filled.readsAs_get?`, `exists_filled`: the fields of a structure, by what is recognized among its entries
* `Sole`, `Found.sole`, `found_of_sole`: the variant of a union, by what is recognized among its entries
* `Alike.readsSame`: where one of two values that are alike is read, the other is read as the same
* `Alike.reads`, `decode_of_same`: so it is with tokens, and with what becomes of texts
-/

namespace WireShapes.Schema

open Json Reader

variable {ν : Type} {S : Schema ν} {F : Flavour}

/-! ### Values that are alike -/

/-- Every key denotes a text, and no member is given twice. -/
structure Orderly (ms : List (Member ν)) (entries : List (String × Tree)) : Prop where
  keys : ∀ e ∈ entries, ∃ key, unescape e.1 = .ok key
  fresh : ((recognized ms entries).map Prod.fst).Nodup

/-- Values that say the same of all that the shape knows. Objects give the same members, in any order and
however the keys are escaped, and whatever stands under other keys. -/
inductive Alike (S : Schema ν) : ν → Tree → Tree → Prop
  | same (n : ν) (t : Tree) : Alike S n t t
  | array {n item : ν} {items items' : List Tree} (shape : S.shape n = .list item)
      (length : items.length = items'.length) (each : ∀ p ∈ items.zip items', Alike S item p.1 p.2) :
      Alike S n (.array items) (.array items')
  | object {n : ν} {ms : List (Member ν)} {entries entries' : List (String × Tree)}
      (shape : S.shape n = .struct ms ∨ S.shape n = .union ms) (orderly : Orderly ms entries)
      (orderly' : Orderly ms entries')
      (names : ∀ name, (∃ u, (name, u) ∈ recognized ms entries) ↔ ∃ u, (name, u) ∈ recognized ms entries')
      (each : ∀ m ∈ ms, ∀ u u', (m.name, u) ∈ recognized ms entries →
        (m.name, u') ∈ recognized ms entries' → Alike S m.target u u') :
      Alike S n (.object entries) (.object entries')

theorem Alike.null_iff {n : ν} {t t' : Tree} (h : Alike S n t t') : t = .null ↔ t' = .null := by
  cases h with
  | same => exact Iff.rfl
  | array => simp
  | object => simp

/-! ### What is recognized -/

section Recognized

variable {ms : List (Member ν)} {raw name : String} {u : Tree} {entries : List (String × Tree)}

theorem member_of_mem_recognized {e : String × Tree} (h : e ∈ recognized ms entries) :
    ∃ m ∈ ms, m.name = e.1 ∧ memberOf? ms e.1 = some m := by
  obtain ⟨a, -, hea⟩ := List.mem_filterMap.1 h
  split at hea
  · split at hea
    · next hm =>
      obtain rfl := Option.some.inj hea
      obtain ⟨m, hm⟩ := Option.isSome_iff_exists.1 hm
      exact ⟨m, (memberOf?_eq_some hm).1, (memberOf?_eq_some hm).2, hm⟩
    · cases hea
  · cases hea

/-- The keys denote texts that are pairwise distinct. -/
theorem orderly_of_nodup (names : List String) (keys : entries.map (fun e => unescape e.1) = names.map .ok)
    (distinct : names.Nodup) : Orderly ms entries := by
  constructor
  · intro e he
    have hmem : unescape e.1 ∈ names.map .ok := keys ▸ List.mem_map_of_mem he
    obtain ⟨name, -, hname⟩ := List.mem_map.1 hmem
    exact ⟨name, hname.symm⟩
  · refine List.Sublist.nodup ?_ distinct
    induction entries generalizing names with
    | nil => exact List.nil_sublist _
    | cons e entries ih =>
      obtain ⟨raw, u⟩ := e
      obtain ⟨name, names, rfl, key, hkeys⟩ := List.map_eq_cons_iff.1 keys.symm
      have hsub := ih names hkeys.symm (List.nodup_cons.1 distinct).2
      cases member : memberOf? ms name with
      | none =>
        rw [recognized_unknown key.symm member]
        exact hsub.cons name
      | some m =>
        rw [recognized_known key.symm member]
        exact hsub.cons_cons name

theorem eq_of_mem_recognized (h : Orderly ms entries) {u' : Tree} (hu : (name, u) ∈ recognized ms entries)
    (hu' : (name, u') ∈ recognized ms entries) : u = u' :=
  Option.some.inj ((Entries.get?_of_mem h.fresh hu).symm.trans (Entries.get?_of_mem h.fresh hu'))

/-- Objects are alike in which the same entries are recognized, in whatever order. -/
theorem alike_of_perm {n : ν} {entries' : List (String × Tree)}
    (shape : S.shape n = .struct ms ∨ S.shape n = .union ms) (orderly : Orderly ms entries)
    (orderly' : Orderly ms entries') (h : (recognized ms entries).Perm (recognized ms entries')) :
    Alike S n (.object entries) (.object entries') := by
  refine .object shape orderly orderly' (fun name => exists_congr fun u => h.mem_iff) ?_
  intro m _ u u' hu hu'
  rw [eq_of_mem_recognized orderly' (h.mem_iff.1 hu) hu']
  exact .same m.target u'

end Recognized

/-! ### Drafts that are the same -/

/-- Drafts that differ in the order of the fields of structures alone. -/
inductive Draft.Same : Draft → Draft → Prop
  | refl (d : Draft) : Same d d
  | list {items items' : List Draft} (length : items.length = items'.length)
      (each : ∀ p ∈ items.zip items', Same p.1 p.2) : Same (.list items) (.list items')
  | struct {fields fields' : List (String × Draft)}
      (names : ∀ name, (Entries.get? name fields).isSome = (Entries.get? name fields').isSome)
      (each : ∀ name d d', Entries.get? name fields = some d → Entries.get? name fields' = some d' →
        Same d d') : Same (.struct fields) (.struct fields')
  | variant (name : String) {d d' : Draft} (value : Same d d') : Same (.variant name d) (.variant name d')

theorem Draft.Same.of_rel {fields fields' : List (String × Draft)}
    (h : ∀ name, Option.Rel Draft.Same (Entries.get? name fields) (Entries.get? name fields')) :
    (Draft.struct fields).Same (.struct fields') := by
  refine .struct (fun name => ?_) fun name d d' hd hd' => ?_
  · have hrel := h name
    generalize Entries.get? name fields = o, Entries.get? name fields' = o' at hrel
    cases hrel <;> rfl
  · have hrel := h name
    rw [hd, hd'] at hrel
    cases hrel with
    | some hsame => exact hsame

theorem buildItems_congr {n : ν} {items items' : List Draft} (length : items.length = items'.length)
    (each : ∀ p ∈ items.zip items', S.build F (S.item n) p.1 = S.build F (S.item n) p.2) (index : Nat) :
    S.buildItems F n index items = S.buildItems F n index items' := by
  induction items generalizing items' index with
  | nil =>
    cases items' with
    | nil => rfl
    | cons d' items' => cases length
  | cons d items ih =>
    cases items' with
    | nil => cases length
    | cons d' items' =>
      rw [List.zip_cons_cons, List.forall_mem_cons] at each
      rw [buildItems, buildItems, each.1, ih (Nat.succ.inj length) each.2]

/-- **What is built of a draft does not depend on the order of fields.** -/
theorem Draft.Same.build_eq {d d' : Draft} (h : d.Same d') (n : ν) : S.build F n d = S.build F n d' := by
  induction h generalizing n with
  | refl => rfl
  | list length _ ih => rw [build, build, buildItems_congr length fun p hp => ih p hp (S.item n)]
  | @struct fields fields' names _ ih =>
    rw [build, build]
    refine congrArg (Except.map Value.struct) (assemble_congr fun m _ => ?_)
    rw [get?_buildFields, get?_buildFields]
    have hname := names m.name
    cases hd : Entries.get? m.name fields with
    | none =>
      rw [hd, Option.isSome_none, eq_comm, Option.isSome_eq_false_iff, Option.isNone_iff_eq_none] at hname
      rw [hname]
    | some d =>
      rw [hd, Option.isSome_some, eq_comm] at hname
      obtain ⟨d', hd'⟩ := Option.isSome_iff_exists.1 hname
      rw [hd', Option.map_some, Option.map_some, ih m.name d d' hd hd']
  | variant name _ ih => rw [build, build, ih]

/-- What becomes of drafts that are the same as they are finished. -/
theorem Draft.Same.finish {d d' : Draft} (h : d.Same d') {n : ν} {x : Draft}
    (hx : (S.finish F n d).Reads [] x) : ∃ x', (S.finish F n d').Reads [] x' ∧ x.Same x' := by
  cases F with
  | client =>
    refine ⟨x, ?_, .refl x⟩
    unfold Schema.finish at hx ⊢
    rwa [← h.build_eq n]
  | server =>
    cases hx [] [] rfl
    exact ⟨d', reads_pure d', h⟩
  | internal =>
    cases hx [] [] rfl
    exact ⟨d', reads_pure d', h⟩

/-! ### Structures -/

section Structures

variable {ms : List (Member ν)} {entries : List (String × Tree)} {fields all : List (String × Draft)}

/-- A field stays as it is under a name that is not recognized. -/
theorem Filled.get?_other (h : Filled S F ms fields entries all) {name : String}
    (hname : ∀ u, (name, u) ∉ recognized ms entries) : Entries.get? name all = Entries.get? name fields := by
  induction h with
  | nil => rfl
  | @known raw own v _ _ _ _ _ key member _ _ ih =>
    rw [recognized_known key member] at hname
    rw [ih fun u hu => hname u (List.mem_cons_of_mem _ hu), get?_setField, if_neg]
    rintro rfl
    exact hname v List.mem_cons_self
  | unknown key member _ ih =>
    rw [recognized_unknown key member] at hname
    exact ih hname

/-- Any other field is what is read under its name. -/
theorem Filled.readsAs_get? (h : Filled S F ms fields entries all)
    (fresh : ((recognized ms entries).map Prod.fst).Nodup) {name : String} {m : Member ν} {u : Tree}
    (hm : memberOf? ms name = some m) (hu : (name, u) ∈ recognized ms entries) :
    ReadsAs S F m.target u (Entries.get? name all) := by
  induction h with
  | nil => cases hu
  | known key member value rest ih =>
    rw [recognized_known key member] at fresh hu
    obtain ⟨hother, hfresh⟩ := List.nodup_cons.1 fresh
    rcases List.mem_cons.1 hu with heq | hu
    · cases heq
      obtain rfl := Option.some.inj (member.symm.trans hm)
      rw [rest.get?_other fun u hu => hother (List.mem_map.2 ⟨_, hu, rfl⟩), get?_setField, if_pos rfl]
      exact value
    · exact ih hfresh hu
  | unknown key member _ ih =>
    rw [recognized_unknown key member] at fresh hu
    exact ih fresh hu

theorem exists_filled (keys : ∀ e ∈ entries, ∃ key, unescape e.1 = .ok key)
    (each : ∀ e ∈ recognized ms entries, ∀ m, memberOf? ms e.1 = some m → ∃ o, ReadsAs S F m.target e.2 o)
    (fields : List (String × Draft)) : ∃ all, Filled S F ms fields entries all := by
  induction entries generalizing fields with
  | nil => exact ⟨fields, .nil⟩
  | cons e entries ih =>
    obtain ⟨raw, u⟩ := e
    obtain ⟨⟨name, key⟩, hkeys⟩ := List.forall_mem_cons.1 keys
    cases member : memberOf? ms name with
    | none =>
      rw [recognized_unknown key member] at each
      obtain ⟨all, h⟩ := ih hkeys each fields
      exact ⟨all, .unknown key member h⟩
    | some m =>
      rw [recognized_known key member, List.forall_mem_cons] at each
      obtain ⟨o, ho⟩ := each.1 m member
      obtain ⟨all, h⟩ := ih hkeys each.2 (setField fields name o)
      exact ⟨all, .known key member ho h⟩

end Structures

/-! ### Unions -/

/-- Of what is given for members, one value alone is no `null`. -/
structure Sole (ms : List (Member ν)) (given : List (String × Tree)) (m : Member ν) (u : Tree) : Prop where
  member : memberOf? ms m.name = some m
  mem : (m.name, u) ∈ given
  present : u ≠ .null
  others : ∀ e ∈ given, e.2 ≠ .null → e.1 = m.name

section Unions

variable {ms : List (Member ν)} {entries : List (String × Tree)}

theorem sole_of_given {m : Member ν} {u : Tree} (member : memberOf? ms m.name = some m)
    (h : given ms entries = [(m.name, u)]) : Sole ms (recognized ms entries) m u := by
  obtain ⟨mem, present⟩ := mem_given.1 (h ▸ List.mem_singleton_self (m.name, u))
  refine ⟨member, mem, present, fun e he hne => ?_⟩
  have hmem : e ∈ given ms entries := mem_given.2 ⟨he, hne⟩
  rw [h, List.mem_singleton] at hmem
  rw [hmem]

theorem Sole.given_eq {m : Member ν} {u : Tree} (h : Sole ms (recognized ms entries) m u)
    (orderly : Orderly ms entries) : given ms entries = [(m.name, u)] := by
  have hnodup : (given ms entries).Nodup :=
    (List.Nodup.of_map _ orderly.fresh).sublist List.filter_sublist
  have hmem : ∀ e, e ∈ given ms entries ↔ e ∈ [(m.name, u)] := by
    rintro ⟨name, v⟩
    rw [List.mem_singleton, mem_given]
    constructor
    · rintro ⟨he, hne⟩
      obtain rfl := h.others _ he hne
      rw [eq_of_mem_recognized orderly he h.mem]
    · rintro ⟨⟩
      exact ⟨h.mem, h.present⟩
  exact List.perm_singleton.1 ((List.perm_ext_iff_of_nodup hnodup (List.nodup_singleton _)).2 hmem)

theorem Found.sole {result : Option (String × Draft)} (h : Found S F ms none entries result) :
    (result = none ∧ ∀ e ∈ recognized ms entries, e.2 = .null) ∨ ∃ m u d,
      Sole ms (recognized ms entries) m u ∧ ReadsAs S F m.target u (some d) ∧ result = some (m.name, d) := by
  have hchosen := h.chosen
  generalize hgiven : given ms entries = rest at hchosen
  cases hchosen with
  | idle => exact .inl ⟨rfl, given_eq_nil_iff.1 hgiven⟩
  | sole member value => exact .inr ⟨_, _, _, sole_of_given member hgiven, value, rfl⟩

theorem found_of_null (keys : ∀ e ∈ entries, ∃ key, unescape e.1 = .ok key)
    (hnull : ∀ e ∈ recognized ms entries, e.2 = .null) : Found S F ms none entries none := by
  refine (found_iff keys).2 ?_
  rw [given_eq_nil_iff.2 hnull]
  exact .idle

theorem found_of_sole (orderly : Orderly ms entries) {m : Member ν} {u : Tree} {d : Draft}
    (sole : Sole ms (recognized ms entries) m u) (value : ReadsAs S F m.target u (some d)) :
    Found S F ms none entries (some (m.name, d)) := by
  refine (found_iff orderly.keys).2 ?_
  rw [sole.given_eq orderly]
  exact .sole sole.member value

end Unions

/-! ### What is read of values that are alike -/

/-- What is read of the value `t`, is read of `t'` too, but for the order of fields. -/
def ReadsSame (S : Schema ν) (F : Flavour) (n : ν) (t t' : Tree) : Prop :=
  ∀ o, ReadsAs S F n t o → ∃ o', ReadsAs S F n t' o' ∧ Option.Rel Draft.Same o o'

theorem listed_same {item : ν} {items items' : List Tree} (length : items.length = items'.length)
    (each : ∀ p ∈ items.zip items', ReadsSame S F item p.1 p.2) {ds : List Draft}
    (h : Listed S F item items ds) :
    ∃ ds', Listed S F item items' ds' ∧ List.Forall₂ Draft.Same ds ds' := by
  induction h generalizing items' with
  | nil =>
    cases items' with
    | nil => exact ⟨[], .nil, .nil⟩
    | cons u' items' => cases length
  | @cons u items o ds value absent _ ih =>
    cases items' with
    | nil => cases length
    | cons u' items' =>
      rw [List.zip_cons_cons, List.forall_mem_cons] at each
      obtain ⟨o', value', hsame⟩ := each.1 o value
      obtain ⟨ds', hds', hall⟩ := ih (Nat.succ.inj length) each.2
      cases hsame with
      | none => exact ⟨keepItem none ds', .cons value' absent hds', hall⟩
      | some hsame => exact ⟨keepItem (some _) ds', .cons value' (by simp) hds', .cons hsame hall⟩

section Containers

variable {P : ν → Prop} (hP : DocumentClass S P) {n : ν} (hn : P n)

include hP hn

theorem readsSame_list {item : ν} (shape : S.shape n = .list item) {items items' : List Tree}
    (length : items.length = items'.length)
    (each : ∀ p ∈ items.zip items', ReadsSame S F item p.1 p.2) :
    ReadsSame S F n (.array items) (.array items') := by
  intro o ho
  obtain ⟨h, -⟩ | ⟨_, ds, heq, rfl, hlisted⟩ := ho.listed hP hn shape
  · cases h
  · cases heq
    obtain ⟨ds', hlisted', hsame⟩ := listed_same length each hlisted
    obtain ⟨hlength, hzip⟩ := List.forall₂_iff_zip.1 hsame
    exact ⟨_, hlisted'.readsAs shape, .some (.list hlength fun p hp => hzip hp)⟩

variable {ms : List (Member ν)} {entries entries' : List (String × Tree)} (orderly' : Orderly ms entries')
  (names : ∀ name, (∃ u, (name, u) ∈ recognized ms entries) ↔ ∃ u, (name, u) ∈ recognized ms entries')

include orderly' names

theorem readsSame_struct (shape : S.shape n = .struct ms) (orderly : Orderly ms entries)
    (each : ∀ m ∈ ms, ∀ u u', (m.name, u) ∈ recognized ms entries →
      (m.name, u') ∈ recognized ms entries' → ReadsSame S F m.target u u') :
    ReadsSame S F n (.object entries) (.object entries') := by
  intro o ho
  obtain ⟨h, -⟩ | ⟨_, all, d, heq, rfl, hfilled, hd⟩ := ho.filled hP hn shape
  · cases h
  cases heq
  -- what is recognized among the other entries is read, as what stands under its name in the first draft
  have hread : ∀ e ∈ recognized ms entries', ∀ m, memberOf? ms e.1 = some m →
      ∃ o, ReadsAs S F m.target e.2 o ∧ Option.Rel Draft.Same (Entries.get? e.1 all) o := by
    rintro ⟨name, u'⟩ hu' m hm
    obtain ⟨u, hu⟩ := (names name).2 ⟨u', hu'⟩
    obtain ⟨hmem, rfl⟩ := memberOf?_eq_some hm
    exact each m hmem u u' hu hu' _ (hfilled.readsAs_get? orderly.fresh hm hu)
  obtain ⟨all', hfilled'⟩ :=
    exists_filled orderly'.keys (fun e he m hm => (hread e he m hm).imp fun _ h => h.1) []
  have hsame : (Draft.struct all).Same (.struct all') := by
    refine .of_rel fun name => ?_
    by_cases hname : ∃ u', (name, u') ∈ recognized ms entries'
    · obtain ⟨u', hu'⟩ := hname
      obtain ⟨m, -, -, hm⟩ := member_of_mem_recognized hu'
      obtain ⟨o, ho, hrel⟩ := hread _ hu' m hm
      rwa [ho.unique (hfilled'.readsAs_get? orderly'.fresh hm hu')] at hrel
    · rw [hfilled.get?_other (not_exists.1 ((names name).not.2 hname)),
        hfilled'.get?_other (not_exists.1 hname)]
      exact .none
  obtain ⟨d', hd', hdd'⟩ := hsame.finish hd
  have placed := fun m hm => (hP.member n hn m (members_of_struct shape ▸ hm)).2
  exact ⟨some d', hfilled'.readsAs shape placed hd', .some hdd'⟩

theorem readsSame_union (shape : S.shape n = .union ms)
    (each : ∀ m ∈ ms, ∀ u u', (m.name, u) ∈ recognized ms entries →
      (m.name, u') ∈ recognized ms entries' → (u = .null ↔ u' = .null) ∧ ReadsSame S F m.target u u') :
    ReadsSame S F n (.object entries) (.object entries') := by
  intro o ho
  obtain ⟨h, -⟩ | ⟨_, found, d, heq, rfl, hfound, hd⟩ := ho.found hP hn shape
  · cases h
  cases heq
  obtain ⟨rfl, hnull⟩ | ⟨m, u, x, hsole, hx, rfl⟩ := hfound.sole
  · refine ⟨some d, (found_of_null orderly'.keys ?_).readsAs shape hd, .some (.refl d)⟩
    rintro ⟨name, u'⟩ hu'
    obtain ⟨u, hu⟩ := (names name).2 ⟨u', hu'⟩
    obtain ⟨m, hm, rfl, -⟩ := member_of_mem_recognized hu'
    exact (each m hm u u' hu hu').1.1 (hnull _ hu)
  · obtain ⟨u', hu'⟩ := (names m.name).1 ⟨u, hsole.mem⟩
    obtain ⟨hiff, hsame⟩ := each m (memberOf?_eq_some hsole.member).1 u u' hsole.mem hu'
    obtain ⟨o', hx', hrel⟩ := hsame _ hx
    have hsole' : Sole ms (recognized ms entries') m u' := by
      refine ⟨hsole.member, hu', hiff.not.1 hsole.present, ?_⟩
      rintro ⟨name, v'⟩ hv' hne
      obtain ⟨v, hv⟩ := (names name).2 ⟨v', hv'⟩
      obtain ⟨m', hm', rfl, -⟩ := member_of_mem_recognized hv'
      exact hsole.others (m'.name, v) hv ((each m' hm' v v' hv hv').1.not.2 hne)
    cases hrel with
    | some hxx' =>
      obtain ⟨d', hd', hdd'⟩ := (Draft.Same.variant m.name hxx').finish hd
      exact ⟨some d', (found_of_sole orderly' hsole' hx').readsAs shape hd', .some hdd'⟩

end Containers

/-- **Where one of two values that are alike is read, the other is read as the same**, but for the order
of fields. -/
theorem Alike.readsSame {P : ν → Prop} (hP : DocumentClass S P) {n : ν} (hn : P n) {t t' : Tree}
    (h : Alike S n t t') : ReadsSame S F n t t' := by
  induction h with
  | same n t =>
    intro o ho
    refine ⟨o, ho, ?_⟩
    cases o with
    | none => exact .none
    | some d => exact .some (.refl d)
  | array shape length _ ih =>
    exact readsSame_list hP hn shape length fun p hp => ih p hp (hP.item _ _ hn shape)
  | object shape orderly orderly' names each ih =>
    rcases shape with shape | shape
    · exact readsSame_struct hP hn orderly' names shape orderly fun m hm u u' hu hu' =>
        ih m hm u u' hu hu' (hP.member _ hn m (members_of_struct shape ▸ hm)).1
    · exact readsSame_union hP hn orderly' names shape fun m hm u u' hu hu' =>
        ⟨(each m hm u u' hu hu').null_iff,
          ih m hm u u' hu hu' (hP.member _ hn m (members_of_union shape ▸ hm)).1⟩

/-- So it is with tokens, wherever they stand and whatever comes after them. -/
theorem Alike.reads {P : ν → Prop} (hP : DocumentClass S P) {n : ν} (hn : P n) {t t' : Tree}
    (h : Alike S n t t') {toks : List Token} (htoks : toks.map Token.lexeme = t.lexemes)
    {after rest : Tokens} {o : Option Draft} (hread : S.read F n (toks.map .ok ++ after) = (.ok o, rest)) :
    rest = after ∧ ∃ o', (S.read F n).Reads t'.lexemes o' ∧ Option.Rel Draft.Same o o' := by
  obtain ⟨rfl, ho⟩ := (read_eq_ok_iff hP hn htoks).1 hread
  obtain ⟨o', ho', hsame⟩ := h.readsSame hP hn o ho
  exact ⟨rfl, o', Reads.rounds fun rounds hrounds => ho' rounds (by omega), hsame⟩

/-- Of drafts that are the same the same becomes. -/
theorem decode_of_same {n : ν} {text text' : List UInt8} {o o' : Option Draft} {rest : Tokens}
    (hsame : Option.Rel Draft.Same o o') (hread : S.read F n (tokenize text) = (.ok o, rest))
    (hread' : S.read F n (tokenize text') = (.ok o', rest)) : S.decode F n text' = S.decode F n text := by
  unfold decode
  rw [hread, hread']
  cases hsame with
  | none => rfl
  | some hd => simp only [hd.build_eq n]

end WireShapes.Schema
