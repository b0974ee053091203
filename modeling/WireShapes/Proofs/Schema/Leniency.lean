import WireShapes.Proofs.Schema.Entrywise
import WireShapes.Proofs.Schema.Servers

/-!
A client takes what a server takes.

* `ClientTakes S F n t`: what the side `F` makes of the value `t` as one of the shape `n`, a client makes
  of it too
* `FieldsMirror S F ms fields fields'`: what the side `F` builds of the fields that it has in hand, a
  client builds of those that it has in hand
* `clientTakes_simple`, `clientTakes_list`, `clientTakes_struct`, `clientTakes_union`: one kind of shape
  after the other, given that it holds of all that lies in the value
* `clientTakes`: it holds of all values in which no object repeats a key
* `decode_client`: so a client takes every text that a server takes
* `Conforms.distinctKeys`: what is written for a value repeats no key
-/

namespace WireShapes.Schema

open Json Reader

variable {ν : Type} {S : Schema ν} {F : Flavour}

/-- What the side `F` makes of the lexemes of `t` as a value of the shape `n`, a client makes of them too,
without the types that checked values have. -/
def ClientTakes (S : Schema ν) (F : Flavour) (n : ν) (t : Tree) : Prop :=
  ∀ (rounds : Nat) (toks : List Token) (rest : Tokens) (o : Option Draft) (w : Option Value),
    toks.map Token.lexeme = t.lexemes → S.readAt F rounds n (toks.map .ok ++ rest) = (.ok o, rest) →
    o.map (S.build F n) = w.map .ok →
    ∃ o', S.readAt .client rounds n (toks.map .ok ++ rest) = (.ok o', rest) ∧
      o'.map (S.build .client n) = (w.map Value.bare).map .ok

/-! ### Simple values -/

theorem checked_client {violation : Option Violation} {v w : Value}
    (h : checked F violation v = .ok w) : checked .client violation v.bare = .ok w.bare := by
  obtain ⟨rfl, -⟩ := checked_eq_ok_iff.1 h
  exact checked_eq_ok_iff.2 ⟨rfl, fun hc => by cases hc⟩

theorem checkText_client {n : ν} {s : String} {v : Value} (h : S.checkText F n s = .ok v) :
    S.checkText .client n s = .ok v.bare := by
  unfold checkText at h ⊢
  split at h
  · have hv := checked_client h
    rwa [bare_hold, Value.bare] at hv
  · have hv := checked_client h
    rwa [Value.bare] at hv
  · rw [← Except.ok.inj h, Value.bare]

theorem checkInteger_client {n : ν} {k : Int} {v : Value} (h : S.checkInteger F n k = .ok v) :
    S.checkInteger .client n k = .ok v.bare := by
  unfold checkInteger at h ⊢
  split at h
  · have hv := checked_client h
    rwa [bare_hold, Value.bare] at hv
  · rw [← Except.ok.inj h, Value.bare]

theorem clientTakes_simple {α : Type} {n : ν} {r : Reader (Option α)} {f : α → Draft}
    (reader : ∀ G rounds, S.readAt G (rounds + 1) n = do return (← r).map f)
    (built : ∀ a v, S.build F n (f a) = .ok v → S.build .client n (f a) = .ok v.bare) (t : Tree) :
    ClientTakes S F n t := by
  intro rounds toks rest o w _ hread hbuild
  cases rounds with
  | zero => rw [readAt] at hread; cases hread
  | succ rounds =>
    rw [reader] at hread ⊢
    refine ⟨o, hread, ?_⟩
    obtain ⟨a, more, -, ho⟩ := bind_eq_ok hread
    cases ho
    cases a with
    | none =>
      cases w with
      | none => rfl
      | some v => cases hbuild
    | some a =>
      cases w with
      | none => cases hbuild
      | some v => exact congrArg some (built a v (Option.some.inj hbuild))

/-! ### Lists -/

theorem clientTakes_container {n : ν} (start : Lexeme) (what : Wanted)
    (body : Flavour → Nat → Reader (Option Draft))
    (reader : ∀ G rounds, S.readAt G (rounds + 1) n =
      do if ← readOpening start what then body G rounds else return none)
    {t : Tree} (opened : ∀ (rounds : Nat) (inner : List Token) (rest : Tokens) (d : Draft) (v : Value),
      t.lexemes = start :: inner.map Token.lexeme →
      body F rounds (inner.map .ok ++ rest) = (.ok (some d), rest) → S.build F n d = .ok v →
      ∃ d', body .client rounds (inner.map .ok ++ rest) = (.ok (some d'), rest) ∧
        S.build .client n d' = .ok v.bare)
    (present : ∀ rounds, (body F rounds).Yields fun o => o.isSome = true) : ClientTakes S F n t := by
  intro rounds toks rest o w htoks hread hbuild
  cases rounds with
  | zero => rw [readAt] at hread; cases hread
  | succ rounds =>
    rw [reader] at hread ⊢
    obtain ⟨opens, more, hopen, hgo⟩ := bind_eq_ok hread
    rw [bind_of_ok hopen]
    cases opens with
    | false =>
      cases hgo
      cases w with
      | none => exact ⟨none, rfl, rfl⟩
      | some v => cases hbuild
    | true =>
      obtain ⟨inner, hlex, rfl⟩ := opening_of_lexemes htoks hopen
      obtain ⟨d, rfl⟩ := Option.isSome_iff_exists.1 (present rounds _ _ _ hgo)
      cases w with
      | none => cases hbuild
      | some v =>
        obtain ⟨d', hclient, hd'⟩ := opened rounds inner rest d v hlex hgo (Option.some.inj hbuild)
        exact ⟨some d', hclient, congrArg some hd'⟩

theorem clientTakes_items (hF : F.checks = true) {item : ν} (solid : S.shape item ≠ .stream)
    {items : List Tree} (each : ∀ u ∈ items, ClientTakes S F item u) {rounds : Nat} {toks : List Token}
    {after rest : Tokens} {ds : List Draft} {vs : List Value}
    (htoks : toks.map Token.lexeme = itemLexemes items ++ [.endArray])
    (hread : S.readItems F rounds item (toks.map .ok ++ after) = (.ok ds, rest))
    (hbuild : ds.map (S.build F item) = vs.map .ok) :
    ∃ ds', S.readItems .client rounds item (toks.map .ok ++ after) = (.ok ds', rest) ∧
      ds'.map (S.build .client item) = (vs.map Value.bare).map .ok := by
  induction items generalizing rounds toks ds vs with
  | nil =>
    obtain ⟨t, rfl, ht⟩ := tokens_of_end htoks
    cases rounds with
    | zero => rw [readItems] at hread; cases hread
    | succ rounds =>
      rw [List.map_cons, List.cons_append, readItems_end ht] at hread ⊢
      cases hread
      cases vs with
      | nil => exact ⟨[], rfl, rfl⟩
      | cons v vs => cases hbuild
  | cons u items ih =>
    rw [itemLexemes, List.append_assoc] at htoks
    obtain ⟨first, more, rfl, hfirst, hmore⟩ := List.map_eq_append_iff.1 htoks
    cases rounds with
    | zero => rw [readItems] at hread; cases hread
    | succ rounds =>
      rw [List.map_append, List.append_assoc] at hread ⊢
      obtain ⟨o, ds', hitem, hnone, hitems, rfl⟩ := readItems_item_eq_ok hfirst solid hread
      cases o with
      | none => rw [hnone rfl] at hF; cases hF
      | some d =>
        cases vs with
        | nil => cases hbuild
        | cons v vs =>
          obtain ⟨hd, hds⟩ := List.cons.inj hbuild
          obtain ⟨o', hitem', ho'⟩ := each u (by simp) rounds first _ (some d) (some v) hfirst hitem
            (congrArg some hd)
          obtain ⟨d', rfl, hd'⟩ := Option.map_eq_some_iff.1 ho'
          obtain ⟨more', hitems', hmore'⟩ := ih (fun x hx => each x (by simp [hx])) hmore hitems hds
          refine ⟨d' :: more', readItems_item hfirst hitem' (fun h => by cases h) hitems', ?_⟩
          rw [List.map_cons, List.map_cons, List.map_cons, hd', hmore']

theorem clientTakes_list (hF : F.checks = true) {n item : ν} (shape : S.shape n = .list item)
    (solid : S.shape item ≠ .stream) {t : Tree} (each : ∀ u ∈ t.children, ClientTakes S F item u) :
    ClientTakes S F n t := by
  refine clientTakes_container .startArray .arrayOrNull
    (fun G rounds => do return some (.list (← S.readItems G rounds item)))
    (fun G rounds => by rw [readAt, shape]) (fun rounds inner rest d v hlex hread hbuild => ?_)
    fun rounds => ?_
  · obtain ⟨items, rfl, hinner⟩ := Tree.array_of_lexemes hlex
    obtain ⟨ds, more, hitems, hend⟩ := bind_eq_ok hread
    cases hend
    rw [build, Results.map_eq_ok_iff] at hbuild
    obtain ⟨vs, hvs, rfl⟩ := hbuild
    rw [buildItems_eq_ok_iff, item_of_list shape] at hvs
    obtain ⟨ds', hitems', hds'⟩ := clientTakes_items hF solid each hinner hitems hvs
    rw [← item_of_list shape, ← buildItems_eq_ok_iff (i := 0)] at hds'
    refine ⟨.list ds', bind_of_ok hitems' _, ?_⟩
    rw [build, hds', Value.bare, bareItems_eq]
    rfl
  · exact Yields.seq fun _ => yields_pure rfl

/-! ### Structures -/

/-- The fields in hand of a side and of a client: what the one builds, the other builds. -/
def FieldsMirror (S : Schema ν) (F : Flavour) (ms : List (Member ν)) (fields fields' : List (String × Draft)) :
    Prop :=
  ∀ m ∈ ms, ∀ w : Option Value, (Entries.get? m.name fields).map (S.build F m.target) = w.map .ok →
    (Entries.get? m.name fields').map (S.build .client m.target) = (w.map Value.bare).map .ok

theorem fieldsMirror_nil (ms : List (Member ν)) : FieldsMirror S F ms [] [] := by
  intro m _ w h
  cases w with
  | none => rfl
  | some v => cases h

theorem FieldsMirror.setField {ms : List (Member ν)} (hnd : (ms.map (·.name)).Nodup)
    {fields fields' : List (String × Draft)} (h : FieldsMirror S F ms fields fields') {m : Member ν}
    (hm : m ∈ ms) {o o' : Option Draft} {w : Option Value} (ho : o.map (S.build F m.target) = w.map .ok)
    (ho' : o'.map (S.build .client m.target) = (w.map Value.bare).map .ok) :
    FieldsMirror S F ms (Schema.setField fields m.name o) (Schema.setField fields' m.name o') := by
  intro m' hm' w' hw'
  rw [get?_setField] at hw' ⊢
  by_cases hname : m.name = m'.name
  · obtain rfl := Option.some.inj ((find_member hnd hm).symm.trans (hname ▸ find_member hnd hm'))
    rw [if_pos rfl] at hw' ⊢
    obtain rfl := Option.map_injective (fun _ _ => Except.ok.inj) (ho.symm.trans hw')
    exact ho'
  · rw [if_neg hname] at hw' ⊢
    exact h m' hm' w' hw'

/-- The entries of an object and its end. No key comes twice, so that every draft that is read stands in
the structure that is built. -/
theorem clientTakes_members {ms : List (Member ν)} (hnd : (ms.map (·.name)).Nodup)
    (solid : ∀ m ∈ ms, S.shape m.target ≠ .stream) {entries : List (String × Tree)}
    (distinct : (Tree.object entries).FreshKeys)
    (each : ∀ u ∈ entries.map Prod.snd, ∀ m ∈ ms, ClientTakes S F m.target u) {rounds : Nat}
    {toks : List Token} {after rest : Tokens} {fields fields' all : List (String × Draft)}
    (htoks : toks.map Token.lexeme = entryLexemes entries ++ [.endObject])
    (hread : S.readMembers F rounds ms fields (toks.map .ok ++ after) = (.ok all, rest))
    (hall : ∀ m ∈ ms, ∀ d, Entries.get? m.name all = some d → ∃ v, S.build F m.target d = .ok v)
    (hfields : FieldsMirror S F ms fields fields') :
    ∃ all', S.readMembers .client rounds ms fields' (toks.map .ok ++ after) = (.ok all', rest) ∧
      FieldsMirror S F ms all all' := by
  induction entries generalizing rounds toks fields fields' with
  | nil =>
    obtain ⟨t, rfl, ht⟩ := tokens_of_end htoks
    cases rounds with
    | zero => rw [readMembers] at hread; cases hread
    | succ rounds =>
      rw [List.map_cons, List.cons_append, readMembers_end ht] at hread ⊢
      cases hread
      exact ⟨fields', rfl, hfields⟩
  | cons e entries ih =>
    obtain ⟨raw, u⟩ := e
    obtain ⟨t, first, more, rfl, ht, hfirst, hmore⟩ := tokens_of_entry htoks
    obtain ⟨hown, hdistinct⟩ := List.pairwise_cons.1 distinct
    rw [List.map_cons, List.forall_mem_cons] at each
    cases rounds with
    | zero => rw [readMembers] at hread; cases hread
    | succ rounds =>
      rw [List.map_cons, List.cons_append, List.map_append, List.append_assoc] at hread ⊢
      obtain ⟨key, hkey, ⟨m, o, hm, hvalue, hrest⟩ | ⟨hm, hrest⟩⟩ :=
        readMembers_entry_eq_ok ht hfirst solid hread
      · obtain ⟨hmem, rfl⟩ := memberOf?_eq_some hm
        -- the draft stands in the structure, and is built there
        have hget : Entries.get? m.name all = o := by
          rw [readMembers_keeps solid (fun e he => hown e he m.name hkey) hmore hrest, get?_setField,
            if_pos rfl]
        obtain ⟨w, hw⟩ : ∃ w : Option Value, o.map (S.build F m.target) = w.map .ok := by
          cases o with
          | none => exact ⟨none, rfl⟩
          | some d =>
            obtain ⟨v, hv⟩ := hall m hmem d hget
            exact ⟨some v, congrArg some hv⟩
        obtain ⟨o', hvalue', ho'⟩ := each.1 m hmem rounds first _ o w hfirst hvalue hw
        obtain ⟨all', hrest', hall'⟩ := ih hdistinct each.2 hmore hrest
          (hfields.setField hnd hmem hw ho')
        exact ⟨all', (readMembers_known ht hkey hm hvalue' fields').trans hrest', hall'⟩
      · obtain ⟨all', hrest', hall'⟩ := ih hdistinct each.2 hmore hrest hfields
        exact ⟨all', (readMembers_unknown ht hkey hm hfirst fields' _).trans hrest', hall'⟩

/-- What a side builds of its fields, a client builds of those that mirror them. -/
theorem FieldsMirror.build_struct (hS : WellFormed S) {n : ν} {ms : List (Member ν)}
    (shape : S.shape n = .struct ms) {fields fields' : List (String × Draft)}
    (h : FieldsMirror S F ms fields fields') {v : Value} (hv : S.build F n (.struct fields) = .ok v) :
    S.build .client n (.struct fields') = .ok v.bare := by
  obtain ⟨values, rfl, order, hall⟩ := (build_struct_eq_ok_iff hS shape).1 hv
  refine (build_struct_eq_ok_iff hS shape).2 ⟨bareFields values, by rw [Value.bare],
    by rw [names_bareFields]; exact order, fun m hm => ?_⟩
  rw [get?_bareFields]
  cases hget : Entries.get? m.name fields with
  | some d =>
    obtain ⟨w, hw, hbuilt⟩ := (hall m hm).1 d hget
    have hclient := h m hm (some w) (by rw [hget, Option.map_some, hbuilt]; rfl)
    obtain ⟨d', hd', hbuilt'⟩ := Option.map_eq_some_iff.1 hclient
    rw [hd', hw]
    exact ⟨fun x hx => ⟨w.bare, rfl, Option.some.inj hx ▸ hbuilt'⟩, by simp⟩
  | none =>
    obtain ⟨hdefault, hgiven⟩ := (hall m hm).2 hget
    have hclient := h m hm none (by rw [hget]; rfl)
    rw [Option.map_eq_none_iff.1 hclient, hdefault]
    refine ⟨by simp, fun _ => ⟨?_, hgiven⟩⟩
    -- a default is what all sides hold, so that no checked value is in it
    cases hd : m.default with
    | none => rfl
    | some x =>
      have hx := hS.default n m (members_of_struct shape ▸ hm) x hd .client
      rw [Option.map_some, hx.bare_eq hS]

theorem finish_client {n : ν} {d : Draft} {v : Value} (h : S.build .client n d = .ok v) (ts : Tokens) :
    S.finish .client n d ts = (.ok (.built v), ts) :=
  reads_finish h [] ts rfl

theorem clientTakes_struct (hS : WellFormed S) (hF : F.checks = true) {n : ν} {ms : List (Member ν)}
    (shape : S.shape n = .struct ms) (solid : ∀ m ∈ ms, S.shape m.target ≠ .stream)
    (placed : ∀ m ∈ ms, m.place ≠ .stream) {t : Tree} (distinct : t.FreshKeys)
    (each : ∀ u ∈ t.children, ∀ m ∈ ms, ClientTakes S F m.target u) : ClientTakes S F n t := by
  have hms := members_of_struct shape
  have hdoc : S.documentMembers n = ms := (documentMembers_eq (hms ▸ placed)).trans hms
  refine clientTakes_container .startObject .objectOrNull (fun G rounds => do
      let fields ← S.readMembers G rounds ms []
      return some (← S.finish G n (.struct fields)))
    (fun G rounds => by rw [readAt, shape, hdoc]) (fun rounds inner rest d v hlex hread hbuild => ?_)
    fun rounds => ?_
  · obtain ⟨entries, rfl, hinner⟩ := Tree.object_of_lexemes hlex
    obtain ⟨all, more, hmembers, hend⟩ := bind_eq_ok hread
    rw [finish_of_checks hF] at hend
    cases hend
    have hall : ∀ m ∈ ms, ∀ d, Entries.get? m.name all = some d → ∃ v, S.build F m.target d = .ok v := by
      intro m hm d hd
      obtain ⟨values, -, -, hvalues⟩ := (build_struct_eq_ok_iff hS shape).1 hbuild
      obtain ⟨w, -, hw⟩ := (hvalues m hm).1 d hd
      exact ⟨w, hw⟩
    obtain ⟨all', hmembers', hmirror⟩ := clientTakes_members (hms ▸ hS.nodup n) solid distinct each
      hinner hmembers hall (fieldsMirror_nil ms)
    refine ⟨.built v.bare, ?_, by rw [build]⟩
    rw [bind_of_ok hmembers', bind_of_ok (finish_client (hmirror.build_struct hS shape hbuild) _)]
    rfl
  · exact Yields.seq fun _ => Yields.seq fun _ => yields_pure rfl

/-! ### Unions -/

theorem clientTakes_entries {ms : List (Member ν)} (solid : ∀ m ∈ ms, S.shape m.target ≠ .stream)
    {entries : List (String × Tree)}
    (each : ∀ u ∈ entries.map Prod.snd, ∀ m ∈ ms, ClientTakes S F m.target u) {rounds : Nat}
    {toks : List Token} {after rest : Tokens} {name : String} {d : Draft}
    (htoks : toks.map Token.lexeme = entryLexemes entries ++ [.endObject])
    (hread : S.readVariant F rounds ms none (toks.map .ok ++ after) = (.ok (some (name, d)), rest)) :
    ∃ m ∈ ms, m.name = name ∧ ∀ w, S.build F m.target d = .ok w →
      ∃ d', S.readVariant .client rounds ms none (toks.map .ok ++ after) = (.ok (some (name, d')), rest) ∧
        S.build .client m.target d' = .ok w.bare := by
  induction entries generalizing rounds toks with
  | nil =>
    obtain ⟨t, rfl, ht⟩ := tokens_of_end htoks
    cases rounds with
    | zero => rw [readVariant] at hread; cases hread
    | succ rounds => rw [List.map_cons, List.cons_append, readVariant_end ht] at hread; cases hread
  | cons e entries ih =>
    obtain ⟨raw, u⟩ := e
    obtain ⟨t, first, more, rfl, ht, hfirst, hmore⟩ := tokens_of_entry htoks
    rw [List.map_cons, List.forall_mem_cons] at each
    cases rounds with
    | zero => rw [readVariant] at hread; cases hread
    | succ rounds =>
      rw [List.map_cons, List.cons_append, List.map_append, List.append_assoc] at hread ⊢
      by_cases hu : u = .null
      · subst hu
        obtain ⟨t', rfl, ht'⟩ := tokens_of_end hfirst
        rw [List.map_cons, List.map_nil, List.cons_append, List.nil_append] at hread ⊢
        rw [readVariant_null ht ht'] at hread ⊢
        exact ih each.2 hmore hread
      · obtain ⟨key, hkey, ⟨m, d₁, hm, -, hvalue, hrest⟩ | ⟨hm, hrest⟩⟩ :=
          readVariant_entry_eq_ok ht hfirst hu solid hread
        · obtain ⟨hresult, hclient⟩ := readVariant_found solid hmore hrest
          cases hresult
          obtain ⟨hmem, hname⟩ := memberOf?_eq_some hm
          refine ⟨m, hmem, hname, fun w hw => ?_⟩
          obtain ⟨o', hvalue', ho'⟩ := each.1 m hmem rounds first _ (some d) (some w) hfirst hvalue
            (congrArg some hw)
          obtain ⟨d', rfl, hd'⟩ := Option.map_eq_some_iff.1 ho'
          exact ⟨d', (readVariant_known ht hkey hm hfirst hu hvalue').trans (hclient .client _), hd'⟩
        · rw [readVariant_unknown ht hkey hm hfirst hu]
          exact ih each.2 hmore hrest

/-- A union is read to its end, and then finished if there is a variant. -/
theorem readAt_union {n : ν} {ms : List (Member ν)} (shape : S.shape n = .union ms) {rounds : Nat} :
    S.readAt F (rounds + 1) n = (do
      if ← readOpening .startObject .objectOrNull then
        S.readVariant F rounds ms none >>= fun found => found.elim (do return some (← noVariant F))
          fun x => do return some (← S.finish F n (.variant x.1 x.2))
      else return none) := by
  rw [readAt, shape]
  refine bind_congr fun opens => ?_
  cases opens with
  | false => rfl
  | true => exact bind_congr fun found => by cases found <;> rfl

theorem clientTakes_union (hS : WellFormed S) (hF : F.checks = true) {n : ν} {ms : List (Member ν)}
    (shape : S.shape n = .union ms) (solid : ∀ m ∈ ms, S.shape m.target ≠ .stream) {t : Tree}
    (each : ∀ u ∈ t.children, ∀ m ∈ ms, ClientTakes S F m.target u) : ClientTakes S F n t := by
  refine clientTakes_container .startObject .objectOrNull (fun G rounds =>
      S.readVariant G rounds ms none >>= fun found => found.elim (do return some (← noVariant G))
        fun x => do return some (← S.finish G n (.variant x.1 x.2)))
    (fun G rounds => readAt_union shape) (fun rounds inner rest d v hlex hread hbuild => ?_)
    fun rounds => ?_
  · obtain ⟨entries, rfl, hinner⟩ := Tree.object_of_lexemes hlex
    obtain ⟨found, more, hvariant, hend⟩ := bind_eq_ok hread
    cases found with
    | none =>
      -- only a client goes without a variant
      rw [Option.elim_none, noVariant_of_checks hF] at hend
      cases hend
    | some x =>
      obtain ⟨name, d₁⟩ := x
      rw [Option.elim_some, finish_of_checks hF] at hend
      cases hend
      obtain ⟨m, hm, rfl, hclient⟩ := clientTakes_entries solid each hinner hvariant
      have htarget := hS.target_eq (members_of_union shape ▸ hm)
      rw [build, htarget] at hbuild
      cases hw : S.build F m.target d₁ with
      | error e => rw [hw] at hbuild; cases hbuild
      | ok w =>
        rw [hw] at hbuild
        cases hbuild
        obtain ⟨d', hvariant', hd'⟩ := hclient w hw
        have hbuilt : S.build .client n (.variant m.name d') = .ok (Value.variant m.name w).bare := by
          rw [build, htarget, hd', Value.bare]
        refine ⟨.built _, ?_, by rw [build]⟩
        rw [bind_of_ok hvariant']
        exact bind_of_ok (finish_client hbuilt _) _
  · refine Yields.seq fun found => ?_
    cases found with
    | none => exact Yields.seq fun _ => yields_pure rfl
    | some x => exact Yields.seq fun _ => yields_pure rfl

/-! ### All values -/

/-- **What a side that checks rules makes of a value, a client makes of it too**, if no object in it
repeats a key. -/
theorem clientTakes (hS : WellFormed S) {P : ν → Prop} (hP : DocumentClass S P) (hF : F.checks = true)
    {t : Tree} (distinct : t.DistinctKeys) {n : ν} (hn : P n) : ClientTakes S F n t := by
  induction distinct generalizing n with
  | @intro t own each ih =>
    have part : ∀ ms, S.members n = ms → ∀ m ∈ ms, P m.target ∧ m.place ≠ .stream :=
      fun ms hms => hms ▸ hP.member n hn
    cases shape : S.shape n with
    | text rule =>
      refine clientTakes_simple (r := string) (f := .text) (fun G rounds => by rw [readAt, shape])
        (fun s v h => ?_) t
      rw [build] at h ⊢
      exact checkText_client h
    | enumeration constants =>
      refine clientTakes_simple (r := string) (f := .text) (fun G rounds => by rw [readAt, shape])
        (fun s v h => ?_) t
      rw [build] at h ⊢
      exact checkText_client h
    | integer range =>
      refine clientTakes_simple (r := readInteger) (f := .integer) (fun G rounds => by rw [readAt, shape])
        (fun k v h => ?_) t
      rw [build] at h ⊢
      exact checkInteger_client h
    | boolean =>
      refine clientTakes_simple (r := bool) (f := .boolean) (fun G rounds => by rw [readAt, shape])
        (fun b v h => ?_) t
      rw [build] at h ⊢
      rw [← Except.ok.inj h, Value.bare]
    | blob => exact absurd shape (hP.solid n hn).1
    | stream => exact absurd shape (hP.solid n hn).2
    | list item =>
      have hitem := hP.item n item hn shape
      exact clientTakes_list hF shape (hP.solid item hitem).2 fun u hu => ih u hu hitem
    | struct ms =>
      have hms := part ms (members_of_struct shape)
      exact clientTakes_struct hS hF shape (fun m hm => (hP.solid _ (hms m hm).1).2)
        (fun m hm => (hms m hm).2) own fun u hu m hm => ih u hu (hms m hm).1
    | union ms =>
      have hms := part ms (members_of_union shape)
      exact clientTakes_union hS hF shape (fun m hm => (hP.solid _ (hms m hm).1).2)
        fun u hu m hm => ih u hu (hms m hm).1

/-- **A client takes every text that a server takes**, in whose value no object repeats a key, and what
both read is written the same. -/
theorem decode_client (hS : WellFormed S) {P : ν → Prop} (hP : DocumentClass S P) (hF : F.checks = true)
    {n : ν} (hn : P n) {text : List UInt8} (distinct : ∀ t, StartsWith text t → t.DistinctKeys)
    {o : Option Value} {rest : Tokens} (h : S.decode F n text = .ok (o, rest)) :
    ∃ o', S.decode .client n text = .ok (o', rest) ∧ o'.map Value.toJson = o.map Value.toJson := by
  obtain ⟨d, hread, hbuild⟩ := decode_eq_ok_iff.1 h
  obtain ⟨t, toks, htokens, hlex⟩ :=
    startsWith_of_skipValue (skips_readAt _ (hP.solid n hn).2 _ _ _ hread)
  have htakes := clientTakes hS hP hF (distinct t ⟨toks, rest, htokens, hlex⟩) hn
  obtain ⟨d', hread', hbuild'⟩ := htakes _ toks rest d o hlex (htokens ▸ hread) hbuild
  refine ⟨o.map Value.bare, decode_eq_ok_iff.2 ⟨d', ?_, hbuild'⟩, ?_⟩
  · rw [htokens]
    exact hread'
  · cases o with
    | none => rfl
    | some v =>
      have hv := (conforms_of_decode hS h).toNode_bare hS hP hn
      rw [Option.map_some, Option.map_some, Option.map_some, Value.toJson, Value.toJson, hv]

/-! ### Written values -/

theorem distinctKeys_leaf {t : Tree} (own : t.FreshKeys) (h : t.children = []) : t.DistinctKeys :=
  .intro own fun u hu => by simp [h] at hu

theorem distinctKeys_object {entries : List (String × Node)} (hnd : (entries.map Prod.fst).Nodup)
    (each : ∀ e ∈ entries, e.2.tree.DistinctKeys) : (Node.object entries).tree.DistinctKeys := by
  rw [Node.tree, entryTrees_eq]
  refine .intro ?_ fun u hu => ?_
  · refine List.pairwise_map.2 ((List.pairwise_map.1 hnd).imp fun hne key ha hb => hne ?_)
    rw [unescape_escape, Except.ok.injEq] at ha hb
    exact ha.trans hb.symm
  · obtain ⟨entry, hentry, rfl⟩ := List.mem_map.1 hu
    obtain ⟨e, he, rfl⟩ := List.mem_map.1 hentry
    exact each e he

/-- No field is written twice. -/
theorem names_fieldNodes (fields : List (String × Value)) :
    ((fieldNodes fields).map Prod.fst).Sublist (fields.map Prod.fst) := by
  induction fields with
  | nil => simp [fieldNodes]
  | cons f rest ih =>
    unfold fieldNodes
    split
    · cases ‹_ :: _ = []›
    · next heq =>
      obtain ⟨rfl, rfl⟩ := List.cons.inj heq
      exact ih.cons _
    · next heq =>
      obtain ⟨rfl, rfl⟩ := List.cons.inj heq
      exact ih.cons_cons _

/-- **No object in what is written for a value repeats a key.** -/
theorem Conforms.distinctKeys (hS : WellFormed S) {n : ν} {v : Value} (h : Conforms S F n v) :
    v.toNode.tree.DistinctKeys := by
  induction h with
  | text shape form => rw [form, toNode_hold]; exact distinctKeys_leaf trivial rfl
  | integer shape form => rw [form, toNode_hold]; exact distinctKeys_leaf trivial rfl
  | boolean => exact distinctKeys_leaf trivial rfl
  | blob => exact distinctKeys_leaf trivial rfl
  | symbol => exact distinctKeys_leaf trivial rfl
  | list shape _ ih =>
    rw [Value.toNode, Node.tree, itemNodes_eq, itemTrees_eq]
    refine .intro trivial fun u hu => ?_
    obtain ⟨x, hx, rfl⟩ := List.mem_map.1 hu
    obtain ⟨v, hv, rfl⟩ := List.mem_map.1 hx
    exact ih v hv
  | struct shape order standing _ ih =>
    rw [Value.toNode]
    refine distinctKeys_object ?_ fun e he => ?_
    · exact ((names_fieldNodes _).trans order).nodup (members_of_struct shape ▸ hS.nodup _)
    · obtain ⟨v, hv, heq⟩ := mem_fieldNodes he
      obtain ⟨m, hm, -, hget⟩ := get?_of_mem_fields hS shape order hv
      exact heq ▸ ih m hm v hget
  | variant shape mem _ ih =>
    rw [Value.toNode]
    refine distinctKeys_object (by simp) fun e he => ?_
    rw [List.mem_singleton.1 he]
    exact ih
  | unknown => exact distinctKeys_object (by simp) (by simp)
  | stream => exact distinctKeys_leaf trivial rfl

/-- The text of a value starts with what is written for it and with nothing else. -/
theorem Conforms.startsWith_toJson (hS : WellFormed S) {n : ν} {v : Value} (h : Conforms S F n v)
    (hdepth : v.toNode.tree.depth ≤ maxDepth) : StartsWith (Utf8.encode v.toJson) v.toNode.tree := by
  obtain ⟨toks, hlex, htoks⟩ := tokenize_write (h.plain hS) hdepth
  exact ⟨toks, [], by rw [List.append_nil]; exact htoks, hlex⟩

end WireShapes.Schema
