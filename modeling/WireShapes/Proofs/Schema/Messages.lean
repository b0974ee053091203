import WireShapes.Proofs.Schema.Flavours
import WireShapes.Proofs.Schema.Intake

/-!
The parts of a message give back the members that were put into them.

* `Carried F v p fields`: of the members of `v` those with a name in `p` are in hand, as the side `F`
  reads them, and nothing else is
* `readQueryMembers_carried`, `readHeaders_carried`, `readBody_carried`: one lemma for each part of a
  message; what was in hand stays, and the members of the part come in
* `build_of_carried`: once all members are in hand, what is built does not depend on the way they came
-/

namespace WireShapes.Schema

open Http Json

variable {ν : Type} {S : Schema ν} {F : Flavour} {v : Value}

/-- Of the members of `v` those with a name in `p` are in hand, and nothing else is. -/
structure Carried (F : Flavour) (v : Value) (p : String → Prop) (fields : List (String × Draft)) :
    Prop where
  inside : ∀ name, p name → Entries.get? name fields = (v.get? name).map (Value.draft F)
  outside : ∀ name, ¬p name → Entries.get? name fields = none

theorem carried_nil : Carried F v (fun _ => False) [] :=
  ⟨fun _ h => h.elim, fun _ _ => rfl⟩

namespace Carried

variable {p q : String → Prop} {fields : List (String × Draft)}

theorem congr (h : Carried F v p fields) (hpq : ∀ name, p name ↔ q name) : Carried F v q fields :=
  ⟨fun name hq => h.inside name ((hpq name).2 hq), fun name hq => h.outside name ((hpq name).not.2 hq)⟩

theorem give (h : Carried F v p fields) {name : String} {w : Value} (hw : v.get? name = some w) :
    Carried F v (fun x => p x ∨ x = name) (setField fields name (some (w.draft F))) := by
  refine ⟨fun x hx => ?_, fun x hx => ?_⟩ <;> rw [get?_setField]
  · split
    · next hname => rw [← hname, hw, Option.map_some]
    · next hname => exact h.inside x (hx.resolve_right fun hc => hname hc.symm)
  · rw [not_or] at hx
    rw [if_neg fun hc => hx.2 hc.symm]
    exact h.outside x hx.1

theorem skip (h : Carried F v p fields) {name : String} (hw : v.get? name = none) :
    Carried F v (fun x => p x ∨ x = name) fields := by
  refine ⟨fun x hx => ?_, fun x hx => h.outside x fun hp => hx (.inl hp)⟩
  by_cases hp : p x
  · exact h.inside x hp
  · rw [h.outside x hp, hx.resolve_left hp, hw, Option.map_none]

end Carried

/-- A member of the list that travels in such a place has the name. -/
def Among (place : Place → Prop) (members : List (Member ν)) (name : String) : Prop :=
  ∃ m ∈ members, place m.place ∧ m.name = name

section Among

variable {place : Place → Prop} {p : String → Prop} {fields : List (String × Draft)} {m : Member ν}
  {members : List (Member ν)}

theorem Carried.among_nil (h : Carried F v p fields) :
    Carried F v (fun x => p x ∨ Among place ([] : List (Member ν)) x) fields :=
  h.congr fun x => by simp [Among]

theorem Carried.among_cons (hm : place m.place)
    (h : Carried F v (fun x => (p x ∨ x = m.name) ∨ Among place members x) fields) :
    Carried F v (fun x => p x ∨ Among place (m :: members) x) fields := by
  refine h.congr fun x => ?_
  have hx : x = m.name ↔ m.name = x := eq_comm
  simp only [Among, List.mem_cons, exists_eq_or_imp, hm, true_and, or_assoc, hx]

theorem Carried.among_cons_of_not (hm : ¬place m.place)
    (h : Carried F v (fun x => p x ∨ Among place members x) fields) :
    Carried F v (fun x => p x ∨ Among place (m :: members) x) fields := by
  refine h.congr fun x => ?_
  simp only [Among, List.mem_cons, exists_eq_or_imp, hm, false_and, false_or]

end Among

/-! ### Query and headers -/

def InQuery (place : Place) : Prop := ∃ key, place = .query key

def InHeader (place : Place) : Prop := ∃ name, place = .header name

theorem readQueryMembers_carried {pairs : List (String × String)} {members : List (Member ν)}
    (each : ∀ m ∈ members, ∀ key, m.place = .query key →
      readQueryMember S m key pairs = .ok ((v.get? m.name).map (Value.draft F)))
    {p : String → Prop} {fields : List (String × Draft)} (h : Carried F v p fields) :
    ∃ after, readQueryMembers S pairs members fields = .ok after ∧
      Carried F v (fun x => p x ∨ Among InQuery members x) after := by
  induction members generalizing p fields with
  | nil => exact ⟨fields, rfl, h.among_nil⟩
  | cons m rest ih =>
    have hrest := fun m hm => each m (List.mem_cons_of_mem _ hm)
    rw [readQueryMembers]
    split
    · next key hkey =>
      rw [each m (by simp) key hkey, Results.ok_bind]
      cases hw : v.get? m.name with
      | some w =>
        obtain ⟨after, hafter, hc⟩ := ih hrest (h.give hw)
        exact ⟨after, hafter, hc.among_cons ⟨key, hkey⟩⟩
      | none =>
        obtain ⟨after, hafter, hc⟩ := ih hrest (h.skip hw)
        exact ⟨after, hafter, hc.among_cons ⟨key, hkey⟩⟩
    · next hplace =>
      obtain ⟨after, hafter, hc⟩ := ih hrest h
      have hno : ¬InQuery m.place := by
        rintro ⟨key, hkey⟩
        exact hplace key hkey
      exact ⟨after, hafter, hc.among_cons_of_not hno⟩

theorem readHeaders_carried {headers : Headers} {members : List (Member ν)}
    (each : ∀ m ∈ members, ∀ name, m.place = .header name →
      one headers name = .ok ((v.get? m.name).map Value.plain) ∧
      ∀ w, v.get? m.name = some w → ofPlain (S.shape m.target) w.plain = .ok (w.draft F))
    {p : String → Prop} {fields : List (String × Draft)} (h : Carried F v p fields) :
    ∃ after, S.readHeaders headers members fields = .ok after ∧
      Carried F v (fun x => p x ∨ Among InHeader members x) after := by
  induction members generalizing p fields with
  | nil => exact ⟨fields, rfl, h.among_nil⟩
  | cons m rest ih =>
    have hrest := fun m hm => each m (List.mem_cons_of_mem _ hm)
    rw [readHeaders]
    split
    · next name hname =>
      obtain ⟨hone, hplain⟩ := each m (by simp) name hname
      rw [hone, Results.ok_bind]
      cases hw : v.get? m.name with
      | some w =>
        obtain ⟨after, hafter, hc⟩ := ih hrest (h.give hw)
        simp only [Option.map_some, hplain w hw]
        exact ⟨after, hafter, hc.among_cons ⟨name, hname⟩⟩
      | none =>
        obtain ⟨after, hafter, hc⟩ := ih hrest (h.skip hw)
        exact ⟨after, hafter, hc.among_cons ⟨name, hname⟩⟩
    · next hplace =>
      obtain ⟨after, hafter, hc⟩ := ih hrest h
      have hno : ¬InHeader m.place := by
        rintro ⟨name, hname⟩
        exact hplace name hname
      exact ⟨after, hafter, hc.among_cons_of_not hno⟩

/-! ### Body -/

/-- The fields of a structure that travel in the body. -/
def bodyFields (members : List (Member ν)) (fields : List (String × Value)) : List (String × Value) :=
  fields.filter fun f => ((bodyMembers members).map (·.name)).contains f.1

theorem bodyBytes_struct (members : List (Member ν)) (fields : List (String × Value)) :
    bodyBytes members (.struct fields) = Utf8.encode (Value.struct (bodyFields members fields)).toJson :=
  rfl

theorem readBody_toJson {members : List (Member ν)} {fields : List (String × Value)}
    (plain : (Value.struct fields).toNode.Plain) (depth : (Value.struct fields).toNode.tree.depth ≤ maxDepth)
    (solid : ∀ f ∈ fields, f.2 ≠ .stream)
    (each : ∀ f ∈ fields, ∃ m, memberOf? members f.1 = some m ∧ ReadsValue S F m.target f.2)
    (given : List (String × Draft)) :
    S.readBody F members (Utf8.encode (Value.struct fields).toJson) given =
      .ok (giveFields given (fieldDrafts F fields)) := by
  obtain ⟨toks, hlex, htoks⟩ := tokenize_write plain depth
  have hne : (Utf8.encode (Value.struct fields).toJson).isEmpty = false := by
    rw [Value.toJson, Value.toNode, Node.write, Utf8.encode_append, Utf8.encode_append]
    rfl
  have hobject : (Value.struct fields).toNode.tree.lexemes =
      .startObject :: (fieldLexemes fields ++ [.endObject]) := by
    rw [Value.toNode, fieldNodes_eq solid, Node.tree, Tree.lexemes, fieldLexemes]
  rw [hobject] at hlex
  obtain ⟨t, more, rfl, ht, hmore⟩ := List.map_eq_cons_iff.1 hlex
  have hopen : Reader.expectObject (.ok t :: more.map .ok) = (.ok (), more.map .ok) := by
    have htoken : Reader.token (.ok t :: more.map .ok) = (.ok t, more.map .ok) := rfl
    unfold Reader.expectObject
    rw [Reader.bind_of_ok htoken, ht]
    rfl
  have hlen : more.length = (fieldLexemes fields).length + 1 := by
    rw [← List.length_map, hmore, List.length_append, List.length_singleton]
  have hfields := reads_fieldDrafts (S := S) (F := F) each (2 * (more.map .ok : Tokens).length + 2)
    (by rw [List.length_map, hlen]; omega) given more [] hmore
  rw [List.append_nil] at hfields
  have hread : S.readObject F members given (.ok t :: more.map .ok) =
      (.ok (giveFields given (fieldDrafts F fields)), []) := by
    unfold readObject
    rw [Reader.bind_of_ok hopen, Reader.bind_of_ok (rfl : Reader.rounds _ = _), Reader.bind_of_ok hfields]
    rfl
  rw [readBody, hne, if_neg (by simp), Value.toJson, htoks, List.map_cons, hread]

theorem get?_giveFields {given : List (String × Draft)} (hd : (given.map Prod.fst).Nodup)
    (fields : List (String × Draft)) (key : String) :
    Entries.get? key (giveFields fields given) =
      (Entries.get? key given).or (Entries.get? key fields) := by
  induction given generalizing fields with
  | nil => rfl
  | cons d rest ih =>
    obtain ⟨name, d⟩ := d
    rw [List.map_cons, List.nodup_cons] at hd
    have hstep : giveFields fields ((name, d) :: rest) =
        giveFields (setField fields name (some d)) rest := rfl
    rw [hstep, ih hd.2, get?_setField, Entries.get?_cons]
    by_cases hname : name = key
    · subst hname
      rw [if_pos rfl, if_pos rfl, Entries.get?_eq_none_iff.2 hd.1]
      rfl
    · rw [if_neg hname, if_neg hname]

theorem mem_bodyNames {members : List (Member ν)} {name : String} :
    ((bodyMembers members).map (·.name)).contains name = true ↔ Among (· = .body) members name := by
  simp only [List.contains_iff_mem, List.mem_map, bodyMembers, List.mem_filter, decide_eq_true_eq, Among,
    and_assoc]

theorem get?_bodyFields (members : List (Member ν)) (fields : List (String × Value)) (name : String) :
    Entries.get? name (bodyFields members fields) =
      if ((bodyMembers members).map (·.name)).contains name then Entries.get? name fields else none :=
  Entries.get?_filter (((bodyMembers members).map Member.name).contains ·) name fields

theorem mem_bodyFields {members : List (Member ν)} {fields : List (String × Value)}
    (hd : (fields.map Prod.fst).Nodup) {f : String × Value} (hf : f ∈ bodyFields members fields) :
    ∃ m ∈ members, m.place = .body ∧ m.name = f.1 ∧ Entries.get? m.name fields = some f.2 := by
  have hin := (List.mem_filter.1 hf).2
  obtain ⟨m, hm, hplace, hname⟩ := mem_bodyNames.1 hin
  exact ⟨m, hm, hplace, hname, hname ▸ Entries.get?_of_mem hd (List.mem_filter.1 hf).1⟩

/-- A structure of fields that are plain and not too deep is so itself. -/
theorem plain_struct {fields : List (String × Value)} (solid : ∀ f ∈ fields, f.2 ≠ .stream)
    (each : ∀ f ∈ fields, f.2.toNode.Plain ∧ f.2.toNode.tree.depth < maxDepth) :
    (Value.struct fields).toNode.Plain ∧ (Value.struct fields).toNode.tree.depth ≤ maxDepth := by
  rw [Value.toNode, fieldNodes_eq solid]
  constructor
  · refine .object fun e he => ?_
    obtain ⟨f, hf, rfl⟩ := List.mem_map.1 he
    exact (each f hf).1
  · have hentries : entriesDepth (entryTrees (fields.map fun f => (f.1, f.2.toNode))) ≤ maxDepth - 1 := by
      rw [entryTrees_eq, List.map_map]
      refine entriesDepth_le fun e he => ?_
      obtain ⟨f, hf, rfl⟩ := List.mem_map.1 he
      exact Nat.le_sub_one_of_lt (each f hf).2
    have hpos : 0 < maxDepth := by decide
    rw [Node.tree, Tree.depth]
    omega

theorem readBody_carried {members : List (Member ν)} (hnd : (members.map (·.name)).Nodup)
    {fields : List (String × Value)} (order : (fields.map Prod.fst).Sublist (members.map (·.name)))
    (solid : ∀ f ∈ fields, f.2 ≠ .stream)
    (each : ∀ m ∈ members, m.place = .body → ∀ w, Entries.get? m.name fields = some w →
      ReadsValue S F m.target w ∧ w.toNode.Plain ∧ w.toNode.tree.depth < maxDepth)
    {p : String → Prop} {given : List (String × Draft)} (h : Carried F (.struct fields) p given) :
    ∃ after, S.readBody F (bodyMembers members) (bodyBytes members (.struct fields)) given = .ok after ∧
      Carried F (.struct fields) (fun x => p x ∨ Among (· = .body) members x) after := by
  have hd := hnd.sublist order
  have hsolid : ∀ f ∈ bodyFields members fields, f.2 ≠ .stream := fun f hf =>
    solid f (List.mem_filter.1 hf).1
  obtain ⟨hplain, hdepth⟩ := plain_struct hsolid fun f hf => by
    obtain ⟨m, hm, hplace, -, hget⟩ := mem_bodyFields hd hf
    exact (each m hm hplace f.2 hget).2
  refine ⟨_, readBody_toJson hplain hdepth hsolid (fun f hf => ?_) given, ?_⟩
  · obtain ⟨m, hm, hplace, hname, hget⟩ := mem_bodyFields hd hf
    have hbody : ((bodyMembers members).map (·.name)).Nodup := hnd.sublist (List.filter_sublist.map _)
    exact ⟨m, hname ▸ find_member hbody (List.mem_filter.2 ⟨hm, decide_eq_true hplace⟩),
      (each m hm hplace f.2 hget).1⟩
  · have hdrafts : ((fieldDrafts F (bodyFields members fields)).map Prod.fst).Nodup := by
      rw [fieldDrafts_eq, List.map_map]
      exact hd.sublist (List.filter_sublist.map _)
    have hget : ∀ x, Entries.get? x (giveFields given (fieldDrafts F (bodyFields members fields))) =
        if ((bodyMembers members).map (·.name)).contains x then
          ((Entries.get? x fields).map (Value.draft F)).or (Entries.get? x given)
        else Entries.get? x given := by
      intro x
      rw [get?_giveFields hdrafts, get?_fieldDrafts, get?_bodyFields]
      split <;> rfl
    refine ⟨fun x hx => ?_, fun x hx => ?_⟩ <;> rw [hget]
    · split
      · cases hw : Entries.get? x fields with
        | some w => simp [Value.get?, hw]
        | none =>
          -- an absent member is not in hand either, whether its turn has come or not
          by_cases hp : p x
          · simpa [Value.get?, hw] using h.inside x hp
          · simpa [Value.get?, hw] using h.outside x hp
      · next hno => exact h.inside x (hx.resolve_right fun hb => hno (mem_bodyNames.2 hb))
    · rw [not_or] at hx
      rw [if_neg fun hb => hx.2 (mem_bodyNames.1 hb)]
      exact h.outside x hx.1

/-! ### All of it -/

/-- **Once all members are in hand, what is built does not depend on the way they came.** -/
theorem build_of_carried {n : ν} {fields : List (String × Value)} {p : String → Prop}
    (hp : ∀ m ∈ S.members n, p m.name) {given : List (String × Draft)}
    (h : Carried F (.struct fields) p given) :
    S.build F n (.struct given) = S.build F n (.struct (fieldDrafts F fields)) := by
  refine build_struct_congr fun m hm => ?_
  rw [h.inside m.name (hp m hm), get?_fieldDrafts]
  rfl

end WireShapes.Schema
