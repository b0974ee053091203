import WireShapes.Proofs.Http.Headers
import WireShapes.Proofs.Http.Uri
import WireShapes.Proofs.Schema.Messages
import WireShapes.Schema.Response

/-!
Messages as one side writes them and the other one reads them.

* `Apart`: members that travel each in a place of their own
* `Portable`: values that the parts of a message can carry
* `readQueryMember_queryPairs`, `one_headerFields`: a member in the query or in a header field is found
  there and nowhere else
* `Routed`: the path of a request leads to the operation and gives back what was put into its labels
* `readRequest_written`: a server makes of a request what it would make of the drafts of its members
* `readParts_written`, `Conforms.readParts_server`: a client reads from a response the value that was
  written into it, by its own side or by a server
-/

namespace WireShapes.Schema

open Http Json

variable {ν : Type} {S : Schema ν} {F G : Flavour} {v : Value}

/-- The places of a message that does not stream. -/
def Placed (place : Place) : Prop :=
  place = .label ∨ InQuery place ∨ InHeader place ∨ place = .body

/-- No two members share a key of the query. -/
def KeysApart (members : List (Member ν)) : Prop :=
  members.Pairwise fun a b => ∀ key, a.place = .query key → b.place ≠ .query key

/-- No two members share a name of a header field. -/
def NamesApart (members : List (Member ν)) : Prop :=
  members.Pairwise fun a b =>
    ∀ x y, a.place = .header x → b.place = .header y → fieldName x ≠ fieldName y

/-- Every member has a place, and shares it with no other. -/
structure Apart (members : List (Member ν)) : Prop where
  placed : ∀ m ∈ members, Placed m.place
  query : KeysApart members
  header : NamesApart members
  form : ∀ m ∈ members, ∀ name, m.place = .header name → fieldName name ≠ fieldName "content-type"

/-- The values that the parts of a message can carry for a reader: lists in a query have items, header
fields are visible, and objects in the body are not too deep. -/
structure Portable (S : Schema ν) (F : Flavour) (members : List (Member ν))
    (fields : List (String × Value)) : Prop where
  solid : ∀ f ∈ fields, f.2 ≠ .stream
  query : ∀ m ∈ members, ∀ key, m.place = .query key → Entries.get? m.name fields ≠ some (.list [])
  header : ∀ m ∈ members, ∀ name, m.place = .header name →
    ∀ w, Entries.get? m.name fields = some w → Visible w.plain
  body : ∀ m ∈ members, m.place = .body → ∀ w, Entries.get? m.name fields = some w →
    ReadsValue S F m.target w ∧ w.toNode.Plain ∧ w.toNode.tree.depth < maxDepth

/-! ### Plain texts -/

theorem plain_hold (F : Flavour) (restricted : Bool) (v : Value) : (hold F restricted v).plain = v.plain := by
  rcases hold_eq F restricted v with h | h <;> rw [h]
  rw [Value.plain]

theorem Conforms.plain_of_text {n : ν} {w : Value} (h : Conforms S G n w) (hn : TextShape (S.shape n)) :
    w.draft F = .text w.plain := by
  obtain ⟨rule, shape⟩ | ⟨constants, shape⟩ := hn
  · obtain ⟨s, rfl, -⟩ := h.of_text shape
    rw [draft_hold, plain_hold]
    rfl
  · obtain ⟨s, rfl⟩ := h.of_enumeration shape
    rfl

/-- A simple value is read from its plain text. -/
theorem Conforms.ofPlain_plain {n : ν} {w : Value} (h : Conforms S G n w) (hn : PlainShape (S.shape n)) :
    ofPlain (S.shape n) w.plain = .ok (w.draft F) := by
  rcases hn with ht | hb
  · rw [h.plain_of_text ht]
    obtain ⟨rule, shape⟩ | ⟨constants, shape⟩ := ht <;> rw [shape] <;> rfl
  · obtain ⟨b, rfl⟩ := h.of_boolean hb
    rw [hb]
    cases b <;> rfl

theorem Conforms.draft_plains {n item : ν} {w : Value} (h : Conforms S G n w)
    (shape : S.shape n = .list item) (hitem : TextShape (S.shape item)) :
    w.draft F = .list (w.plains.map .text) := by
  obtain ⟨items, rfl, each⟩ := h.of_list shape
  rw [Value.draft, Value.plains, itemDrafts_eq, List.map_map]
  congr 1
  exact List.map_congr_left fun w hw => (each w hw).plain_of_text hitem

/-! ### Labels -/

theorem readLabels_carried {members : List (Member ν)} {labels : List (String × String)}
    (each : ∀ l ∈ labels, ∃ m w, memberOf? members l.1 = some m ∧ v.get? l.1 = some w ∧
      ofPlain (S.shape m.target) l.2 = .ok (w.draft F))
    {p : String → Prop} {fields : List (String × Draft)} (h : Carried F v p fields) :
    ∃ after, S.readLabels members labels fields = .ok after ∧
      Carried F v (fun x => p x ∨ x ∈ labels.map Prod.fst) after := by
  induction labels generalizing p fields with
  | nil => exact ⟨fields, rfl, h.congr fun x => by simp⟩
  | cons l rest ih =>
    obtain ⟨m, w, hm, hw, hplain⟩ := each l (by simp)
    obtain ⟨after, hafter, hc⟩ := ih (fun l hl => each l (by simp [hl])) (h.give hw)
    refine ⟨after, ?_, hc.congr fun x => by simp [or_assoc]⟩
    simp only [readLabels, hm, hplain]
    exact hafter

/-! ### Queries -/

theorem valuesUnder_append (key : String) (pairs more : List (String × String)) :
    valuesUnder key (pairs ++ more) = valuesUnder key pairs ++ valuesUnder key more := by
  simp [valuesUnder]

theorem queryPairs_cons (m : Member ν) (rest : List (Member ν)) :
    queryPairs v (m :: rest) = queryPairs v [m] ++ queryPairs v rest := by
  simp [queryPairs]

theorem valuesUnder_self {m : Member ν} {key : String} (hm : m.place = .query key) :
    valuesUnder key (queryPairs v [m]) = ((v.get? m.name).map Value.plains).getD [] := by
  rw [queryPairs, List.flatMap_singleton, hm]
  cases v.get? m.name with
  | none => rfl
  | some w =>
    have hall : (w.plains.map fun text => (key, text)).filter (·.1 == key) =
        w.plains.map fun text => (key, text) := by
      rw [List.filter_eq_self]
      intro p hp
      obtain ⟨text, -, rfl⟩ := List.mem_map.1 hp
      exact beq_self_eq_true key
    simp only [valuesUnder, hall, List.map_map]
    exact List.map_id _

theorem valuesUnder_others {key : String} {members : List (Member ν)}
    (h : ∀ m ∈ members, m.place ≠ .query key) : valuesUnder key (queryPairs v members) = [] := by
  have hno : ∀ p ∈ queryPairs v members, p.1 ≠ key := by
    intro p hp
    obtain ⟨m, hm, hp⟩ := List.mem_flatMap.1 hp
    split at hp
    · next hplace _ =>
      obtain ⟨text, -, rfl⟩ := List.mem_map.1 hp
      exact fun hkey => h m hm (hkey ▸ hplace)
    · cases hp
  have hnil : (queryPairs v members).filter (·.1 == key) = [] := by
    rw [List.filter_eq_nil_iff]
    exact fun p hp => by simpa using hno p hp
  rw [valuesUnder, hnil, List.map_nil]

theorem valuesUnder_queryPairs {members : List (Member ν)} (hapart : KeysApart members) {m : Member ν}
    (hm : m ∈ members) {key : String} (hkey : m.place = .query key) :
    valuesUnder key (queryPairs v members) = ((v.get? m.name).map Value.plains).getD [] := by
  induction members with
  | nil => simp at hm
  | cons a rest ih =>
    obtain ⟨hfirst, hothers⟩ := List.pairwise_cons.1 hapart
    rw [queryPairs_cons, valuesUnder_append]
    rcases List.mem_cons.1 hm with rfl | hrest
    · rw [valuesUnder_self hkey, valuesUnder_others fun b hb => hfirst b hb key hkey, List.append_nil]
    · have hnot : ∀ b ∈ [a], b.place ≠ .query key := by
        intro b hb hplace
        rw [List.mem_singleton.1 hb] at hplace
        exact hfirst m hrest key hplace hkey
      rw [valuesUnder_others hnot, List.nil_append, ih hothers hrest]

/-- **A member in the query is read from the pairs that were written**, as long as it is no list without
items, of which nothing is written. -/
theorem readQueryMember_queryPairs {members : List (Member ν)} (hapart : KeysApart members) {m : Member ν}
    (hm : m ∈ members) {key : String} (hkey : m.place = .query key)
    (hshape : PlainShape (S.shape m.target) ∨
      ∃ item, S.shape m.target = .list item ∧ TextShape (S.shape item))
    (hvalue : ∀ w, v.get? m.name = some w → Conforms S G m.target w ∧ w ≠ .list []) :
    readQueryMember S m key (queryPairs v members) = .ok ((v.get? m.name).map (Value.draft F)) := by
  have hunder := valuesUnder_queryPairs (v := v) hapart hm hkey
  rcases hshape with hplain | ⟨item, hlist, hitem⟩
  · rw [readQueryMember_plain hplain, hunder]
    cases hw : v.get? m.name with
    | none => rfl
    | some w =>
      have hconf := (hvalue w hw).1
      have hone : w.plains = [w.plain] := by
        rw [Value.plains]
        rintro items rfl
        obtain ⟨_, hl, -⟩ := hconf.list_inv
        obtain (⟨_, h⟩ | ⟨_, h⟩) | h := hplain <;> rw [h] at hl <;> cases hl
      simp only [Option.map_some, Option.getD_some, hone, hconf.ofPlain_plain (F := F) hplain]
  · rw [readQueryMember_list hlist, hunder]
    cases hw : v.get? m.name with
    | none => rfl
    | some w =>
      obtain ⟨hconf, hne⟩ := hvalue w hw
      obtain ⟨items, rfl, -⟩ := hconf.of_list hlist
      have hsome : (Value.list items).plains ≠ [] := by
        simpa [Value.plains] using hne
      rw [Option.map_some, Option.getD_some, if_neg hsome, Option.map_some, hconf.draft_plains hlist hitem]

theorem readQuery_carried {query : String} {pairs : List (String × String)}
    (hquery : parseQuery query = .ok pairs) {members : List (Member ν)}
    (each : ∀ m ∈ members, ∀ key, m.place = .query key →
      readQueryMember S m key pairs = .ok ((v.get? m.name).map (Value.draft F)))
    {p : String → Prop} {fields : List (String × Draft)} (h : Carried F v p fields) :
    ∃ after, S.readQuery query members fields = .ok after ∧
      Carried F v (fun x => p x ∨ Among InQuery members x) after := by
  unfold readQuery
  split
  · rw [hquery, Results.ok_bind]
    exact readQueryMembers_carried each h
  · next hnone =>
    refine ⟨fields, rfl, h.congr fun x => ?_⟩
    have hno : ¬Among InQuery members x := by
      rintro ⟨m, hm, ⟨key, hkey⟩, -⟩
      exact hnone (List.any_eq_true.2 ⟨m, hm, by rw [hkey]; rfl⟩)
    simp [hno]

/-! ### Header fields -/

/-- The field that a member in a header is written to. -/
def headerField? (v : Value) (m : Member ν) : Option (String × List UInt8) :=
  match m.place, v.get? m.name with
  | .header name, some w => some (name, Utf8.encode w.plain)
  | _, _ => none

theorem headerField?_eq_some {m : Member ν} {f : String × List UInt8} (h : headerField? v m = some f) :
    m.place = .header f.1 := by
  unfold headerField? at h
  split at h
  · next hplace _ => rw [← Option.some.inj h, hplace]
  · cases h

theorem writeHeaders_visible {members : List (Member ν)}
    (h : ∀ m ∈ members, ∀ name, m.place = .header name → ∀ w, v.get? m.name = some w → Visible w.plain) :
    writeHeaders v members = .ok (members.filterMap (headerField? v)) := by
  induction members with
  | nil => rfl
  | cons m rest ih =>
    have hrest := ih fun a ha => h a (by simp [ha])
    rw [writeHeaders, List.filterMap_cons]
    split
    · next name w hplace hw =>
      have hfield : headerField? v m = some (name, Utf8.encode w.plain) := by
        simp only [headerField?, hplace, hw]
      have hvisible := h m (by simp) name hplace w hw
      rw [if_neg (by simpa using hvisible.ne_empty), fieldValue_visible hvisible, hrest, hfield]
      rfl
    · next hno =>
      have hfield : headerField? v m = none := by
        unfold headerField?
        split
        · next name w hplace hw => exact (hno name w hplace hw).elim
        · rfl
      rw [hfield]
      exact hrest

theorem getAll_headerFields {members : List (Member ν)} (hapart : NamesApart members) {m : Member ν}
    (hm : m ∈ members) {name : String} (hname : m.place = .header name) :
    getAll name (members.filterMap (headerField? v)) =
      (((v.get? m.name).map Value.plain).map Utf8.encode).toList := by
  -- a member of another name adds no field of this one
  have hother : ∀ members : List (Member ν), (∀ a ∈ members, ∀ x, a.place = .header x →
      fieldName x ≠ fieldName name) → getAll name (members.filterMap (headerField? v)) = [] := by
    intro members hne
    rw [getAll, List.map_eq_nil_iff, List.filter_eq_nil_iff]
    intro f hf
    obtain ⟨a, ha, hfield⟩ := List.mem_filterMap.1 hf
    simpa using hne a ha f.1 (headerField?_eq_some hfield)
  induction members with
  | nil => simp at hm
  | cons a rest ih =>
    obtain ⟨hfirst, hothers⟩ := List.pairwise_cons.1 hapart
    rw [← List.singleton_append, List.filterMap_append, getAll_append]
    rcases List.mem_cons.1 hm with rfl | hrest
    · rw [hother rest fun b hb x hx => (hfirst b hb name x hname hx).symm, List.append_nil]
      cases hw : v.get? m.name <;> simp [headerField?, hname, hw, getAll]
    · have hnot : ∀ b ∈ [a], ∀ x, b.place = .header x → fieldName x ≠ fieldName name := by
        intro b hb x hx
        rw [List.mem_singleton.1 hb] at hx
        exact hfirst m hrest x name hx hname
      rw [hother [a] hnot, List.nil_append, ih hothers hrest]

/-- **A member in a header is read from the fields that were written**, if no field beside them has its
name. -/
theorem one_headerFields {members : List (Member ν)} (hapart : NamesApart members) {m : Member ν}
    (hm : m ∈ members) {name : String} (hname : m.place = .header name)
    (hvisible : ∀ w, v.get? m.name = some w → Visible w.plain) {before after : Headers}
    (hbefore : getAll name before = []) (hafter : getAll name after = []) :
    one (before ++ members.filterMap (headerField? v) ++ after) name =
      .ok ((v.get? m.name).map Value.plain) := by
  refine one_of_getAll ?_ fun s hs => ?_
  · rw [getAll_append, getAll_append, hbefore, hafter, List.append_nil, List.nil_append,
      getAll_headerFields hapart hm hname]
  · obtain ⟨w, hw, rfl⟩ := Option.map_eq_some_iff.1 hs
    exact hvisible w hw

/-! ### Requests -/

theorem writeRequest_eq_ok {op : Operation ν} {r : Request} (h : writeRequest S op v = .ok r) :
    ∃ path headers, writePath v (uriPieces op.uri) = .ok path ∧
      writeHeaders v (S.members op.input) = .ok headers ∧ r.method = op.method ∧
      r.uri = ((queryPairs v (S.members op.input)).foldl (fun w p => w.insert p.1 p.2)
        (QueryWriter.start path)).uri ∧
      r.headers = headers ++ (writeBody v (S.members op.input)).1 ∧
      r.body = (writeBody v (S.members op.input)).2 := by
  obtain ⟨path, hpath, h⟩ := Results.bind_eq_ok_iff.1 h
  obtain ⟨headers, hheaders, h⟩ := Results.bind_eq_ok_iff.1 h
  cases hbody : writeBody v (S.members op.input) with
  | mk form body =>
  rw [hbody] at h
  simp only at h
  split at h
  · cases h
  · obtain rfl := Except.ok.inj h
    exact ⟨path, headers, hpath, hheaders, rfl, rfl, rfl, rfl⟩

/-- The path leads to the operation and gives back what was put into its labels. -/
structure Routed (S : Schema ν) (op : Operation ν) (v : Value) (path : String) : Prop where
  slash : path.toList.head? = some '/'
  query : '?' ∉ path.toList
  fragment : '#' ∉ path.toList
  labels : ∃ labels, matchPath op.uri path = some labels ∧
    (∀ l ∈ labels, ∃ w, v.get? l.1 = some w ∧ l.2 = w.plain) ∧
    ∀ m ∈ S.members op.input, m.place = .label → m.name ∈ labels.map Prod.fst

theorem hasStream_of_placed {members : List (Member ν)} (h : ∀ m ∈ members, Placed m.place) :
    hasStream members = false := by
  rw [hasStream, List.any_eq_false]
  intro m hm
  rcases h m hm with hp | ⟨_, hp⟩ | ⟨_, hp⟩ | hp <;> simp [hp]

theorem readStreamOrBody_carried {members : List (Member ν)} (hnd : (members.map (·.name)).Nodup)
    {fields : List (String × Value)} (order : (fields.map Prod.fst).Sublist (members.map (·.name)))
    (placed : ∀ m ∈ members, Placed m.place) (hfields : Portable S F members fields)
    {p : String → Prop} {given : List (String × Draft)} (h : Carried F (.struct fields) p given) :
    ∃ after, S.readStreamOrBody F (writeBody (.struct fields) members).2 members given = .ok after ∧
      Carried F (.struct fields) (fun x => p x ∨ Among (· = .body) members x) after := by
  unfold readStreamOrBody writeBody
  rw [hasStream_of_placed placed]
  cases hempty : (bodyMembers members).isEmpty with
  | true =>
    refine ⟨given, rfl, h.congr fun x => ?_⟩
    have hno : ¬Among (· = .body) members x := by
      rw [← mem_bodyNames, List.isEmpty_iff.1 hempty]
      simp
    simp [hno]
  | false => exact readBody_carried hnd order hfields.solid hfields.body h

/-- The header field that tells the form of the body has no name but its own. -/
theorem getAll_form {name : String} (hname : fieldName name ≠ fieldName "content-type") (v : Value)
    (members : List (Member ν)) : getAll name (writeBody v members).1 = [] := by
  have hno : ∀ form, getAll name [contentType form] = [] := fun form => by
    simp [getAll, contentType, Ne.symm hname]
  unfold writeBody
  split
  · exact hno _
  · split
    · rfl
    · exact hno _

theorem Routed.carried (hS : WellFormed S) {op : Operation ν} (hop : op.Bound S)
    {fields : List (String × Value)} (hv : Conforms S G op.input (.struct fields)) {path : String}
    (hroute : Routed S op (.struct fields) path) :
    ∃ labels given, matchPath op.uri path = some labels ∧
      S.readLabels (S.members op.input) labels [] = .ok given ∧
      Carried F (.struct fields) (· ∈ labels.map Prod.fst) given ∧
      ∀ m ∈ S.members op.input, m.place = .label → m.name ∈ labels.map Prod.fst := by
  obtain ⟨labels, hmatch, hlabels, hall⟩ := hroute.labels
  obtain ⟨members, shape, order, -, each⟩ := hv.struct_inv
  obtain rfl := members_of_struct shape
  have hread : ∀ l ∈ labels, ∃ m w, memberOf? (S.members op.input) l.1 = some m ∧
      Value.get? l.1 (.struct fields) = some w ∧ ofPlain (S.shape m.target) l.2 = .ok (w.draft F) := by
    intro l hl
    obtain ⟨w, hw, hplain⟩ := hlabels l hl
    obtain ⟨m, hm, hname⟩ := List.mem_map.1 (order.subset (List.mem_map_of_mem (Entries.mem_of_get? hw)))
    have hlabel : m.name ∈ labelNames op.uri := by
      rw [← matchPath_names hmatch, hname]
      exact List.mem_map_of_mem hl
    rw [← hname] at hw ⊢
    refine ⟨m, w, find_member (hS.nodup op.input) hm, hw, ?_⟩
    rw [hplain]
    exact (each m hm w hw).ofPlain_plain (hop.label m hm hlabel)
  obtain ⟨given, hgiven, hc⟩ := readLabels_carried hread carried_nil
  exact ⟨labels, given, hmatch, hgiven, hc.congr fun x => by simp, hall⟩

/-- All members of an input are read from its request. -/
theorem readRequestFields_written (hS : WellFormed S) {op : Operation ν} (hop : op.Bound S)
    (hapart : Apart (S.members op.input)) {fields : List (String × Value)}
    (hv : Conforms S G op.input (.struct fields)) (hfields : Portable S F (S.members op.input) fields)
    (hroute : ∀ path, writePath (.struct fields) (uriPieces op.uri) = .ok path →
      Routed S op (.struct fields) path)
    {r : Request} (hr : writeRequest S op (.struct fields) = .ok r) :
    ∃ given p, S.readRequestFields F op r = .ok given ∧ Carried F (.struct fields) p given ∧
      ∀ m ∈ S.members op.input, p m.name := by
  obtain ⟨path, headers, hpath, hheaders, hmethod, huri, hsent, hbody⟩ := writeRequest_eq_ok hr
  have hrouted := hroute path hpath
  obtain ⟨members, shape, order, -, each⟩ := hv.struct_inv
  obtain rfl := members_of_struct shape
  rw [writeHeaders_visible hfields.header] at hheaders
  obtain rfl := Except.ok.inj hheaders
  -- the members come in part by part: path, query, header fields and body
  obtain ⟨labels, given₁, hmatch, h₁, hc₁, hall⟩ := hrouted.carried (F := F) hS hop hv
  obtain ⟨given₂, h₂, hc₂⟩ : ∃ after, S.readQuery r.query (S.members op.input) given₁ = .ok after ∧
      Carried F (.struct fields)
        (fun x => x ∈ labels.map Prod.fst ∨ Among InQuery (S.members op.input) x) after := by
    refine readQuery_carried (query_of_pairs hrouted.slash hrouted.query hrouted.fragment huri)
      (fun m hm key hkey => ?_) hc₁
    exact readQueryMember_queryPairs hapart.query hm hkey (hop.query m hm key hkey) fun w hw =>
      ⟨each m hm w hw, fun hnil => hfields.query m hm key hkey (hnil ▸ hw)⟩
  obtain ⟨given₃, h₃, hc₃⟩ : ∃ after, S.readHeaders r.headers (S.members op.input) given₂ = .ok after ∧
      Carried F (.struct fields) (fun x => (x ∈ labels.map Prod.fst ∨
        Among InQuery (S.members op.input) x) ∨ Among InHeader (S.members op.input) x) after := by
    refine readHeaders_carried (fun m hm name hname => ⟨?_, fun w hw => ?_⟩) hc₂
    · rw [hsent, ← List.nil_append (List.filterMap _ _)]
      exact one_headerFields (v := .struct fields) hapart.header hm hname
        (hfields.header m hm name hname) rfl
        (getAll_form (hapart.form m hm name hname) _ _)
    · exact (each m hm w hw).ofPlain_plain (hop.header m hm name hname)
  obtain ⟨given₄, h₄, hc₄⟩ := readStreamOrBody_carried (hS.nodup op.input) order hapart.placed hfields hc₃
  refine ⟨given₄, _, ?_, hc₄, fun m hm => ?_⟩
  · rw [← hbody] at h₄
    unfold readRequestFields
    rw [if_neg (not_not_intro hmethod), path_of_pairs hrouted.slash hrouted.query hrouted.fragment huri,
      hmatch]
    simp only [h₁, h₂, h₃, h₄, Results.ok_bind]
  · rcases hapart.placed m hm with hp | hp | hp | hp
    · exact .inl (.inl (.inl (hall m hm hp)))
    · exact .inl (.inl (.inr ⟨m, hm, hp, rfl⟩))
    · exact .inl (.inr ⟨m, hm, hp, rfl⟩)
    · exact .inr ⟨m, hm, hp, rfl⟩

/-- **A server makes of a request what it would make of the drafts of its members**, whichever way
they travel: the value that is built of them, or the violation that is found in them. -/
theorem readRequest_written (hS : WellFormed S) {op : Operation ν} (hop : op.Bound S)
    (hapart : Apart (S.members op.input)) {fields : List (String × Value)}
    (hv : Conforms S G op.input (.struct fields)) (hfields : Portable S F (S.members op.input) fields)
    (hroute : ∀ path, writePath (.struct fields) (uriPieces op.uri) = .ok path →
      Routed S op (.struct fields) path)
    {r : Request} (hr : writeRequest S op (.struct fields) = .ok r) :
    S.readRequest F op r =
      match S.build F op.input (.struct (fieldDrafts F fields)) with
      | .ok w => .ok w
      | .error e => .error (.violation e.message) := by
  obtain ⟨given, p, hgiven, hc, hp⟩ := readRequestFields_written hS hop hapart hv hfields hroute hr
  rw [← build_of_carried hp hc, readRequest, hgiven]
  rfl

/-! ### Responses -/

theorem headerField?_bare (fields : List (String × Value)) (m : Member ν) :
    headerField? (Value.struct fields).bare m = headerField? (.struct fields) m := by
  unfold headerField?
  rw [Value.bare, Value.get?, Value.get?, get?_bareFields]
  cases Entries.get? m.name fields with
  | none => rfl
  | some w => cases m.place <;> simp [plain_bare]

theorem bodyFields_bare (members : List (Member ν)) (fields : List (String × Value)) :
    bodyFields members (bareFields fields) = bareFields (bodyFields members fields) := by
  rw [bareFields_eq, bareFields_eq, bodyFields, bodyFields, List.filter_map]
  rfl

/-- What a server writes into the body is what a client would have written. -/
theorem writeBody_bare (hS : WellFormed S) {P : ν → Prop} (hP : DocumentClass S P) {n : ν} (hn : P n)
    {fields : List (String × Value)} (hv : Conforms S G n (.struct fields)) :
    writeBody (Value.struct fields).bare (S.members n) = writeBody (.struct fields) (S.members n) := by
  obtain ⟨members, shape, order, -, each⟩ := hv.struct_inv
  obtain rfl := members_of_struct shape
  have hfield : ∀ f ∈ bodyFields (S.members n) fields, ∃ k, Conforms S G k f.2 ∧ P k := by
    intro f hf
    obtain ⟨m, hm, -, hget⟩ := get?_of_mem_fields hS shape order (List.mem_filter.1 hf).1
    exact ⟨m.target, each m hm _ hget, (hP.member n hn m hm).1⟩
  have hbytes : bodyBytes (S.members n) (Value.struct fields).bare =
      bodyBytes (S.members n) (.struct fields) := by
    rw [Value.bare, bodyBytes_struct, bodyBytes_struct, bodyFields_bare, Value.toJson, Value.toJson]
    refine congrArg (fun node => Utf8.encode (Node.write node)) (toNode_struct_bare ?_ ?_ ?_)
    · intro f hf
      obtain ⟨k, hconf, hk⟩ := hfield f hf
      exact hconf.ne_stream (hP.solid k hk).2
    · intro f hf
      obtain ⟨k, hconf, hk⟩ := hfield f hf
      exact hconf.bare.ne_stream (hP.solid k hk).2
    · intro f hf
      obtain ⟨k, hconf, hk⟩ := hfield f hf
      exact hconf.toNode_bare hS hP hk
  unfold writeBody
  rw [hbytes]

/-- The members of a response travel in header fields and in the body. -/
structure Answerable (S : Schema ν) (n : ν) : Prop where
  apart : Apart (S.members n)
  placed : ∀ m ∈ S.members n, InHeader m.place ∨ m.place = .body
  header : ∀ m ∈ S.members n, ∀ name, m.place = .header name → PlainShape (S.shape m.target)

/-- A client reads a structure from the header fields and the body that it would have written itself. -/
theorem readParts_written (hS : WellFormed S) {n : ν} (hn : Answerable S n)
    {fields : List (String × Value)} (hv : Conforms S .client n (.struct fields))
    (hfields : Portable S .client (S.members n) fields) {before : Headers}
    (hbefore : ∀ m ∈ S.members n, ∀ name, m.place = .header name → getAll name before = [])
    {r : Response} (hsent : r.headers = before ++ (S.members n).filterMap (headerField? (.struct fields)) ++
      (writeBody (.struct fields) (S.members n)).1)
    (hbody : r.body = (writeBody (.struct fields) (S.members n)).2) :
    S.readParts n r = .ok (.struct fields) := by
  obtain ⟨members, shape, order, standing, each⟩ := hv.struct_inv
  obtain rfl := members_of_struct shape
  obtain ⟨given₁, h₁, hc₁⟩ : ∃ after, S.readHeaders r.headers (S.members n) [] = .ok after ∧
      Carried .client (.struct fields) (fun x => False ∨ Among InHeader (S.members n) x) after := by
    refine readHeaders_carried (fun m hm name hname => ⟨?_, fun w hw => ?_⟩) carried_nil
    · rw [hsent]
      exact one_headerFields (v := .struct fields) hn.apart.header hm hname
        (hfields.header m hm name hname) (hbefore m hm name hname)
        (getAll_form (hn.apart.form m hm name hname) _ _)
    · exact (each m hm w hw).ofPlain_plain (hn.header m hm name hname)
  obtain ⟨given₂, h₂, hc₂⟩ := readStreamOrBody_carried (hS.nodup n) order hn.apart.placed hfields hc₁
  have hall : ∀ m ∈ S.members n, (False ∨ Among InHeader (S.members n) m.name) ∨
      Among (· = .body) (S.members n) m.name := by
    intro m hm
    rcases hn.placed m hm with hp | hp
    · exact .inl (.inr ⟨m, hm, hp, rfl⟩)
    · exact .inr ⟨m, hm, hp, rfl⟩
  have hbuilt : S.build .client n (.struct given₂) = .ok (.struct fields) := by
    rw [build_of_carried hall hc₂]
    exact build_fieldDrafts hS shape order standing fun m hm v hv => (each m hm v hv).build_draft hS
  unfold readParts
  rw [← hbody] at h₂
  simp only [h₁, h₂, hbuilt]

/-- **A client reads from a response the value that a server wrote into it**, if what travels in header
fields is visible and what travels in the body is not too deep. -/
theorem Conforms.readParts_server (hS : WellFormed S) {P : ν → Prop} (hP : DocumentClass S P) {n : ν}
    (hn : P n) (hanswer : Answerable S n) {fields : List (String × Value)}
    (hv : Conforms S G n (.struct fields))
    (hvisible : ∀ m ∈ S.members n, ∀ name, m.place = .header name →
      ∀ w, Entries.get? m.name fields = some w → Visible w.plain)
    (hdepth : ∀ m ∈ S.members n, m.place = .body → ∀ w, Entries.get? m.name fields = some w →
      w.toNode.tree.depth < maxDepth) {before : Headers}
    (hbefore : ∀ m ∈ S.members n, ∀ name, m.place = .header name → getAll name before = [])
    {r : Response} (hsent : r.headers = before ++ (S.members n).filterMap (headerField? (.struct fields)) ++
      (writeBody (.struct fields) (S.members n)).1)
    (hbody : r.body = (writeBody (.struct fields) (S.members n)).2) :
    S.readParts n r = .ok (Value.struct fields).bare := by
  obtain ⟨members, shape, order, -, each⟩ := hv.struct_inv
  obtain rfl := members_of_struct shape
  have hbare : ∀ m w, Entries.get? m (bareFields fields) = some w →
      ∃ u, Entries.get? m fields = some u ∧ w = u.bare := by
    intro m w hw
    rw [get?_bareFields] at hw
    obtain ⟨u, hu, rfl⟩ := Option.map_eq_some_iff.1 hw
    exact ⟨u, hu, rfl⟩
  have hclient := hv.bare
  rw [← writeBody_bare hS hP hn hv, ← funext (headerField?_bare fields)] at hsent
  rw [← writeBody_bare hS hP hn hv] at hbody
  rw [Value.bare] at hclient hsent hbody ⊢
  refine readParts_written hS hanswer hclient ⟨fun f hf => ?_, fun m hm key hkey => ?_,
    fun m hm name hname w hw => ?_, fun m hm hplace w hw => ?_⟩ hbefore hsent hbody
  · obtain ⟨_, hshape, horder, -, heach⟩ := hclient.struct_inv
    obtain ⟨m, hm, -, hget⟩ := get?_of_mem_fields hS hshape horder hf
    obtain rfl := members_of_struct hshape
    exact (heach m hm _ hget).ne_stream (hP.solid _ (hP.member n hn m hm).1).2
  · rcases hanswer.placed m hm with ⟨_, hp⟩ | hp <;> rw [hp] at hkey <;> cases hkey
  · obtain ⟨u, hu, rfl⟩ := hbare m.name w hw
    rw [plain_bare]
    exact hvisible m hm name hname u hu
  · obtain ⟨u, hu, rfl⟩ := hbare m.name w hw
    have hconf := each m hm u hu
    have hclass := (hP.member n hn m hm).1
    refine ⟨hconf.bare.reads_draft hS hP hclass, hconf.bare.plain hS, ?_⟩
    rw [hconf.toNode_bare hS hP hclass]
    exact hdepth m hm hplace u hu

end WireShapes.Schema
