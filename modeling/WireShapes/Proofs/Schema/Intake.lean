import WireShapes.Proofs.Results
import WireShapes.Proofs.Schema.Drafts
import WireShapes.Schema.Request

/-!
What a server takes from a request is a draft of the input, whatever the request is.

* `PlainShape`: shapes whose values have a plain text
* `Operation.Bound`: members travel where values of their shapes can travel
* `fieldsFit_of_readRequestFields`: the fields of a request are drafts of the members of the input
* `conforms_of_readRequest`: an input that is taken conforms to its shape
-/

namespace WireShapes.Schema

open Http

variable {ν : Type}

/-- The shape of a text, whatever its rule. -/
def TextShape (shape : Shape ν) : Prop :=
  (∃ rule, shape = .text rule) ∨ ∃ constants, shape = .enumeration constants

/-- The shape of a text or of a truth value. -/
def PlainShape (shape : Shape ν) : Prop := TextShape shape ∨ shape = .boolean

def labelNames (template : String) : List String :=
  (templateSegments template).filterMap fun
    | .literal _ => none
    | .label name => some (String.ofList name)
    | .greedy name => some (String.ofList name)

/-- Members travel where values of their shapes can travel. -/
structure Operation.Bound (S : Schema ν) (op : Operation ν) : Prop where
  label : ∀ m ∈ S.members op.input, m.name ∈ labelNames op.uri → PlainShape (S.shape m.target)
  query : ∀ m ∈ S.members op.input, ∀ key, m.place = .query key → PlainShape (S.shape m.target) ∨
    ∃ item, S.shape m.target = .list item ∧ TextShape (S.shape item)
  header : ∀ m ∈ S.members op.input, ∀ name, m.place = .header name → PlainShape (S.shape m.target)
  stream : ∀ m ∈ S.members op.input, m.place = .stream → S.shape m.target = .stream

variable {S : Schema ν} {F : Flavour}

theorem TextShape.fits {n : ν} (h : TextShape (S.shape n)) (s : String) : Fits S F n (.text s) := by
  obtain ⟨rule, h⟩ | ⟨constants, h⟩ := h
  · exact .text h
  · exact .symbol h

theorem PlainShape.fits_ofPlain {n : ν} (h : PlainShape (S.shape n)) {raw : String} {d : Draft}
    (hd : ofPlain (S.shape n) raw = .ok d) : Fits S F n d := by
  rcases h with ht | hb
  · have : d = .text raw := by
      obtain ⟨rule, h⟩ | ⟨constants, h⟩ := ht <;> rw [h] at hd <;> exact (Except.ok.inj hd).symm
    exact this ▸ ht.fits raw
  · obtain ⟨b, rfl⟩ : ∃ b, d = .boolean b := by
      rw [hb] at hd
      unfold ofPlain at hd
      dsimp only at hd
      split at hd
      · exact ⟨true, (Except.ok.inj hd).symm⟩
      · split at hd
        · exact ⟨false, (Except.ok.inj hd).symm⟩
        · cases hd
    exact .boolean hb

/-! ### Labels -/

theorem matchSegments_names {segments : List Segment} {parts : List (List Char)}
    {labels : List (String × String)} (h : matchSegments segments parts = some labels) :
    labels.map Prod.fst = segments.filterMap fun
      | .literal _ => none
      | .label name => some (String.ofList name)
      | .greedy name => some (String.ofList name) := by
  induction segments generalizing parts labels with
  | nil =>
    cases parts with
    | nil =>
      rw [matchSegments] at h
      simp [← Option.some.inj h]
    | cons part rest => cases h
  | cons segment segments ih =>
    cases segment with
    | literal text =>
      cases parts with
      | nil => cases h
      | cons part rest =>
        simp only [matchSegments] at h
        split at h
        · exact ih h
        · cases h
    | label name =>
      cases parts with
      | nil => cases h
      | cons part rest =>
        simp only [matchSegments] at h
        split at h
        · cases h
        · obtain ⟨value, -, h⟩ := Option.bind_eq_some_iff.1 h
          obtain ⟨more, hmore, h⟩ := Option.bind_eq_some_iff.1 h
          obtain rfl := Option.some.inj h
          simp [ih hmore]
    | greedy name =>
      simp only [matchSegments] at h
      split at h
      · cases h
      · obtain ⟨value, -, h⟩ := Option.bind_eq_some_iff.1 h
        obtain ⟨more, hmore, h⟩ := Option.bind_eq_some_iff.1 h
        obtain rfl := Option.some.inj h
        simp [ih hmore]

theorem matchPath_names {template path : String} {labels : List (String × String)}
    (h : matchPath template path = some labels) : labels.map Prod.fst = labelNames template :=
  matchSegments_names h

theorem FieldsFit.readLabels {members : List (Member ν)} (hnd : (members.map (·.name)).Nodup)
    {labels : List (String × String)} {fields after : List (String × Draft)}
    (hplain : ∀ m ∈ members, m.name ∈ labels.map Prod.fst → PlainShape (S.shape m.target))
    (hfit : FieldsFit S F members fields) (h : S.readLabels members labels fields = .ok after) :
    FieldsFit S F members after := by
  induction labels generalizing fields with
  | nil =>
    rw [Schema.readLabels] at h
    exact Except.ok.inj h ▸ hfit
  | cons label labels ih =>
    obtain ⟨name, raw⟩ := label
    rw [List.map_cons] at hplain
    have hrest : ∀ m ∈ members, m.name ∈ labels.map Prod.fst → PlainShape (S.shape m.target) :=
      fun m hm hl => hplain m hm (List.mem_cons_of_mem _ hl)
    rw [Schema.readLabels] at h
    split at h
    · exact ih hrest hfit h
    · next m hm =>
      obtain ⟨hmem, rfl⟩ := memberOf?_eq_some hm
      split at h
      · next d hd =>
        have hd' : Fits S F m.target d := (hplain m hmem List.mem_cons_self).fits_ofPlain hd
        exact ih hrest (hfit.setField hnd hmem (draftFits_some hd')) h
      · cases h

/-! ### Query -/

/-- The values of a key of a query, in order. -/
def valuesUnder (key : String) (pairs : List (String × String)) : List String :=
  (pairs.filter (·.1 == key)).map (·.2)

theorem readQueryMember_list {m : Member ν} {item : ν} (h : S.shape m.target = .list item) (key : String)
    (pairs : List (String × String)) :
    readQueryMember S m key pairs =
      .ok (if valuesUnder key pairs = [] then none
        else some (.list ((valuesUnder key pairs).map .text))) := by
  unfold readQueryMember valuesUnder
  rw [h]
  generalize (pairs.filter (·.1 == key)).map (·.2) = values
  cases values <;> rfl

theorem readQueryMember_plain {m : Member ν} (h : PlainShape (S.shape m.target)) (key : String)
    (pairs : List (String × String)) :
    readQueryMember S m key pairs =
      match valuesUnder key pairs with
      | [] => .ok none
      | raw :: _ =>
        match ofPlain (S.shape m.target) raw with
        | .ok d => .ok (some d)
        | .error fault => .error (.query key fault) := by
  unfold readQueryMember valuesUnder
  generalize (pairs.filter (·.1 == key)).map (·.2) = values
  obtain (⟨_, h⟩ | ⟨_, h⟩) | h := h <;> rw [h] <;> cases values <;> rfl

theorem draftFits_of_readQueryMember {m : Member ν} {key : String} {pairs : List (String × String)}
    {d : Option Draft} (hplain : PlainShape (S.shape m.target) ∨
      ∃ item, S.shape m.target = .list item ∧ TextShape (S.shape item))
    (h : readQueryMember S m key pairs = .ok d) : DraftFits S F m.target d := by
  rcases hplain with hp | ⟨item, hitem, ht⟩
  · rw [readQueryMember_plain hp] at h
    split at h
    · exact Except.ok.inj h ▸ draftFits_none
    · split at h
      · next x hx => exact Except.ok.inj h ▸ draftFits_some (hp.fits_ofPlain hx)
      · cases h
  · rw [readQueryMember_list hitem] at h
    rw [← Except.ok.inj h]
    split
    · exact draftFits_none
    · refine draftFits_some (.list hitem fun x hx => ?_)
      obtain ⟨s, -, rfl⟩ := List.mem_map.1 hx
      exact ht.fits s

theorem FieldsFit.readQueryMembers {all : List (Member ν)} (hnd : (all.map (·.name)).Nodup)
    {pairs : List (String × String)} {members : List (Member ν)} (hsub : members ⊆ all)
    (hplain : ∀ m ∈ all, ∀ key, m.place = .query key → PlainShape (S.shape m.target) ∨
      ∃ item, S.shape m.target = .list item ∧ TextShape (S.shape item))
    {fields after : List (String × Draft)} (hfit : FieldsFit S F all fields)
    (h : Schema.readQueryMembers S pairs members fields = .ok after) : FieldsFit S F all after := by
  induction members generalizing fields with
  | nil =>
    rw [Schema.readQueryMembers] at h
    exact Except.ok.inj h ▸ hfit
  | cons m rest ih =>
    have hm : m ∈ all := hsub List.mem_cons_self
    have hrest : rest ⊆ all := fun x hx => hsub (List.mem_cons_of_mem _ hx)
    rw [Schema.readQueryMembers] at h
    split at h
    · next key hkey =>
      obtain ⟨d, hd, h⟩ := Results.bind_eq_ok_iff.1 h
      have hd' : DraftFits S F m.target d := draftFits_of_readQueryMember (hplain m hm key hkey) hd
      split at h
      · exact ih hrest (hfit.setField hnd hm hd') h
      · exact ih hrest hfit h
    · exact ih hrest hfit h

theorem FieldsFit.readQuery {members : List (Member ν)} (hnd : (members.map (·.name)).Nodup)
    (hplain : ∀ m ∈ members, ∀ key, m.place = .query key → PlainShape (S.shape m.target) ∨
      ∃ item, S.shape m.target = .list item ∧ TextShape (S.shape item))
    {query : String} {fields after : List (String × Draft)} (hfit : FieldsFit S F members fields)
    (h : Schema.readQuery S query members fields = .ok after) : FieldsFit S F members after := by
  unfold Schema.readQuery at h
  split at h
  · obtain ⟨pairs, -, h⟩ := Results.bind_eq_ok_iff.1 h
    exact FieldsFit.readQueryMembers hnd (List.Subset.refl _) hplain hfit h
  · exact Except.ok.inj h ▸ hfit

/-! ### Headers and body -/

theorem FieldsFit.readHeaders {all : List (Member ν)} (hnd : (all.map (·.name)).Nodup)
    {headers : Headers} {members : List (Member ν)} (hsub : members ⊆ all)
    (hplain : ∀ m ∈ all, ∀ name, m.place = .header name → PlainShape (S.shape m.target))
    {fields after : List (String × Draft)} (hfit : FieldsFit S F all fields)
    (h : Schema.readHeaders S headers members fields = .ok after) : FieldsFit S F all after := by
  induction members generalizing fields with
  | nil =>
    rw [Schema.readHeaders] at h
    exact Except.ok.inj h ▸ hfit
  | cons m rest ih =>
    have hm : m ∈ all := hsub List.mem_cons_self
    have hrest : rest ⊆ all := fun x hx => hsub (List.mem_cons_of_mem _ hx)
    rw [Schema.readHeaders] at h
    split at h
    · next name hname =>
      obtain ⟨value, -, h⟩ := Results.bind_eq_ok_iff.1 h
      split at h
      · exact ih hrest hfit h
      · split at h
        · next d hd =>
          have hd' : Fits S F m.target d := (hplain m hm name hname).fits_ofPlain hd
          exact ih hrest (hfit.setField hnd hm (draftFits_some hd')) h
        · cases h
    · exact ih hrest hfit h

theorem bodyMembers_subset (members : List (Member ν)) : bodyMembers members ⊆ members :=
  fun _ hm => (List.mem_filter.1 hm).1

theorem FieldsFit.readBody (hS : WellFormed S) {all members : List (Member ν)}
    (hnd : (all.map (·.name)).Nodup) (hsub : members ⊆ all) {body : List UInt8}
    {fields after : List (String × Draft)} (hfit : FieldsFit S F all fields)
    (h : S.readBody F members body fields = .ok after) : FieldsFit S F all after := by
  have hread : (S.readObject F members fields).Yields (FieldsFit S F all) := by
    refine Json.Reader.Yields.seq fun _ => Json.Reader.Yields.seq fun rounds => ?_
    refine ((fitsBelow hS rounds).members all members fields hnd hsub hfit).bind fun more hmore => ?_
    exact Json.Reader.Yields.seq fun _ => Json.Reader.yields_pure hmore
  unfold Schema.readBody at h
  exact hread _ after _ (Prod.ext h rfl)

theorem FieldsFit.openStreams {members : List (Member ν)} (hnd : (members.map (·.name)).Nodup)
    (hstream : ∀ m ∈ members, m.place = .stream → S.shape m.target = .stream)
    {fields : List (String × Draft)} (hfit : FieldsFit S F members fields) :
    FieldsFit S F members (Schema.openStreams members fields) := by
  have go : ∀ (ms : List (Member ν)) (fields : List (String × Draft)),
      (∀ m ∈ ms, m ∈ members ∧ m.place = .stream) → FieldsFit S F members fields →
      FieldsFit S F members
        (ms.foldl (fun fields m => Schema.setField fields m.name (some (.built .stream))) fields) := by
    intro ms
    induction ms with
    | nil => exact fun _ _ h => h
    | cons m rest ih =>
      intro fields hms hfields
      obtain ⟨hm, hplace⟩ := hms m List.mem_cons_self
      have hd : Fits S F m.target (.built .stream) := .built (.stream (hstream m hm hplace))
      exact ih _ (fun x hx => hms x (List.mem_cons_of_mem _ hx))
        (hfields.setField hnd hm (draftFits_some hd))
  refine go _ fields (fun m hm => ?_) hfit
  obtain ⟨hmem, hplace⟩ := List.mem_filter.1 hm
  exact ⟨hmem, of_decide_eq_true hplace⟩

theorem FieldsFit.readStreamOrBody (hS : WellFormed S) {members : List (Member ν)}
    (hnd : (members.map (·.name)).Nodup)
    (hstream : ∀ m ∈ members, m.place = .stream → S.shape m.target = .stream) {body : List UInt8}
    {fields after : List (String × Draft)} (hfit : FieldsFit S F members fields)
    (h : S.readStreamOrBody F body members fields = .ok after) : FieldsFit S F members after := by
  unfold Schema.readStreamOrBody at h
  split at h
  · exact Except.ok.inj h ▸ hfit.openStreams hnd hstream
  split at h
  · exact Except.ok.inj h ▸ hfit
  · exact FieldsFit.readBody hS hnd (bodyMembers_subset members) hfit h

/-! ### Requests -/

/-- **The fields of a request are drafts of the members of the input**, wherever they travelled. -/
theorem fieldsFit_of_readRequestFields (hS : WellFormed S) {op : Operation ν} (hop : op.Bound S)
    {r : Request} {fields : List (String × Draft)} (h : S.readRequestFields F op r = .ok fields) :
    FieldsFit S F (S.members op.input) fields := by
  have hnd := hS.nodup op.input
  unfold readRequestFields at h
  dsimp only at h
  split at h
  · cases h
  split at h
  · cases h
  · next labels hlabels =>
    obtain ⟨f₁, h₁, h⟩ := Results.bind_eq_ok_iff.1 h
    obtain ⟨f₂, h₂, h⟩ := Results.bind_eq_ok_iff.1 h
    obtain ⟨f₃, h₃, h⟩ := Results.bind_eq_ok_iff.1 h
    have hnames : ∀ m ∈ S.members op.input, m.name ∈ labels.map Prod.fst →
        PlainShape (S.shape m.target) := by
      rw [matchPath_names hlabels]
      exact hop.label
    have hf₁ : FieldsFit S F (S.members op.input) f₁ :=
      FieldsFit.readLabels hnd hnames (fieldsFit_nil _) h₁
    have hf₂ := hf₁.readQuery hnd hop.query h₂
    have hf₃ := hf₂.readHeaders hnd (List.Subset.refl _) hop.header h₃
    split at h
    · next more hmore => exact Except.ok.inj h ▸ hf₃.readStreamOrBody hS hnd hop.stream hmore
    · cases h

/-- **An input that is taken from a request conforms to its shape.** -/
theorem conforms_of_readRequest (hS : WellFormed S) {op : Operation ν} (hop : op.Bound S)
    {members : List (Member ν)} (hshape : S.shape op.input = .struct members) {r : Request} {v : Value}
    (h : S.readRequest F op r = .ok v) : Conforms S F op.input v := by
  unfold readRequest at h
  obtain ⟨fields, hfields, h⟩ := Results.bind_eq_ok_iff.1 h
  have hfit := fieldsFit_of_readRequestFields hS hop hfields
  rw [members_of_struct hshape] at hfit
  split at h
  · next w hw => exact Except.ok.inj h ▸ (Fits.struct hshape hfit).conforms_of_build hS hw
  · cases h

end WireShapes.Schema
