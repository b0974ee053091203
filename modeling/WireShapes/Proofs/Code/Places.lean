import Mathlib.Data.List.Nodup
import WireShapes.Code.Event
import WireShapes.Proofs.Code.Written

/-!
Where the members of an event travel, and the code that reads and writes them there.

* `EventPlace`: a header field, the payload, or a key of the object that is the payload
* `eventPlaces`, `errorPlaces`: the places of the members of an event, and of an error as it is written
* `ReadsFrom`, `WritesTo`: code that reads or writes members at such places and at no others
* `reads_readEvent`, `writes_writePayload`: the code for an event reads from and writes to its places
-/

namespace WireShapes.Code

open Generator

/-- A part of a message of an event stream. -/
inductive EventPlace
  | header (name : String)
  | payload
  /-- An entry of the object that is the payload. -/
  | key (name : String)
deriving DecidableEq, Repr

/-- Members in header fields of their names. -/
def inHeaders (members : List Member) : List (Member × EventPlace) := members.map fun m => (m, .header m.name)

def underKeys (members : List Member) : List (Member × EventPlace) := members.map fun m => (m, .key m.key)

/-- The places of the members of an event: header fields first, then the payload or its keys. -/
def eventPlaces (shape : Shape) : List (Member × EventPlace) :=
  inHeaders (shape.members.filter fun m => m.traits.eventHeader) ++
    match payloadMember? shape with
    | some member => [(member, .payload)]
    | none => underKeys (eventBody shape)

/-- The places of the members of an error as it is written: all that a document holds, under their keys. -/
def errorPlaces (s : Scope) (shape : Shape) : List (Member × EventPlace) :=
  underKeys (s.documentMembers shape.members)

/-! ### No member is left out -/

/-- A member that is the payload leaves room for header fields only. -/
def OnePayload (shape : Shape) : Prop :=
  ∀ member, payloadMember? shape = some member → eventBody shape = [member]

/-- All members travel in the object that is the payload. -/
def AllInObject (s : Scope) (shape : Shape) : Prop :=
  ∀ m ∈ shape.members, m.traits.eventHeader = false ∧ m.traits.eventPayload = false ∧ s.isStreamMember m = false

/-- No two members share a name, and no two in the object share a key. -/
def Apart (shape : Shape) : Prop :=
  (shape.members.map (·.name)).Nodup ∧ ((eventBody shape).map Member.key).Nodup

theorem fst_underKeys (members : List Member) : (underKeys members).map Prod.fst = members := by
  simp [underKeys, Function.comp_def]

theorem fst_inHeaders (members : List Member) : (inHeaders members).map Prod.fst = members := by
  simp [inHeaders, Function.comp_def]

theorem fst_eventPlaces (shape : Shape) :
    (eventPlaces shape).map Prod.fst = (shape.members.filter fun m => m.traits.eventHeader) ++
      match payloadMember? shape with
      | some member => [member]
      | none => eventBody shape := by
  unfold eventPlaces
  rw [List.map_append, fst_inHeaders]
  cases payloadMember? shape with
  | some member => rfl
  | none => rw [fst_underKeys]

/-- **Every member has one place**, unless something stands beside the payload. -/
theorem perm_eventPlaces (shape : Shape) :
    ((eventPlaces shape).map Prod.fst).Perm shape.members ↔ OnePayload shape := by
  have hsplit : ((shape.members.filter fun m => m.traits.eventHeader) ++ eventBody shape).Perm shape.members :=
    List.filter_append_perm (fun m => m.traits.eventHeader) shape.members
  unfold OnePayload
  rw [fst_eventPlaces, ← hsplit.congr_right, List.perm_append_left_iff]
  cases payloadMember? shape with
  | none => simp
  | some member => simp [eq_comm]

/-- No two members share a place, if none share a name or a key. -/
theorem nodup_eventPlaces {shape : Shape} (h : Apart shape) : ((eventPlaces shape).map Prod.snd).Nodup := by
  obtain ⟨hnames, hkeys⟩ := h
  have hheaders : ((inHeaders (shape.members.filter fun m => m.traits.eventHeader)).map Prod.snd).Nodup := by
    have hfilter : (shape.members.filter fun m => m.traits.eventHeader).Sublist shape.members :=
      List.filter_sublist
    have hsub := hnames.sublist (hfilter.map fun m => m.name)
    unfold inHeaders
    rw [List.map_map]
    have hmap := hsub.map fun _ _ h => EventPlace.header.inj h
    rwa [List.map_map] at hmap
  unfold eventPlaces
  rw [List.map_append, List.nodup_append]
  refine ⟨hheaders, ?_, ?_⟩
  · cases payloadMember? shape with
    | some member => exact List.nodup_singleton _
    | none =>
      have hmap := hkeys.map fun _ _ h => EventPlace.key.inj h
      unfold underKeys
      rw [List.map_map]
      rwa [List.map_map] at hmap
  · -- a header field is neither the payload nor a key
    intro place hplace other hother
    obtain ⟨m, -, rfl⟩ : ∃ m, m ∈ shape.members ∧ .header m.name = place := by
      simp only [inHeaders, List.map_map, List.mem_map, List.mem_filter] at hplace
      obtain ⟨m, ⟨hm, -⟩, rfl⟩ := hplace
      exact ⟨m, hm, rfl⟩
    rintro rfl
    cases hpayload : payloadMember? shape with
    | some member => simp [hpayload] at hother
    | none => simp [hpayload, underKeys] at hother

theorem allInObject_iff {s : Scope} {shape : Shape} :
    AllInObject s shape ↔ shape.members.filter (fun m => m.traits.eventHeader) = [] ∧
      payloadMember? shape = none ∧ s.documentMembers shape.members = shape.members := by
  unfold AllInObject payloadMember? Scope.documentMembers
  rw [List.filter_eq_nil_iff, List.find?_eq_none, List.filter_eq_self]
  simp only [Bool.not_eq_true, Bool.not_eq_true', forall₂_and]

theorem eventBody_eq_members {shape : Shape} (h : shape.members.filter (fun m => m.traits.eventHeader) = []) :
    eventBody shape = shape.members := by
  rw [List.filter_eq_nil_iff] at h
  unfold eventBody
  rw [List.filter_eq_self]
  intro m hm
  simpa using h m hm

/-- **An error is written where it is read** exactly if its members all travel in the object. -/
theorem errorPlaces_eq_iff (s : Scope) (shape : Shape) :
    errorPlaces s shape = eventPlaces shape ↔ AllInObject s shape := by
  rw [allInObject_iff]
  constructor
  · intro h
    -- all that is written is under keys, so nothing is read from elsewhere
    have hkeys : ∀ m place, (m, place) ∈ eventPlaces shape → place = .key m.key := by
      intro m place hplace
      rw [← h, errorPlaces, underKeys, List.mem_map] at hplace
      obtain ⟨other, -, heq⟩ := hplace
      obtain ⟨rfl, rfl⟩ := Prod.mk.inj heq
      rfl
    have hheaders : shape.members.filter (fun m => m.traits.eventHeader) = [] := by
      rw [List.eq_nil_iff_forall_not_mem]
      intro m hm
      cases hkeys m (.header m.name) (List.mem_append_left _ (List.mem_map.2 ⟨m, hm, rfl⟩))
    have hpayload : payloadMember? shape = none := by
      rw [Option.eq_none_iff_forall_ne_some]
      intro m hm
      cases hkeys m .payload (by simp [eventPlaces, hm])
    refine ⟨hheaders, hpayload, ?_⟩
    have hfst := congrArg (List.map Prod.fst) h
    rw [fst_eventPlaces, hheaders, hpayload, errorPlaces, fst_underKeys] at hfst
    exact hfst.trans (eventBody_eq_members hheaders)
  · rintro ⟨hheaders, hpayload, hdocument⟩
    unfold errorPlaces eventPlaces
    rw [hheaders, hpayload, hdocument, eventBody_eq_members hheaders]
    rfl

/-- An error whose members all travel in the object leaves room for them. -/
theorem AllInObject.onePayload {s : Scope} {shape : Shape} (h : AllInObject s shape) : OnePayload shape := by
  intro member hmember
  have hmem : member ∈ shape.members := List.mem_of_find?_eq_some hmember
  have hpayload : member.traits.eventPayload = true :=
    List.find?_some (p := fun m : Member => m.traits.eventPayload) hmember
  rw [(h member hmem).2.1] at hpayload
  cases hpayload

/-! ### Code for one place -/

/-- The code takes the member from its header field, if it is there. -/
def ReadsHeader (s : Scope) (member : Member) (step : Step) : Prop :=
  ∃ target read, s.model.target member = .ok target ∧ headerRead s member target = .ok read ∧
    step = method s!"if let Some(header) = message.header({Text.quote member.name})"
      [s!"builder = builder.{setterName member}(Some({read}));"]

/-- The line that adds a member as a header field. -/
def headerAddition (s : Scope) (member : Member) (value : String) : String :=
  s!"message = message.add_header({s.eventPath}::Header::new({Text.quote member.name}, {value}));"

/-- The code adds the member as a header field, an optional one if it is there. -/
def WritesHeader (s : Scope) (member : Member) (code : List Step) : Prop :=
  ∃ target value, s.model.target member = .ok target ∧ headerWrite s target = .ok value ∧
    code = if member.isOptional then
      [method s!"if let Some(value) = &inner.{fieldName member}" [headerAddition s member value]]
    else braces (lines [s!"let value = &inner.{fieldName member};", headerAddition s member value])

/-- The expression gives the payload as a value of the shape. -/
def PayloadRead (s : Scope) (written : List Function) (target : Shape) (read : String) : Prop :=
  match target.kind with
  | .blob => read = s!"Some({s.rt}::Blob::new(message.payload().to_vec()))"
  | .string =>
    read = "Some(::std::string::String::from_utf8(message.payload().to_vec())"
      ++ asStreamFault s "event payload as UTF-8" ++ ")"
  | _ => ∃ f ∈ written, f.shape = target.id ∧ f.form = .textReader ∧
    read = s.functionPath f.name ++ "(message.payload())" ++ asStreamFault s "event payload"

/-- The expression gives the bytes of a value of the shape. -/
def PayloadBytes (s : Scope) (written : List Function) (target : Shape) (bytes : String) : Prop :=
  match target.kind with
  | .blob =>
    bytes =
      if s.hasPublicNewtype target then "value.inner().clone().into_inner()" else "value.clone().into_inner()"
  | .string =>
    bytes =
      if s.hasPublicNewtype target then "value.as_str().as_bytes().to_vec()" else "value.as_bytes().to_vec()"
  | _ => ∃ f ∈ written, f.shape = target.id ∧ f.form = .writer ∧ bytes = objectBytes s f.name "value"

/-- The code makes the payload the value of the member. -/
def ReadsPayload (s : Scope) (written : List Function) (member : Member) (code : List Step) : Prop :=
  ∃ target read, s.model.target member = .ok target ∧ PayloadRead s written target read ∧
    code = [.line s!"builder = builder.{setterName member}({read});"]

/-- The code makes the member the payload; an optional one that is absent makes it empty. -/
def WritesPayload (s : Scope) (written : List Function) (member : Member) (code : List Step) : Prop :=
  ∃ target bytes, s.model.target member = .ok target ∧ PayloadBytes s written target bytes ∧
    code = if member.isOptional then
      [.block s!"let payload = match &inner.{fieldName member}" "\x7d;"
        [block "Some(value) =>" [.code bytes], .line "None => ::std::vec::Vec::new(),"]]
    else lines [s!"let value = &inner.{fieldName member};", s!"let payload = {bytes};"]

/-- The code fills the builder from an object, by a function that reads these keys and no others. -/
def ReadsObject (s : Scope) (written : List Function) (shape : Shape) (members : List Member)
    (code : List Step) : Prop :=
  ∃ f ∈ written, f.shape = shape.id ∧ f.form.group = .readers ∧
    (∃ arms, f.code = keyReader s f.name shape arms ∧ List.Forall₂ (ReadsKey s) members arms) ∧
    let fault := asStreamFault s s!"`{shape.id.name}` payload"
    code = [.line s!"builder = {s.functionPath f.name}(message.payload(), builder){fault};"]

/-- The code makes an object the payload, by a function that writes these keys and no others. -/
def WritesObject (s : Scope) (written : List Function) (shape : Shape) (members : List Member)
    (code : List Step) : Prop :=
  ∃ f ∈ written, f.shape = shape.id ∧ f.form.group = .writers ∧
    (∃ bodies, f.code = keyWriter s f.name shape bodies ∧ List.Forall₂ (WritesKey s) members bodies) ∧
    code = [.line ("let payload = " ++ objectBytes s f.name "&inner" ++ ";")]

/-! ### Code for all places -/

variable {s : Scope} {written : List Function} {shape : Shape}

/-- The code fills the builder of the shape from these places, and from nothing else. -/
inductive ReadsFrom (s : Scope) (written : List Function) (shape : Shape) :
    List (Member × EventPlace) → List Step → Prop
  | payload {headers : List Member} {steps code : List Step} {member : Member}
      (header : List.Forall₂ (ReadsHeader s) headers steps) (payload : ReadsPayload s written member code) :
      ReadsFrom s written shape (inHeaders headers ++ [(member, .payload)]) (steps ++ code)
  | object {headers members : List Member} {steps code : List Step}
      (header : List.Forall₂ (ReadsHeader s) headers steps) (object : ReadsObject s written shape members code) :
      ReadsFrom s written shape (inHeaders headers ++ underKeys members) (steps ++ code)

/-- One piece of code binds the payload and the other adds header fields, with these places and nothing
else. -/
inductive WritesTo (s : Scope) (written : List Function) (shape : Shape) :
    List (Member × EventPlace) → List Step → List Step → Prop
  | payload {headers : List Member} {pieces : List (List Step)} {code : List Step} {member : Member}
      (header : List.Forall₂ (WritesHeader s) headers pieces) (payload : WritesPayload s written member code) :
      WritesTo s written shape (inHeaders headers ++ [(member, .payload)]) code pieces.flatten
  | object {headers members : List Member} {pieces : List (List Step)} {code : List Step}
      (header : List.Forall₂ (WritesHeader s) headers pieces)
      (object : WritesObject s written shape members code) :
      WritesTo s written shape (inHeaders headers ++ underKeys members) code pieces.flatten

theorem PayloadRead.mono {more : List Function} (hsub : written ⊆ more) {read : String}
    (h : PayloadRead s written shape read) : PayloadRead s more shape read := by
  unfold PayloadRead at h ⊢
  split at h
  · exact h
  · exact h
  · obtain ⟨f, hf, hrest⟩ := h
    exact ⟨f, hsub hf, hrest⟩

theorem PayloadBytes.mono {more : List Function} (hsub : written ⊆ more) {bytes : String}
    (h : PayloadBytes s written shape bytes) : PayloadBytes s more shape bytes := by
  unfold PayloadBytes at h ⊢
  split at h
  · exact h
  · exact h
  · obtain ⟨f, hf, hrest⟩ := h
    exact ⟨f, hsub hf, hrest⟩

theorem ReadsFrom.mono {more : List Function} (hsub : written ⊆ more) {places : List (Member × EventPlace)}
    {code : List Step} (h : ReadsFrom s written shape places code) : ReadsFrom s more shape places code := by
  cases h with
  | payload header payload =>
    obtain ⟨target, read, htarget, hread, hcode⟩ := payload
    exact .payload header ⟨target, read, htarget, hread.mono hsub, hcode⟩
  | object header object =>
    obtain ⟨f, hf, hrest⟩ := object
    exact .object header ⟨f, hsub hf, hrest⟩

theorem WritesTo.mono {more : List Function} (hsub : written ⊆ more) {places : List (Member × EventPlace)}
    {payload headers : List Step} (h : WritesTo s written shape places payload headers) :
    WritesTo s more shape places payload headers := by
  cases h with
  | payload header payload =>
    obtain ⟨target, bytes, htarget, hbytes, hcode⟩ := payload
    exact .payload header ⟨target, bytes, htarget, hbytes.mono hsub, hcode⟩
  | object header object =>
    obtain ⟨f, hf, hrest⟩ := object
    exact .object header ⟨f, hsub hf, hrest⟩

/-! ### Reading an event -/

variable {f f' : Functions}

theorem reads_readEventHeaders {steps : List Step} (h : readEventHeaders s shape = .ok steps) :
    List.Forall₂ (ReadsHeader s) (shape.members.filter fun m => m.traits.eventHeader) steps := by
  unfold readEventHeaders at h
  obtain ⟨pieces, hpieces, hsteps⟩ := Results.bind_eq_ok_iff.1 h
  obtain rfl := Except.ok.inj hsteps
  have hall := Results.forall₂_of_mapM hpieces
  clear h hpieces hsteps
  generalize shape.members = members at hall ⊢
  induction hall with
  | nil => exact .nil
  | @cons member piece rest more hpiece _ ih =>
    rw [List.flatten_cons]
    obtain ⟨target, htarget, hpiece⟩ := Results.bind_eq_ok_iff.1 hpiece
    cases hheader : member.traits.eventHeader with
    | true =>
      simp only [hheader, if_true] at hpiece
      obtain ⟨read, hread, hpiece⟩ := Results.bind_eq_ok_iff.1 hpiece
      obtain rfl := Except.ok.inj hpiece
      rw [List.filter_cons_of_pos (by simpa using hheader)]
      exact .cons ⟨target, read, htarget, hread, rfl⟩ ih
    | false =>
      simp only [hheader] at hpiece
      obtain rfl := Except.ok.inj hpiece
      rw [List.filter_cons_of_neg (by simp [hheader])]
      exact ih

theorem moves_payloadRead {target : Shape} (ht : s.Listed target) : Moves (Keeps s) (payloadRead s target) := by
  have hR := course_keeps s
  unfold payloadRead
  split
  · exact moves_pure hR _
  · exact moves_pure hR _
  · exact (moves_documentReader ht).bind hR fun _ _ => moves_pure hR _
  · exact (moves_documentReader ht).bind hR fun _ _ => moves_pure hR _
  · exact moves_throw _

theorem payloadRead_runs {target : Shape} (ht : s.Listed target) (hs : Sound s [] f) {read : String}
    (h : Runs (payloadRead s target) f read f') : PayloadRead s f'.written target read := by
  have hdocument : ∀ {k : String → String}, Runs (documentReader s target >>= fun name => pure (k name)) f read f' →
      ∃ g ∈ f'.written, g.shape = target.id ∧ g.form = .textReader ∧ read = k g.name := by
    intro k hrun
    obtain ⟨name, _, hname, hrun⟩ := runs_bind.1 hrun
    obtain ⟨rfl, rfl⟩ := runs_pure.1 hrun
    obtain ⟨g, hg, his⟩ := written_documentReader ht hs hname
    exact ⟨g, hg, his.shape, his.form, by rw [his.name]⟩
  unfold payloadRead at h
  unfold PayloadRead
  split at h
  · next hkind =>
    rw [hkind]
    exact (runs_pure.1 h).1
  · next hkind =>
    rw [hkind]
    exact (runs_pure.1 h).1
  · next hkind =>
    rw [hkind]
    exact hdocument h
  · next hkind =>
    rw [hkind]
    exact hdocument h
  · exact (not_runs_throw h).elim

/-- Without a member that is the payload, what is not in header fields is in the object. -/
theorem eventBody_eq (h : payloadMember? shape = none) :
    shape.members.filter (fun m => !m.traits.eventHeader && !m.traits.eventPayload) = eventBody shape := by
  unfold payloadMember? at h
  rw [List.find?_eq_none] at h
  refine List.filter_congr fun m hm => ?_
  simp [Bool.eq_false_iff.2 (h m hm)]

theorem moves_readEvent (hlisted : s.Listed shape) : Moves (Keeps s) (readEvent s shape) := by
  have hR := course_keeps s
  unfold readEvent
  refine (moves_lift hR _).bind hR fun _ _ => ?_
  split
  · refine moves_target hR fun target ht => ?_
    exact (moves_payloadRead ht).bind hR fun _ _ => moves_pure hR _
  · next hpayload =>
    rw [eventBody_eq hpayload]
    exact (moves_bodyReader hlisted).bind hR fun _ _ => moves_pure hR _

/-- **The code for an event reads its members from their places.** -/
theorem reads_readEvent (hlisted : s.Listed shape) (hs : Sound s [] f) {code : List Step}
    (h : Runs (readEvent s shape) f code f') : ReadsFrom s f'.written shape (eventPlaces shape) code := by
  unfold readEvent at h
  obtain ⟨headers, hheaders, h⟩ := runs_lift_bind.1 h
  have hreads := reads_readEventHeaders hheaders
  unfold eventPlaces
  cases hpayload : payloadMember? shape with
  | some member =>
    simp only [hpayload] at h
    obtain ⟨target, htarget, h⟩ := runs_lift_bind.1 h
    obtain ⟨read, _, hread, h⟩ := runs_bind.1 h
    obtain ⟨rfl, rfl⟩ := runs_pure.1 h
    exact .payload hreads ⟨target, read, htarget, payloadRead_runs (listed_of_target htarget) hs hread, rfl⟩
  | none =>
    simp only [hpayload, eventBody_eq hpayload] at h
    obtain ⟨name, _, hname, h⟩ := runs_bind.1 h
    obtain ⟨rfl, rfl⟩ := runs_pure.1 h
    obtain ⟨g, hg, his, hhandles⟩ := handles_bodyReader hlisted hs hname
    obtain rfl := his.name
    exact .object hreads ⟨g, hg, his.shape, by rw [his.form]; rfl, hhandles, rfl⟩

/-! ### Writing an event -/

theorem writes_writeEventHeaders {steps : List Step} (h : writeEventHeaders s shape = .ok steps) :
    ∃ pieces, steps = pieces.flatten ∧
      List.Forall₂ (WritesHeader s) (shape.members.filter fun m => m.traits.eventHeader) pieces := by
  unfold writeEventHeaders at h
  obtain ⟨pieces, hpieces, h⟩ := Results.bind_eq_ok_iff.1 h
  obtain rfl := Except.ok.inj h
  refine ⟨pieces, rfl, (Results.forall₂_of_mapM hpieces).imp fun member piece hpiece => ?_⟩
  obtain ⟨target, htarget, hpiece⟩ := Results.bind_eq_ok_iff.1 hpiece
  obtain ⟨value, hvalue, hpiece⟩ := Results.bind_eq_ok_iff.1 hpiece
  refine ⟨target, value, htarget, hvalue, ?_⟩
  split at hpiece
  · next hoptional =>
    rw [if_pos hoptional]
    exact (Except.ok.inj hpiece).symm
  · next hoptional =>
    rw [if_neg hoptional]
    exact (Except.ok.inj hpiece).symm

theorem moves_payloadBytes {target : Shape} (ht : s.Listed target) :
    Moves (Keeps s) (payloadBytes s target) := by
  have hR := course_keeps s
  unfold payloadBytes
  dsimp only
  split
  · exact moves_pure hR _
  · exact moves_pure hR _
  · exact (calls_writerWithin s _ target ht).bind hR fun _ _ => moves_pure hR _
  · exact (calls_writerWithin s _ target ht).bind hR fun _ _ => moves_pure hR _
  · exact moves_throw _

theorem payloadBytes_runs {target : Shape} (ht : s.Listed target) (hs : Sound s [] f) {bytes form : String}
    (h : Runs (payloadBytes s target) f (bytes, form) f') : PayloadBytes s f'.written target bytes := by
  have hobject : ∀ {k : String → String × String}, Runs (writerFunction s target >>= fun name => pure (k name)) f
      (bytes, form) f' → ∃ g ∈ f'.written, g.shape = target.id ∧ g.form = .writer ∧ bytes = (k g.name).1 := by
    intro k hrun
    obtain ⟨name, _, hname, hrun⟩ := runs_bind.1 hrun
    obtain ⟨hpair, rfl⟩ := runs_pure.1 hrun
    obtain ⟨g, hg, his⟩ := written_writerFunction ht hs hname
    exact ⟨g, hg, his.shape, his.form, by rw [his.name, ← hpair]⟩
  unfold payloadBytes at h
  unfold PayloadBytes
  dsimp only at h
  split at h
  · next hkind =>
    rw [hkind]
    exact (Prod.mk.inj (runs_pure.1 h).1).1
  · next hkind =>
    rw [hkind]
    exact (Prod.mk.inj (runs_pure.1 h).1).1
  · next hkind =>
    rw [hkind]
    exact hobject h
  · next hkind =>
    rw [hkind]
    exact hobject h
  · exact (not_runs_throw h).elim

theorem moves_writePayload (hlisted : s.Listed shape) : Moves (Keeps s) (writePayload s shape) := by
  have hR := course_keeps s
  unfold writePayload
  split
  · exact (moves_bodyWriter hlisted).bind hR fun _ _ => moves_pure hR _
  · refine moves_target hR fun target ht => (moves_payloadBytes ht).bind hR fun pair _ => ?_
    dsimp only
    split <;> exact moves_pure hR _

/-- **The code for an event writes its members to their places.** -/
theorem writes_writePayload (hlisted : s.Listed shape) (hs : Sound s [] f) {payload headers : List Step}
    {form : String} (h : Runs (writePayload s shape) f (payload, form) f')
    (hheaders : writeEventHeaders s shape = .ok headers) :
    WritesTo s f'.written shape (eventPlaces shape) payload headers := by
  obtain ⟨pieces, rfl, hwrites⟩ := writes_writeEventHeaders hheaders
  unfold writePayload at h
  unfold eventPlaces
  cases hpayload : payloadMember? shape with
  | none =>
    simp only [hpayload] at h
    obtain ⟨name, _, hname, h⟩ := runs_bind.1 h
    obtain ⟨hpair, rfl⟩ := runs_pure.1 h
    obtain ⟨rfl, -⟩ := Prod.mk.inj hpair
    obtain ⟨g, hg, his, hhandles⟩ := handles_bodyWriter hlisted hs hname
    obtain rfl := his.name
    exact .object hwrites ⟨g, hg, his.shape, by rw [his.form]; rfl, hhandles, rfl⟩
  | some member =>
    simp only [hpayload] at h
    obtain ⟨target, htarget, h⟩ := runs_lift_bind.1 h
    obtain ⟨⟨bytes, contentType⟩, middle, hbytes, h⟩ := runs_bind.1 h
    have hmade := payloadBytes_runs (listed_of_target htarget) hs hbytes
    split at h
    · next hoptional =>
      obtain ⟨hpair, rfl⟩ := runs_pure.1 h
      refine .payload hwrites ⟨target, bytes, htarget, hmade, ?_⟩
      rw [if_pos hoptional]
      exact (Prod.mk.inj hpair).1
    · next hoptional =>
      obtain ⟨hpair, rfl⟩ := runs_pure.1 h
      refine .payload hwrites ⟨target, bytes, htarget, hmade, ?_⟩
      rw [if_neg hoptional]
      exact (Prod.mk.inj hpair).1

end WireShapes.Code
