import Mathlib.Data.List.Nodup
import WireShapes.Http.Binding
import WireShapes.Model.Lowering
import WireShapes.Proofs.Http.Labels
import WireShapes.Proofs.Schema.Intake

/-!
Labels that members are bound to, and the labels that a match gives.

A member is bound to a label if its placeholder occurs anywhere in the URI, but a match sees the segments of the path,
each as a whole.

* `Orderly`: braces stand around whole segments of the path only, and no name does twice
* `mem_labelNames_of_placeholder`: a placeholder in an orderly URI is one of the segments
* `labels_matched`: how often a match gives the label of a member
-/

namespace WireShapes.Http

open Schema (labelNames)

/-! ### Words in a text -/

theorem occursIn_iff {word text : List Char} : occursIn word text = true ↔ word <:+: text := by
  induction text with
  | nil => simp [occursIn]
  | cons c rest ih => rw [occursIn, Bool.or_eq_true, ih, List.isPrefixOf_iff_prefix, List.infix_cons_iff]

section Words

variable {word : List Char} {sep : Char} (hne : word ≠ []) (hsep : sep ∉ word)

include hne hsep

theorem not_prefix_cons (rest : List Char) : ¬word <+: sep :: rest := by
  cases word with
  | nil => exact absurd rfl hne
  | cons c more =>
    intro h
    obtain ⟨rfl, -⟩ := List.cons_prefix_cons.1 h
    exact hsep List.mem_cons_self

theorem infix_of_infix_cons {rest : List Char} (h : word <:+: sep :: rest) : word <:+: rest :=
  (List.infix_cons_iff.1 h).resolve_left (not_prefix_cons hne hsep rest)

omit hne in
/-- A word without the separator is not cut by the first of them. -/
theorem infix_cut {cs : List Char} (h : word <:+: cs) :
    word <:+: cs.takeWhile (· != sep) ∨ word <:+: cs.dropWhile (· != sep) := by
  induction cs with
  | nil => exact .inl h
  | cons c rest ih =>
    by_cases hc : c = sep
    · exact .inr (by rwa [List.dropWhile_cons_of_neg (by simpa using hc)])
    · rw [List.dropWhile_cons_of_pos (by simpa using hc)]
      rcases List.infix_cons_iff.1 h with hstart | hrest
      · obtain ⟨tail, htail⟩ := hstart
        rw [← htail, List.takeWhile_append_of_pos (Text.forall_bne_of_not_mem hsep)]
        exact .inl (List.prefix_append _ _).isInfix
      · rw [List.takeWhile_cons_of_pos (by simpa using hc)]
        exact (ih hrest).imp_left List.infix_cons

/-- It stands in one of the parts. -/
theorem infix_splitOn {cs : List Char} (h : word <:+: cs) : ∃ part ∈ Text.splitOn sep cs, word <:+: part := by
  induction hn : cs.length using Nat.strong_induction_on generalizing cs with
  | _ n ih =>
    have hcs := List.takeWhile_append_dropWhile (p := (· != sep)) (l := cs)
    have hfirst : sep ∉ cs.takeWhile (· != sep) := fun hmem => by simpa using List.mem_takeWhile_imp hmem
    cases hdrop : cs.dropWhile (· != sep) with
    | nil =>
      rw [hdrop, List.append_nil] at hcs
      rw [hcs] at hfirst
      exact ⟨cs, by simp [Text.splitOn_of_not_mem hfirst], h⟩
    | cons c rest =>
      obtain rfl : c = sep := by
        simpa [hdrop] using List.head_dropWhile_not (p := (· != sep)) (l := cs) (by simp [hdrop])
      have hparts : Text.splitOn c cs = cs.takeWhile (· != c) :: Text.splitOn c rest := by
        conv_lhs => rw [← hcs, hdrop, Text.splitOn_append hfirst]
      have hlt : rest.length < n := by
        rw [← hn, ← hcs, hdrop, List.length_append, List.length_cons]
        omega
      rw [hparts]
      rcases infix_cut hsep h with hhead | htail
      · exact ⟨_, List.mem_cons_self, hhead⟩
      · rw [hdrop] at htail
        obtain ⟨part, hpart, hword⟩ := ih _ hlt (infix_of_infix_cons hne hsep htail) rfl
        exact ⟨part, List.mem_cons_of_mem _ hpart, hword⟩

theorem infix_dropWhile {cs : List Char} (h : word <:+: cs) : word <:+: cs.dropWhile (· == sep) := by
  induction cs with
  | nil => exact h
  | cons c rest ih =>
    by_cases hc : c = sep
    · subst hc
      rw [List.dropWhile_cons_of_pos (by simp)]
      exact ih (infix_of_infix_cons hne hsep h)
    · rwa [List.dropWhile_cons_of_neg (by simpa using hc)]

end Words

/-- Between braces, a word that occurs in another is that word. -/
theorem eq_of_braced {word body : List Char} (hword : '\x7d' ∉ word) (hopen : '\x7b' ∉ body) (hclose : '\x7d' ∉ body)
    (h : '\x7b' :: (word ++ ['\x7d']) <:+: '\x7b' :: (body ++ ['\x7d'])) : word = body := by
  rcases List.infix_cons_iff.1 h with hstart | hlater
  · obtain ⟨tail, htail⟩ := (List.cons_prefix_cons.1 hstart).2
    rw [List.append_assoc, List.singleton_append] at htail
    have hcut := congrArg (List.takeWhile (· != '\x7d')) htail
    rwa [Text.takeWhile_append hword, Text.takeWhile_append hclose] at hcut
  · have hmem := hlater.subset List.mem_cons_self
    simp [hopen] at hmem

/-! ### Orderly templates -/

/-- The segments of a template before they are read. -/
def rawSegments (uri : String) : List (List Char) := pathSegments (uri.toList.takeWhile (· != '?'))

/-- Opening braces of a template begin labels that are whole segments of its path, and no two of these have one name. -/
structure Orderly (uri : String) : Prop where
  labels : ∀ raw ∈ rawSegments uri, '\x7b' ∈ raw → (Segment.ofChars raw).Plain ∧ (Segment.ofChars raw).chars = raw
  query : '\x7b' ∉ uri.toList.dropWhile (· != '?')
  distinct : (labelNames uri).Nodup

/-- What stands between the braces of a placeholder. -/
def placeholderBody (name : String) (greedy : Bool) : List Char := name.toList ++ if greedy then ['+'] else []

theorem toList_placeholder (name : String) (greedy : Bool) :
    (placeholder name greedy).toList = '\x7b' :: (placeholderBody name greedy ++ ['\x7d']) := by
  cases greedy <;> simp [placeholder, placeholderBody]

section Placeholder

variable {uri name : String} {greedy : Bool} (hname : (Segment.label name.toList).Plain)

include hname

theorem clean_placeholderBody {c : Char} (hc : c ∈ Segment.marks) : c ∉ placeholderBody name greedy := by
  have hplus : c ≠ '+' := by
    rintro rfl
    exact absurd hc (by decide)
  have hclean := hname c (List.mem_cons_of_mem _ hc)
  cases greedy <;> simp [placeholderBody, hclean, hplus]

/-- The placeholder of a name is the text of a segment only if the segment is a label of that name. -/
theorem name?_of_placeholder {s : Segment} (hs : s.Plain) (h : (placeholder name greedy).toList <:+: s.chars) :
    s.name? = some name := by
  have hclose : '\x7d' ∉ placeholderBody name greedy := clean_placeholderBody hname (by decide)
  have hplus := hname '+' (by decide)
  rw [toList_placeholder] at h
  cases s with
  | literal text => exact absurd (h.subset List.mem_cons_self) (hs.2 _ (by decide))
  | label body =>
    have hbody := eq_of_braced hclose (hs _ (by decide)) (hs _ (by decide)) h
    cases greedy with
    | false => simp [Segment.name?, ← hbody, placeholderBody]
    | true => exact absurd (by simp [← hbody, placeholderBody] : '+' ∈ body) (hs _ (by decide))
  | greedy body =>
    have hopen : '\x7b' ∉ body ++ ['+'] := by simpa using hs _ (by decide)
    have hshut : '\x7d' ∉ body ++ ['+'] := by simpa using hs _ (by decide)
    have hbody := eq_of_braced hclose hopen hshut h
    cases greedy with
    | false =>
      have hsame : name.toList = body ++ ['+'] := by simpa [placeholderBody] using hbody
      exact absurd (by simp [hsame] : '+' ∈ name.toList) hplus
    | true =>
      have hsame : name.toList = body := List.append_cancel_right hbody
      simp [Segment.name?, ← hsame]

/-- **A placeholder that occurs in an orderly template is one of its segments.** -/
theorem mem_labelNames_of_placeholder (horderly : Orderly uri)
    (h : occursIn (placeholder name greedy).toList uri.toList = true) : name ∈ labelNames uri := by
  have hne : (placeholder name greedy).toList ≠ [] := by simp [toList_placeholder]
  have hopen : '\x7b' ∈ (placeholder name greedy).toList := by simp [toList_placeholder]
  have hclean (c : Char) (hc : c = '/' ∨ c = '?') : c ∉ (placeholder name greedy).toList := by
    have hmark : c ∈ Segment.marks := by rcases hc with rfl | rfl <;> decide
    have hbraces : c ≠ '\x7b' ∧ c ≠ '\x7d' := by rcases hc with rfl | rfl <;> decide
    simp [toList_placeholder, clean_placeholderBody hname hmark, hbraces]
  -- neither the question mark nor a slash cuts the placeholder
  have hpath : (placeholder name greedy).toList <:+: uri.toList.takeWhile (· != '?') :=
    (infix_cut (hclean '?' (.inr rfl)) (occursIn_iff.1 h)).resolve_right fun hquery =>
      horderly.query (hquery.subset hopen)
  obtain ⟨raw, hraw, hword⟩ := infix_splitOn hne (hclean '/' (.inl rfl)) (infix_dropWhile hne (hclean '/' (.inl rfl)) hpath)
  obtain ⟨hplain, hchars⟩ := horderly.labels raw hraw (hword.subset hopen)
  have hseg : (Segment.ofChars raw).name? = some name := name?_of_placeholder hname hplain (hchars ▸ hword)
  refine List.mem_filterMap.2 ⟨Segment.ofChars raw, List.mem_map_of_mem hraw, ?_⟩
  rw [← hseg]
  cases Segment.ofChars raw <;> rfl

end Placeholder

/-! ### Bound members -/

theorem placeholder_of_label {m : Model} {operation : Shape} {bindings : List Binding}
    (h : operationBindings m operation .request = .ok bindings) {b : Binding} (hb : b ∈ bindings) {greedy : Bool}
    (hlabel : b.location = .label greedy) :
    occursIn (placeholder b.member.name greedy).toList (operationHttp operation).uri.toList = true := by
  obtain ⟨container, -, h⟩ := Results.bind_eq_ok_iff.1 h
  obtain ⟨found, -, h⟩ := Results.bind_eq_ok_iff.1 h
  obtain ⟨before, -, hplace⟩ := Results.exists_of_mem_mapM h hb
  unfold placeLabel at hplace
  split at hplace
  · dsimp only at hplace
    split at hplace
    · next hoccurs =>
      obtain rfl := Except.ok.inj hplace
      cases hlabel
      exact hoccurs
    · cases hplace
  · next hother =>
    obtain rfl := Except.ok.inj hplace
    exact absurd hlabel (hother greedy)

/-- **Labels of members, matched.** Whenever the members of a request can be bound and a path matches the URI of the
operation, the match gives the label of a member as often as segments of the path of the URI are labels of that name.
In an orderly URI that is exactly once, whatever the model, if no mark stands in the name of the member. -/
theorem labels_matched {m : Model} {operation : Shape} {bindings : List Binding} {path : String}
    {labels : List (String × String)} (hbound : operationBindings m operation .request = .ok bindings)
    (hmatch : matchPath (operationHttp operation).uri path = some labels) {b : Binding} (hb : b ∈ bindings)
    {greedy : Bool} (hlabel : b.location = .label greedy) :
    (labels.map Prod.fst).count b.member.name = (labelNames (operationHttp operation).uri).count b.member.name ∧
      (Orderly (operationHttp operation).uri → (Segment.label b.member.name.toList).Plain →
        (labels.map Prod.fst).count b.member.name = 1) := by
  have hnames := Schema.matchPath_names hmatch
  refine ⟨by rw [hnames], fun horderly hname => ?_⟩
  rw [hnames]
  exact List.count_eq_one_of_mem horderly.distinct
    (mem_labelNames_of_placeholder hname horderly (placeholder_of_label hbound hb hlabel))

/-- An operation that is bound to a URI. -/
def getAt (uri : String) : Shape where
  id := ⟨"t#Get"⟩
  kind := .operation ⟨some ⟨"t#GetInput"⟩, none, []⟩
  traits := { http := some ⟨"GET", uri, 200⟩ }

def plainText : Shape := ⟨⟨"smithy.api#String"⟩, .string, {}⟩

theorem uri_getAt (uri : String) : (operationHttp (getAt uri)).uri = uri := rfl

def labelMember (name : String) : Member := ⟨name, plainText.id, { required := true, httpLabel := true }⟩

/-- The operation, with texts in its input that travel in labels. -/
def labelModel (uri : String) (names : List String) : Model :=
  ⟨[plainText, getAt uri, ⟨⟨"t#GetInput"⟩, .struct (names.map labelMember), {}⟩]⟩

theorem memberBinding_labelMember (uri : String) (names : List String) (id : ShapeId) (name : String) :
    memberBinding (labelModel uri names) id .request (labelMember name) = .ok ⟨labelMember name, plainText, .label false⟩ := by
  have htarget : (labelModel uri names).target (labelMember name) = .ok plainText := by
    simp [labelModel, labelMember, Model.target, Model.expect, Model.get?]
  rw [memberBinding, htarget]
  rfl

theorem operationBindings_labelModel (uri : String) (names : List String) :
    operationBindings (labelModel uri names) (getAt uri) .request =
      (names.map fun name => ⟨labelMember name, plainText, .label false⟩).mapM (placeLabel (getAt uri)) := by
  have hinput : operationStructure (labelModel uri names) (getAt uri) .request =
      .ok ⟨⟨"t#GetInput"⟩, .struct (names.map labelMember), {}⟩ := by
    simp [operationStructure, getAt, labelModel, Model.expect, Model.get?, plainText]
  have hmembers (rest : List String) :
      (rest.map labelMember).mapM (memberBinding (labelModel uri names) ⟨"t#GetInput"⟩ .request) =
        .ok (rest.map fun name => ⟨labelMember name, plainText, .label false⟩) := by
    induction rest with
    | nil => rfl
    | cons name rest ih =>
      rw [List.map_cons, List.mapM_cons, memberBinding_labelMember, ih]
      rfl
  have hpayload : (names.map fun name => (⟨labelMember name, plainText, .label false⟩ : Binding)).filter
      Binding.isPayload = [] := by
    simp [List.filter_map, Function.comp_def, Binding.isPayload]
  rw [operationBindings, hinput]
  simp only [Results.ok_bind, structureBindings, hmembers, hpayload]
  rfl

def filesUri : String := "/records/\x7bid\x7d/files/\x7bpath+\x7d?fixed=1"

def fileBindings : List Binding :=
  [⟨labelMember "id", plainText, .label false⟩, ⟨labelMember "path", plainText, .label true⟩]

def fileLabels : List (String × String) := [("id", "7"), ("path", "a/b")]

theorem placeLabel_labelMember (uri name : String) (greedy : Bool)
    (hgreedy : occursIn ('\x7b' :: (placeholderBody name true ++ ['\x7d'])) uri.toList = greedy)
    (h : occursIn ('\x7b' :: (placeholderBody name greedy ++ ['\x7d'])) uri.toList = true) :
    placeLabel (getAt uri) ⟨labelMember name, plainText, .label false⟩ =
      .ok ⟨labelMember name, plainText, .label greedy⟩ := by
  rw [← toList_placeholder] at h hgreedy
  subst hgreedy
  exact if_pos h

theorem fileLabels_matched :
    operationBindings (labelModel filesUri ["id", "path"]) (getAt filesUri) .request = .ok fileBindings ∧
      matchPath (operationHttp (getAt filesUri)).uri "/records/7/files/a/b" = some fileLabels ∧
      (∀ b ∈ fileBindings, ∃ greedy, b.location = .label greedy) ∧ Orderly (operationHttp (getAt filesUri)).uri ∧
      ∀ b ∈ fileBindings, (fileLabels.map Prod.fst).count b.member.name = 1 := by
  have hbound : operationBindings (labelModel filesUri ["id", "path"]) (getAt filesUri) .request = .ok fileBindings := by
    rw [operationBindings_labelModel]
    simp only [List.map_cons, List.map_nil, List.mapM_cons, List.mapM_nil]
    rw [placeLabel_labelMember filesUri "id" false (by decide) (by decide),
      placeLabel_labelMember filesUri "path" true (by decide) (by decide)]
    rfl
  have hmatch : matchPath (operationHttp (getAt filesUri)).uri "/records/7/files/a/b" = some fileLabels := by
    rw [uri_getAt]
    decide +kernel
  have hlabels : ∀ b ∈ fileBindings, ∃ greedy, b.location = .label greedy := by simp [fileBindings]
  have horderly : Orderly (operationHttp (getAt filesUri)).uri := by
    rw [uri_getAt]
    exact ⟨by decide, by decide, by decide⟩
  refine ⟨hbound, hmatch, hlabels, horderly, fun b hb => ?_⟩
  have hid : (Segment.label "id".toList).Plain := by decide
  have hpath : (Segment.label "path".toList).Plain := by decide
  have hname : (Segment.label b.member.name.toList).Plain := by
    rcases List.mem_cons.1 hb with rfl | hb
    · exact hid
    · obtain rfl := List.mem_singleton.1 hb
      exact hpath
  obtain ⟨greedy, hlabel⟩ := hlabels b hb
  exact (labels_matched hbound hmatch hb hlabel).2 horderly hname

/-- A placeholder in the query is enough to bind a member, but no match gives its label. -/
theorem queryLabel_unmatched :
    ¬∀ (m : Model) (operation : Shape) (bindings : List Binding) (path : String) (labels : List (String × String)),
      operationBindings m operation .request = .ok bindings →
      matchPath (operationHttp operation).uri path = some labels →
      ∀ b ∈ bindings, ∀ greedy, b.location = .label greedy → (labels.map Prod.fst).count b.member.name = 1 := by
  intro hclaim
  have hbound : operationBindings (labelModel "/items?id=\x7bid\x7d" ["id"]) (getAt "/items?id=\x7bid\x7d") .request =
      .ok [⟨labelMember "id", plainText, .label false⟩] := by
    rw [operationBindings_labelModel]
    simp only [List.map_cons, List.map_nil, List.mapM_cons, List.mapM_nil]
    rw [placeLabel_labelMember "/items?id=\x7bid\x7d" "id" false (by decide) (by decide)]
    rfl
  have hmatch : matchPath (operationHttp (getAt "/items?id=\x7bid\x7d")).uri "/items" = some [] := by
    rw [uri_getAt]
    decide +kernel
  exact absurd (hclaim _ _ _ _ _ hbound hmatch _ List.mem_cons_self false rfl) (by decide)

end WireShapes.Http
