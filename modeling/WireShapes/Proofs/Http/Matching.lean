import WireShapes.Proofs.Http.Labels

/-!
Which paths match a template, and what its labels stand for in them.

* `Slashed`: a text that is so many slashes and then parts, with a slash between every two of them
* `Slashed.pathSegments`, `slashed_pathSegments`: the parts of a path are those that it has after its leading slashes,
  however many these are
* `Matches`: the parts that fall to the segments of a template, and the labels with their values
* `matches_of_matchSegments`, `matchSegments_of_matches`: what a match gives, and that with one greedy label at most
  nothing else matches
* `matchPath_form`: hence the form of the paths that match, and all of them do
-/

namespace WireShapes.Http

/-! ### Parts of a path -/

/-- The text is so many slashes and then the parts, with a slash between every two of them. All slashes in front are
counted. -/
structure Slashed (cs : List Char) (slashes : Nat) (parts : List (List Char)) : Prop where
  text : cs = List.replicate slashes '/' ++ Text.joinWith ['/'] parts
  ne_nil : parts ≠ []
  clean : ∀ part ∈ parts, '/' ∉ part
  front : (Text.joinWith ['/'] parts).head? ≠ some '/'

theorem dropWhile_slashes {cs : List Char} (h : cs.head? ≠ some '/') (slashes : Nat) :
    (List.replicate slashes '/' ++ cs).dropWhile (· == '/') = cs := by
  have hall : ∀ c ∈ List.replicate slashes '/', (c == '/') = true := by
    intro c hc
    rw [List.eq_of_mem_replicate hc]
    rfl
  rw [List.dropWhile_append_of_pos hall]
  cases cs with
  | nil => rfl
  | cons c rest =>
    have hc : c ≠ '/' := fun hc => h (by rw [hc]; rfl)
    exact List.dropWhile_cons_of_neg (by simpa using hc)

theorem Slashed.pathSegments {cs : List Char} {slashes : Nat} {parts : List (List Char)} (h : Slashed cs slashes parts) :
    pathSegments cs = parts := by
  rw [Http.pathSegments, h.text, dropWhile_slashes h.front, Text.splitOn_joinWith h.ne_nil h.clean]

/-- The parts of a path, and the slashes in front of them. -/
theorem slashed_pathSegments (cs : List Char) : ∃ slashes, Slashed cs slashes (pathSegments cs) := by
  obtain ⟨part, parts, hparts⟩ := Text.exists_splitOn '/' (cs.dropWhile (· == '/'))
  have hjoin : Text.joinWith ['/'] (pathSegments cs) = cs.dropWhile (· == '/') := Text.joinWith_splitOn _
  have htake : cs.takeWhile (· == '/') = List.replicate (cs.takeWhile (· == '/')).length '/' := by
    refine List.eq_replicate_of_mem fun c hc => ?_
    simpa using List.mem_takeWhile_imp hc
  refine ⟨(cs.takeWhile (· == '/')).length, ?_, ?_, ?_, ?_⟩
  · rw [hjoin, ← htake, List.takeWhile_append_dropWhile]
  · rw [pathSegments, hparts]
    exact List.cons_ne_nil _ _
  · intro part hpart
    exact Text.not_mem_of_mem_splitOn hpart
  · rw [hjoin]
    intro hfront
    have hne := List.head?_dropWhile_not (· == '/') cs
    rw [hfront] at hne
    simp at hne

/-! ### Parts that fall to segments -/

/-- The parts fall to the segments one after the other, and the labels are those of the segments with their values: a
literal stands for itself, a label for one part that is not empty, and a greedy label for one part or more with the
slashes between them. -/
inductive Matches : List Segment → List (List Char) → List (String × String) → Prop
  | nil : Matches [] [] []
  | literal {text : List Char} {segments : List Segment} {parts : List (List Char)} {labels : List (String × String)}
      (more : Matches segments parts labels) : Matches (.literal text :: segments) (text :: parts) labels
  | label {name part : List Char} {value : String} {segments : List Segment} {parts : List (List Char)}
      {labels : List (String × String)} (ne_nil : part ≠ []) (decodes : Percent.decode (String.ofList part) = .ok value)
      (more : Matches segments parts labels) :
      Matches (.label name :: segments) (part :: parts) ((String.ofList name, value) :: labels)
  | greedy {name : List Char} {taken : List (List Char)} {value : String} {segments : List Segment}
      {parts : List (List Char)} {labels : List (String × String)} (ne_nil : taken ≠ [])
      (decodes : Percent.decode (String.ofList (Text.joinWith ['/'] taken)) = .ok value)
      (more : Matches segments parts labels) :
      Matches (.greedy name :: segments) (taken ++ parts) ((String.ofList name, value) :: labels)

theorem labelValue?_eq_some_iff {raw : List Char} {value : String} :
    labelValue? raw = some value ↔ Percent.decode (String.ofList raw) = .ok value := by
  rw [labelValue?]
  split
  · next text hraw => rw [hraw, Option.some_inj, Except.ok.injEq]
  · next e hraw => simp [hraw]

/-- **What a match gives**: the parts fall to the segments. -/
theorem matches_of_matchSegments {segments : List Segment} {parts : List (List Char)} {labels : List (String × String)}
    (h : matchSegments segments parts = some labels) : Matches segments parts labels := by
  induction segments generalizing parts labels with
  | nil =>
    cases parts with
    | nil =>
      cases h
      exact .nil
    | cons part rest => cases h
  | cons s segments ih =>
    cases s with
    | literal text =>
      cases parts with
      | nil => cases h
      | cons part rest =>
        rw [matchSegments] at h
        obtain ⟨rfl, hmore⟩ := Option.ite_none_right_eq_some.1 h
        exact .literal (ih hmore)
    | label name =>
      cases parts with
      | nil => cases h
      | cons part rest =>
        rw [matchSegments] at h
        obtain ⟨hne, h⟩ := Option.ite_none_left_eq_some.1 h
        obtain ⟨value, hvalue, h⟩ := Option.bind_eq_some_iff.1 h
        obtain ⟨more, hmore, h⟩ := Option.bind_eq_some_iff.1 h
        cases h
        exact .label (by simpa using hne) (labelValue?_eq_some_iff.1 hvalue) (ih hmore)
    | greedy name =>
      rw [matchSegments] at h
      obtain ⟨htake, h⟩ := Option.ite_none_left_eq_some.1 h
      obtain ⟨value, hvalue, h⟩ := Option.bind_eq_some_iff.1 h
      obtain ⟨more, hmore, h⟩ := Option.bind_eq_some_iff.1 h
      cases h
      have hne : parts.take (parts.length - segments.length) ≠ [] := by
        rw [Ne, List.take_eq_nil_iff, not_or]
        refine ⟨htake, ?_⟩
        rintro rfl
        exact htake (Nat.zero_sub _)
      have hall : Matches (.greedy name :: segments) _ ((String.ofList name, value) :: more) :=
        .greedy hne (labelValue?_eq_some_iff.1 hvalue) (ih hmore)
      rwa [List.take_append_drop] at hall

theorem Matches.length_eq {segments : List Segment} {parts : List (List Char)} {labels : List (String × String)}
    (h : Matches segments parts labels) (hnone : segments.countP Segment.isGreedy = 0) :
    parts.length = segments.length := by
  induction h with
  | nil => rfl
  | literal _ ih =>
    rw [List.countP_cons] at hnone
    rw [List.length_cons, List.length_cons, ih (by omega)]
  | label _ _ _ ih =>
    rw [List.countP_cons] at hnone
    rw [List.length_cons, List.length_cons, ih (by omega)]
  | greedy _ _ _ _ => simp [Segment.isGreedy] at hnone

/-- **Where one label at most is greedy, parts that fall to the segments are a match.** -/
theorem matchSegments_of_matches {segments : List Segment} {parts : List (List Char)} {labels : List (String × String)}
    (h : Matches segments parts labels) (hone : segments.countP Segment.isGreedy ≤ 1) :
    matchSegments segments parts = some labels := by
  induction h with
  | nil => rfl
  | literal _ ih =>
    rw [List.countP_cons] at hone
    rw [matchSegments, if_pos rfl]
    exact ih (by omega)
  | label hne hdecodes _ ih =>
    rw [List.countP_cons] at hone
    have hsome := List.isEmpty_eq_false_iff.2 hne
    rw [matchSegments, hsome]
    simp [labelValue?_eq_some_iff.2 hdecodes, ih (by omega)]
  | @greedy name taken value segments parts labels hne hdecodes hmore ih =>
    rw [List.countP_cons] at hone
    have hothers : segments.countP Segment.isGreedy = 0 := by
      simp only [Segment.isGreedy, if_true] at hone
      omega
    -- what is left over for the greedy label is what fell to it
    have htake : (taken ++ parts).length - segments.length = taken.length := by
      rw [List.length_append, hmore.length_eq hothers, Nat.add_sub_cancel]
    have hsome : taken.length ≠ 0 := by
      rw [Ne, List.length_eq_zero_iff]
      exact hne
    rw [matchSegments]
    simp only [htake, if_neg hsome, List.take_left, List.drop_left, labelValue?_eq_some_iff.2 hdecodes,
      ih (by omega)]
    rfl

/-! ### Paths -/

/-- The path has the form of the template, and its labels are these: parts of the path, after so many slashes, fall to the
segments of the template, which stand after so many slashes themselves and in front of its query. -/
def HasForm (template path : String) (labels : List (String × String)) : Prop :=
  ∃ (texts parts : List (List Char)) (m n : Nat), Slashed (template.toList.takeWhile (· != '?')) m texts ∧
    Slashed path.toList n parts ∧ Matches (texts.map Segment.ofChars) parts labels

/-- **The paths that match a template have its form**, but for the number of slashes in front: the parts of the path fall
to the segments of the template, literals verbatim, labels with the values that their parts denote. With one greedy label
at most, all paths of the form match. -/
theorem matchPath_form (template path : String) (labels : List (String × String)) :
    (matchPath template path = some labels → HasForm template path labels) ∧
    ((templateSegments template).countP Segment.isGreedy ≤ 1 → HasForm template path labels →
      matchPath template path = some labels) := by
  constructor
  · intro h
    obtain ⟨m, htexts⟩ := slashed_pathSegments (template.toList.takeWhile (· != '?'))
    obtain ⟨n, hparts⟩ := slashed_pathSegments path.toList
    exact ⟨_, _, m, n, htexts, hparts, matches_of_matchSegments h⟩
  · rintro hone ⟨texts, parts, m, n, htexts, hparts, h⟩
    rw [templateSegments, htexts.pathSegments] at hone
    rw [matchPath, templateSegments, htexts.pathSegments, hparts.pathSegments]
    exact matchSegments_of_matches h hone

/-- A path with a slash too many, a greedy label with a segment behind it, and a query in the template. -/
theorem slashedPath_form :
    matchPath "/files/\x7bpath+\x7d/meta?fixed=1" "//files/a/b%20c/meta" = some [("path", "a/b c")] ∧
    HasForm "/files/\x7bpath+\x7d/meta?fixed=1" "//files/a/b%20c/meta" [("path", "a/b c")] ∧
    (templateSegments "/files/\x7bpath+\x7d/meta?fixed=1").countP Segment.isGreedy ≤ 1 := by
  have hform := matchPath_form "/files/\x7bpath+\x7d/meta?fixed=1" "//files/a/b%20c/meta" [("path", "a/b c")]
  have hmatch : matchPath "/files/\x7bpath+\x7d/meta?fixed=1" "//files/a/b%20c/meta" = some [("path", "a/b c")] := by
    decide +kernel
  have hone : (templateSegments "/files/\x7bpath+\x7d/meta?fixed=1").countP Segment.isGreedy ≤ 1 := by decide +kernel
  exact ⟨hform.2 hone (hform.1 hmatch), hform.1 hmatch, hone⟩

/-- The text is a slash and then the parts, with a slash between every two of them. -/
def Rooted (cs : List Char) (parts : List (List Char)) : Prop :=
  cs = '/' :: Text.joinWith ['/'] parts ∧ ∀ part ∈ parts, '/' ∉ part

theorem Rooted.eq_splitOn {cs : List Char} {parts : List (List Char)} (h : Rooted ('/' :: cs) parts) (hcs : cs ≠ []) :
    parts = Text.splitOn '/' cs := by
  obtain ⟨htext, hclean⟩ := h
  obtain rfl := (List.cons.inj htext).2
  refine (Text.splitOn_joinWith ?_ hclean).symm
  rintro rfl
  exact hcs rfl

/-- A path with one slash more in front than the template has matches it. -/
theorem extraSlash_matched :
    ¬∀ (template path : String) (labels : List (String × String)), template.toList.head? = some '/' →
      matchPath template path = some labels →
      ∃ texts parts : List (List Char), Rooted (template.toList.takeWhile (· != '?')) texts ∧ Rooted path.toList parts ∧
        Matches (texts.map Segment.ofChars) parts labels := by
  intro hclaim
  obtain ⟨texts, parts, htexts, hparts, h⟩ := hclaim "/records/\x7bid\x7d" "//records/abc" [("id", "abc")]
    (by decide) (by decide +kernel)
  have htext : texts = [['r', 'e', 'c', 'o', 'r', 'd', 's'], ['\x7b', 'i', 'd', '\x7d']] :=
    Rooted.eq_splitOn htexts (by decide)
  have hpart : parts = [[], ['r', 'e', 'c', 'o', 'r', 'd', 's'], ['a', 'b', 'c']] := Rooted.eq_splitOn hparts (by decide)
  rw [htext, hpart] at h
  cases h

end WireShapes.Http
