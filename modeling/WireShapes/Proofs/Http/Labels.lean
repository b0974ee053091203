import WireShapes.Proofs.Http.Uri

/-!
Labels of a template, filled in and found again.

A template is read twice, each time in its own way: for writing it is cut into pieces at its braces, for matching
into segments at its slashes.

* `Template`: segments of which one at most is greedy, the first a literal, and a query behind them
* `Template.segments_text`: cut at its slashes, a template gives its segments
* `Template.fill_text`: filled in, its pieces give the parts of its segments
* `matchSegments_parts`: in these parts the segments find the values of their labels
* `Template.matchPath_fill`: hence what was filled in is found again
-/

namespace WireShapes.Http

/-! ### Templates -/

namespace Segment

/-- A segment as it stands in a template. -/
def chars : Segment → List Char
  | literal text => text
  | label name => '\x7b' :: (name ++ ['\x7d'])
  | greedy name => '\x7b' :: ((name ++ ['+']) ++ ['\x7d'])

/-- Characters that cut a template. -/
def marks : List Char := ['/', '?', '\x7b', '\x7d']

/-- A literal that is not empty, or a label, and no mark in either. -/
def Plain : Segment → Prop
  | literal text => text ≠ [] ∧ ∀ c ∈ marks, c ∉ text
  | label name => ∀ c ∈ '+' :: marks, c ∉ name
  | greedy name => ∀ c ∈ '+' :: marks, c ∉ name

-- the marks are gone through, not all characters
instance : DecidablePred Plain
  | literal text => @instDecidableAnd _ _ _ (List.decidableBAll (fun c => c ∉ text) marks)
  | label name => List.decidableBAll (fun c => c ∉ name) ('+' :: marks)
  | greedy name => List.decidableBAll (fun c => c ∉ name) ('+' :: marks)

def isGreedy : Segment → Bool
  | greedy _ => true
  | _ => false

def name? : Segment → Option String
  | literal _ => none
  | label name => some (String.ofList name)
  | greedy name => some (String.ofList name)

end Segment

/-- Segments and a query behind them, if there is one. -/
structure Template where
  segments : List Segment
  query : Option (List Char)
  plain : ∀ s ∈ segments, s.Plain
  literal_first : ∃ text rest, segments = .literal text :: rest
  one_greedy : segments.countP Segment.isGreedy ≤ 1

namespace Template

/-- The path of a template, each segment after a slash. -/
def pathChars (t : Template) : List Char := t.segments.flatMap fun s => '/' :: s.chars

def queryChars (t : Template) : List Char :=
  match t.query with
  | none => []
  | some query => '?' :: query

def text (t : Template) : String := String.ofList (t.pathChars ++ t.queryChars)

def names (t : Template) : List String := t.segments.filterMap Segment.name?

end Template

/-- What stands in a URI before its first question mark. -/
def pathOf (uri : String) : String := String.ofList (uri.toList.takeWhile (· != '?'))

/-- What stands for a piece after values have been given to labels. -/
def UriPiece.fill (values : String → String) : UriPiece → String
  | literal text => text
  | label name greedy => writeLabel (values name) greedy

/-- The pieces of a template with values in place of the labels. -/
def fill (values : String → String) (pieces : List UriPiece) : String :=
  String.join (pieces.map (UriPiece.fill values))

/-! ### Segments of a text -/

theorem Segment.clean_chars {s : Segment} (h : s.Plain) {c : Char} (hc : c = '/' ∨ c = '?') :
    c ∉ s.chars := by
  have hmark : c ∈ marks := by rcases hc with rfl | rfl <;> decide
  have hname : c ∈ '+' :: marks := List.mem_cons_of_mem _ hmark
  have hbraces : c ≠ '\x7b' ∧ c ≠ '\x7d' ∧ c ≠ '+' := by rcases hc with rfl | rfl <;> decide
  cases s with
  | literal text => exact h.2 c hmark
  | label name =>
    simp only [chars, List.mem_cons, List.mem_append, List.not_mem_nil, or_false, not_or]
    exact ⟨hbraces.1, h c hname, hbraces.2.1⟩
  | greedy name =>
    simp only [chars, List.mem_cons, List.mem_append, List.not_mem_nil, or_false, not_or]
    exact ⟨hbraces.1, ⟨h c hname, hbraces.2.2⟩, hbraces.2.1⟩

theorem trimRight_of_not_mem {c : Char} {cs : List Char} (h : c ∉ cs) :
    Text.trimRight (· == c) cs = cs := by
  unfold Text.trimRight
  have hnone : ∀ d, cs.reverse.head? = some d → ¬(d == c) = true := by
    intro d hd heq
    have hmem : d ∈ cs := List.mem_reverse.1 (List.mem_of_mem_head? hd)
    exact h (by simpa using (eq_of_beq heq) ▸ hmem)
  rw [List.dropWhile_eq_self_iff.2, List.reverse_reverse]
  intro hlen
  exact hnone _ (List.head?_eq_getElem? ▸ List.getElem?_eq_getElem hlen)

theorem trimRight_concat {c : Char} {cs : List Char} (h : c ∉ cs) :
    Text.trimRight (· == c) (cs ++ [c]) = cs := by
  have hcons : Text.trimRight (· == c) (cs ++ [c]) = Text.trimRight (· == c) cs := by
    unfold Text.trimRight
    rw [List.reverse_concat, List.dropWhile_cons_of_pos (by simp)]
  rw [hcons, trimRight_of_not_mem h]

theorem getLast?_ne_of_not_mem {c : Char} {cs : List Char} (h : c ∉ cs) : cs.getLast? ≠ some c :=
  fun hlast => h (List.mem_of_getLast? hlast)

theorem Segment.ofChars_chars {s : Segment} (h : s.Plain) : ofChars s.chars = s := by
  cases s with
  | literal text =>
    cases text with
    | nil => exact absurd rfl h.1
    | cons c rest =>
      have hbrace : c ≠ '\x7b' := fun hc => h.2 '\x7b' (by decide) (hc ▸ List.mem_cons_self)
      unfold ofChars chars
      split
      · next heq => exact absurd (List.cons.inj heq).1 hbrace
      · rfl
  | label name =>
    have hplus : name.getLast? ≠ some '+' := getLast?_ne_of_not_mem (h '+' (by decide))
    simp [ofChars, chars, hplus]
  | greedy name => simp [ofChars, chars, trimRight_concat (h '+' (by decide))]

theorem takeWhile_path {path tail : List Char} (h : '?' ∉ path) (htail : tail = [] ∨ ∃ query, tail = '?' :: query) :
    (path ++ tail).takeWhile (· != '?') = path := by
  rcases htail with rfl | ⟨query, rfl⟩
  · rw [List.append_nil, Text.takeWhile_of_not_mem h]
  · exact Text.takeWhile_append h

/-- Parts that stand after a slash each are found again. -/
theorem pathSegments_flatMap {part : List Char} {parts : List (List Char)} (hne : part ≠ [])
    (hclean : ∀ p ∈ part :: parts, '/' ∉ p) :
    pathSegments ((part :: parts).flatMap ('/' :: ·)) = part :: parts := by
  have hdrop : ((part :: parts).flatMap ('/' :: ·)).dropWhile (· == '/') =
      Text.joinWith ['/'] (part :: parts) := by
    rw [Text.joinWith_cons]
    cases part with
    | nil => exact absurd rfl hne
    | cons c cs =>
      have hc : c ≠ '/' := fun hc => hclean (c :: cs) List.mem_cons_self (hc ▸ List.mem_cons_self)
      simp [List.flatMap_cons, hc]
  rw [pathSegments, hdrop, Text.splitOn_joinWith (by simp) hclean]

namespace Template

variable (t : Template)

theorem clean_pathChars : '?' ∉ t.pathChars := by
  unfold pathChars
  rw [List.mem_flatMap]
  rintro ⟨s, hs, hc⟩
  rcases List.mem_cons.1 hc with hc | hc
  · exact absurd hc (by decide)
  · exact Segment.clean_chars (t.plain s hs) (.inr rfl) hc

theorem queryChars_cases : t.queryChars = [] ∨ ∃ query, t.queryChars = '?' :: query := by
  unfold queryChars
  split
  · exact .inl rfl
  · exact .inr ⟨_, rfl⟩

/-- **Cut at its slashes, a template gives its segments.** -/
theorem segments_text : templateSegments t.text = t.segments := by
  obtain ⟨first, rest, hsegments⟩ := t.literal_first
  have hplain := t.plain
  have hpath : t.pathChars = (t.segments.map Segment.chars).flatMap ('/' :: ·) := by
    rw [List.flatMap_map]
    rfl
  have hparts : pathSegments t.pathChars = t.segments.map Segment.chars := by
    rw [hpath]
    rw [hsegments] at hplain ⊢
    have hclean : ∀ p ∈ (Segment.literal first :: rest).map Segment.chars, '/' ∉ p := by
      intro p hp
      obtain ⟨s, hs, rfl⟩ := List.mem_map.1 hp
      exact Segment.clean_chars (hplain s hs) (.inl rfl)
    exact pathSegments_flatMap (hplain _ List.mem_cons_self).1 hclean
  have hback : (t.segments.map Segment.chars).map Segment.ofChars = t.segments := by
    rw [List.map_map]
    exact (List.map_congr_left fun s hs => Segment.ofChars_chars (t.plain s hs)).trans (List.map_id _)
  have htake : t.text.toList.takeWhile (· != '?') = t.pathChars := by
    rw [text, String.toList_ofList]
    exact takeWhile_path t.clean_pathChars t.queryChars_cases
  rw [templateSegments, htake, hparts, hback]

end Template

/-! ### Pieces of a text -/

section Pieces

variable (values : String → String)

/-- The characters of the pieces of a text, with values in place of the labels. -/
def fillChars (cs : List Char) : List Char :=
  (piecesFrom (cs.length + 1) cs).flatMap fun piece => (piece.fill values).toList

theorem toList_fill (cs : List Char) : (fill values (uriPieces (String.ofList cs))).toList = fillChars values cs := by
  have hjoin (pieces : List UriPiece) :
      (fill values pieces).toList = pieces.flatMap fun piece => (piece.fill values).toList := by
    induction pieces with
    | nil => rfl
    | cons piece rest ih =>
      rw [fill, List.map_cons, String.join_cons, String.toList_append, List.flatMap_cons, ← ih, fill]
  rw [hjoin, uriPieces, String.toList_ofList, String.length_ofList, fillChars]

theorem length_rest_lt {p q : Char → Bool} {cs body rest : List Char} {c d : Char}
    (hbody : cs.dropWhile p = c :: body) (hrest : body.dropWhile q = d :: rest) : rest.length + 1 < cs.length := by
  have h := List.length_dropWhile_le p cs
  have h' := List.length_dropWhile_le q body
  rw [hbody, List.length_cons] at h
  rw [hrest, List.length_cons] at h'
  omega

/-- Every label takes two characters, so that there are always rounds left. -/
theorem piecesFrom_congr {n k : Nat} {cs : List Char} (hn : cs.length < n) (hk : cs.length < k) :
    piecesFrom n cs = piecesFrom k cs := by
  induction n generalizing k cs with
  | zero => omega
  | succ n ih =>
    cases k with
    | zero => omega
    | succ k =>
      rw [piecesFrom, piecesFrom]
      split
      · rfl
      · next hbody =>
        split
        · rfl
        · next hrest =>
          have hlt := length_rest_lt hbody hrest
          rw [ih (k := k) (by omega) (by omega)]

theorem flatMap_literal (cs : List Char) (pieces : List UriPiece) :
    ((if cs.isEmpty then ([] : List UriPiece) else [.literal (String.ofList cs)]) ++ pieces).flatMap
        (fun piece => (piece.fill values).toList) =
      cs ++ pieces.flatMap fun piece => (piece.fill values).toList := by
  cases cs with
  | nil => rfl
  | cons c cs => simp [UriPiece.fill]

/-- The equation of the pieces without their rounds: all up to the first label stays as it is. -/
theorem fillChars_eq (cs : List Char) :
    fillChars values cs =
      match cs.dropWhile (· != '\x7b') with
      | [] => cs
      | _ :: body =>
        match body.dropWhile (· != '\x7d') with
        | [] => cs
        | _ :: rest =>
          cs.takeWhile (· != '\x7b') ++
            (writeLabel (values (String.ofList (Text.trimRight (· == '+') (body.takeWhile (· != '\x7d')))))
              ((body.takeWhile (· != '\x7d')).getLast? == some '+')).toList ++ fillChars values rest := by
  have hall := flatMap_literal values cs []
  rw [List.append_nil, List.flatMap_nil, List.append_nil] at hall
  unfold fillChars
  rw [piecesFrom]
  cases hbody : cs.dropWhile (· != '\x7b') with
  | nil => exact hall
  | cons brace body =>
    cases hrest : body.dropWhile (· != '\x7d') with
    | nil =>
      simp only [hrest]
      exact hall
    | cons close rest =>
      have hlt := length_rest_lt hbody hrest
      simp only [hrest, flatMap_literal, List.flatMap_cons]
      rw [piecesFrom_congr (k := rest.length + 1) (by omega) (by omega), List.append_assoc]
      rfl

/-- A text without an opening brace stays as it is. -/
theorem fillChars_literal {text : List Char} (h : '\x7b' ∉ text) (rest : List Char) :
    fillChars values (text ++ rest) = text ++ fillChars values rest := by
  have hall := Text.forall_bne_of_not_mem h
  rw [fillChars_eq, fillChars_eq, List.dropWhile_append_of_pos hall, List.takeWhile_append_of_pos hall]
  split
  · rfl
  · split
    · rfl
    · rw [List.append_assoc, List.append_assoc, List.append_assoc]

theorem fillChars_label {body : List Char} (h : '\x7d' ∉ body) (rest : List Char) :
    fillChars values ('\x7b' :: (body ++ ['\x7d']) ++ rest) =
      (writeLabel (values (String.ofList (Text.trimRight (· == '+') body))) (body.getLast? == some '+')).toList ++
        fillChars values rest := by
  rw [fillChars_eq, List.cons_append, List.dropWhile_cons_of_neg (by simp), List.takeWhile_cons_of_neg (by simp),
    List.append_assoc, List.singleton_append]
  simp only [Text.dropWhile_append h, Text.takeWhile_append h, List.nil_append]

/-! ### Parts of a path -/

/-- The parts of a path that a segment becomes; a greedy label becomes as many as its value has. -/
def Segment.parts : Segment → List (List Char)
  | literal text => [text]
  | label name => [(Percent.encode (values (String.ofList name))).toList]
  | greedy name =>
    (Text.splitOn '/' (values (String.ofList name)).toList).map fun p => (Percent.encode (String.ofList p)).toList

theorem toList_writeLabel_greedy (value : String) :
    (writeLabel value true).toList = Text.joinWith ['/'] ((Text.splitOn '/' value.toList).map fun p =>
      (Percent.encode (String.ofList p)).toList) := by
  rw [writeLabel, if_pos rfl, String.toList_intercalate, List.map_map, Text.joinWith_eq_intercalate]
  rfl

theorem writeLabel_plain (value : String) : writeLabel value false = Percent.encode value := rfl

/-- **A segment becomes its parts.** -/
theorem fillChars_segment {s : Segment} (h : s.Plain) (rest : List Char) :
    fillChars values ('/' :: s.chars ++ rest) = (s.parts values).flatMap ('/' :: ·) ++ fillChars values rest := by
  have hslash : '\x7b' ∉ ['/'] := by decide
  rw [List.cons_append, ← List.singleton_append, fillChars_literal values hslash]
  cases s with
  | literal text =>
    have hbrace : '\x7b' ∉ text := h.2 _ (by decide)
    rw [Segment.chars, fillChars_literal values hbrace, Segment.parts, List.flatMap_singleton, List.singleton_append,
      List.cons_append]
  | label name =>
    have hbrace : '\x7d' ∉ name := h _ (by decide)
    have hplus : '+' ∉ name := h _ (by decide)
    have hgreedy : (name.getLast? == some '+') = false := by simpa using getLast?_ne_of_not_mem hplus
    rw [Segment.chars, fillChars_label values hbrace, trimRight_of_not_mem hplus, hgreedy, writeLabel_plain,
      Segment.parts, List.flatMap_singleton, List.singleton_append, List.cons_append]
  | greedy name =>
    have hplus : '+' ∉ name := h _ (by decide)
    have hbrace : '\x7d' ∉ name ++ ['+'] := by
      rw [List.mem_append, not_or]
      exact ⟨h _ (by decide), by decide⟩
    obtain ⟨part, parts, hparts⟩ := Text.exists_splitOn '/' (values (String.ofList name)).toList
    rw [Segment.chars, fillChars_label values hbrace, trimRight_concat hplus, List.getLast?_concat, beq_self_eq_true,
      toList_writeLabel_greedy, Segment.parts, hparts, List.map_cons, Text.joinWith_cons, List.flatMap_cons,
      List.singleton_append, List.cons_append, List.cons_append]

theorem fillChars_segments {segments : List Segment} (h : ∀ s ∈ segments, s.Plain) (rest : List Char) :
    fillChars values (segments.flatMap (fun s => '/' :: s.chars) ++ rest) =
      (segments.flatMap (Segment.parts values)).flatMap ('/' :: ·) ++ fillChars values rest := by
  induction segments with
  | nil => rfl
  | cons s more ih =>
    have hmore := ih fun x hx => h x (List.mem_cons_of_mem _ hx)
    rw [List.flatMap_cons, List.append_assoc, fillChars_segment values (h s List.mem_cons_self), hmore,
      List.flatMap_cons, List.flatMap_append, List.append_assoc]

theorem fillChars_query (t : Template) :
    fillChars values t.queryChars = [] ∨ ∃ query, fillChars values t.queryChars = '?' :: query := by
  rcases t.queryChars_cases with hnone | ⟨query, hquery⟩
  · exact .inl (by rw [hnone]; rfl)
  · refine .inr ⟨fillChars values query, ?_⟩
    rw [hquery, ← List.singleton_append, fillChars_literal values (by decide)]
    rfl

variable {values}

theorem clean_parts {s : Segment} (h : s.Plain) {part : List Char} (hpart : part ∈ s.parts values) :
    '/' ∉ part ∧ '?' ∉ part := by
  have hencoded (value : String) : '/' ∉ (Percent.encode value).toList ∧ '?' ∉ (Percent.encode value).toList :=
    ⟨separator_not_mem_encode value (by decide), separator_not_mem_encode value (by decide)⟩
  cases s with
  | literal text =>
    rw [List.mem_singleton.1 hpart]
    exact ⟨h.2 _ (by decide), h.2 _ (by decide)⟩
  | label name =>
    rw [List.mem_singleton.1 hpart]
    exact hencoded _
  | greedy name =>
    obtain ⟨p, -, rfl⟩ := List.mem_map.1 hpart
    exact hencoded _

/-- **Filled in, the pieces of a template give the parts of its segments.** -/
theorem Template.fill_text (t : Template) :
    pathSegments (pathOf (fill values (uriPieces t.text))).toList = t.segments.flatMap (Segment.parts values) := by
  have hclean : ∀ part ∈ t.segments.flatMap (Segment.parts values), '/' ∉ part ∧ '?' ∉ part := by
    intro part hpart
    obtain ⟨s, hs, hpart⟩ := List.mem_flatMap.1 hpart
    exact clean_parts (t.plain s hs) hpart
  have hpath : '?' ∉ (t.segments.flatMap (Segment.parts values)).flatMap ('/' :: ·) := by
    rw [List.mem_flatMap]
    rintro ⟨part, hpart, hc⟩
    rcases List.mem_cons.1 hc with hc | hc
    · exact absurd hc (by decide)
    · exact (hclean part hpart).2 hc
  have hfill : (pathOf (fill values (uriPieces t.text))).toList =
      (t.segments.flatMap (Segment.parts values)).flatMap ('/' :: ·) := by
    rw [pathOf, String.toList_ofList, text, toList_fill, pathChars, fillChars_segments values t.plain]
    exact takeWhile_path hpath (fillChars_query values t)
  obtain ⟨first, rest, hsegments⟩ := t.literal_first
  have hfirst : (Segment.literal first).Plain := t.plain _ (hsegments ▸ List.mem_cons_self)
  rw [hfill]
  rw [hsegments] at hclean ⊢
  exact pathSegments_flatMap hfirst.1 fun part hpart => (hclean part hpart).1

/-! ### Values -/

theorem parts_ne_nil {name : List Char} : (Segment.greedy name).parts values ≠ [] := by
  obtain ⟨part, parts, hparts⟩ := Text.exists_splitOn '/' (values (String.ofList name)).toList
  simp [Segment.parts, hparts]

/-- Segments that are not greedy have a part each. -/
theorem length_parts {segments : List Segment} (h : segments.countP Segment.isGreedy = 0) :
    (segments.flatMap (Segment.parts values)).length = segments.length := by
  induction segments with
  | nil => rfl
  | cons s more ih =>
    rw [List.countP_cons] at h
    cases s with
    | literal text => simpa [Segment.parts] using ih (by omega)
    | label name => simpa [Segment.parts] using ih (by omega)
    | greedy name => simp [Segment.isGreedy] at h

theorem labelValue?_parts (name : List Char) :
    labelValue? (Text.joinWith ['/'] ((Segment.greedy name).parts values)) = some (values (String.ofList name)) := by
  rw [labelValue?, Segment.parts, Percent.decode_joinWith, Text.joinWith_splitOn, String.ofList_toList]

/-- **In the parts that segments became, they find the values of their labels.** A greedy label leaves one part for each
segment behind it, which is what these need. -/
theorem matchSegments_parts {segments : List Segment} (hone : segments.countP Segment.isGreedy ≤ 1)
    (hvalues : ∀ name ∈ segments.filterMap Segment.name?, values name ≠ "") :
    matchSegments segments (segments.flatMap (Segment.parts values)) =
      some ((segments.filterMap Segment.name?).map fun name => (name, values name)) := by
  induction segments with
  | nil => rfl
  | cons s more ih =>
    rw [List.countP_cons] at hone
    have hmore := ih (by omega) fun name hname => hvalues name (by
      rw [List.filterMap_cons]
      split
      · exact hname
      · exact List.mem_cons_of_mem _ hname)
    cases s with
    | literal text =>
      rw [List.filterMap_cons_none rfl]
      simpa [Segment.parts, matchSegments] using hmore
    | label name =>
      have hne : (Percent.encode (values (String.ofList name))).toList.isEmpty = false := by
        have hvalue := hvalues (String.ofList name) (by simp [Segment.name?])
        simpa using Percent.encode_ne_nil hvalue
      simp [Segment.parts, Segment.name?, matchSegments, hne, labelValue?_encode, hmore]
    | greedy name =>
      have hothers : more.countP Segment.isGreedy = 0 := by
        simp only [Segment.isGreedy, if_true] at hone
        omega
      have htake : ((Segment.greedy name).parts values ++ more.flatMap (Segment.parts values)).length - more.length =
          ((Segment.greedy name).parts values).length := by
        rw [List.length_append, length_parts hothers, Nat.add_sub_cancel]
      have hsome : ((Segment.greedy name).parts values).length ≠ 0 := by
        rw [Ne, List.length_eq_zero_iff]
        exact parts_ne_nil
      rw [List.flatMap_cons, matchSegments]
      simp only [htake, if_neg hsome, List.take_left, List.drop_left, labelValue?_parts, hmore, Segment.name?,
        List.filterMap_cons, List.map_cons]
      rfl

/-- **What was filled into a template is found again.** Whatever values the labels are given, the path of the URI matches
the template, and the match gives every label with its value, in the order of the template. A value may hold slashes, percent
signs and question marks, and that of a greedy label may begin and end with slashes. -/
theorem Template.matchPath_fill (t : Template) {values : String → String} (h : ∀ name ∈ t.names, values name ≠ "") :
    matchPath t.text (pathOf (fill values (uriPieces t.text))) = some (t.names.map fun name => (name, values name)) := by
  rw [matchPath, t.segments_text, t.fill_text]
  exact matchSegments_parts t.one_greedy h

end Pieces

/-- A greedy label with segments behind it, and a query. -/
def metaTemplate : Template where
  segments := [.literal "files".toList, .greedy "path".toList, .literal "meta".toList, .label "tag".toList]
  query := some "fixed=1".toList
  plain := by decide
  literal_first := ⟨_, _, rfl⟩
  one_greedy := by decide

/-- Values with slashes at both ends, empty parts, and characters that have a meaning in a URI. -/
def metaValues (name : String) : String := if name = "path" then "/a//b%41/" else "meta/x?"

theorem metaTemplate_found :
    metaTemplate.text = "/files/\x7bpath+\x7d/meta/\x7btag\x7d?fixed=1" ∧
    (∀ name ∈ metaTemplate.names, metaValues name ≠ "") ∧
    matchPath metaTemplate.text (pathOf (fill metaValues (uriPieces metaTemplate.text))) =
      some [("path", "/a//b%41/"), ("tag", "meta/x?")] := by
  have hvalues : ∀ name ∈ metaTemplate.names, metaValues name ≠ "" := by decide
  exact ⟨by decide, hvalues, metaTemplate.matchPath_fill hvalues⟩

end WireShapes.Http
