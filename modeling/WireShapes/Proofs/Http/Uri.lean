import WireShapes.Http.Message
import WireShapes.Http.Query
import WireShapes.Http.Template
import WireShapes.Proofs.Results
import WireShapes.Proofs.Text.Percent
import WireShapes.Proofs.Text.Split

/-!
URIs, written and read.

* `parseQuery_queryText`: the pairs that a query was written from are read from it, whatever their
  texts are
* `path_of_pairs`, `query_of_pairs`: the path and the query of a URI that pairs were put into
* `labelValue?_encode`: the value that a label was written from is read from it
-/

namespace WireShapes.Http

/-! ### Queries -/

def pairText (p : String × String) : List Char :=
  (Percent.encode p.1).toList ++ '=' :: (Percent.encode p.2).toList

def queryText (pairs : List (String × String)) : List Char := Text.joinWith ['&'] (pairs.map pairText)

theorem separator_not_mem_encode (s : String) {d : Char} (hd : d ∈ ['/', '?', '#', '&', '=']) :
    d ∉ (Percent.encode s).toList :=
  fun h => (Percent.written_of_mem h).ne hd rfl

theorem not_mem_pairText (p : String × String) {d : Char} (hd : d ∈ ['/', '?', '#', '&']) :
    d ∉ pairText p := by
  have hd' : d ∈ ['/', '?', '#', '&', '='] := List.mem_append_left ['='] hd
  have heq : d ≠ '=' := by
    rintro rfl
    revert hd
    decide
  simp only [pairText, List.mem_append, List.mem_cons, not_or]
  exact ⟨separator_not_mem_encode _ hd', heq, separator_not_mem_encode _ hd'⟩

theorem parsePair_pairText (p : String × String) : parsePair (pairText p) = .ok p := by
  have hsplit : Text.splitOnce '=' (pairText p) =
      some ((Percent.encode p.1).toList, (Percent.encode p.2).toList) :=
    Text.splitOnce_append (separator_not_mem_encode _ (by decide))
  unfold parsePair
  rw [hsplit]
  simp only [Option.getD_some, String.ofList_toList, Percent.decode_encode]
  rfl

theorem parsePairs_pairText (pairs : List (String × String)) :
    parsePairs (pairs.map pairText) = .ok pairs := by
  induction pairs with
  | nil => rfl
  | cons p rest ih =>
    rw [List.map_cons, parsePairs, parsePair_pairText, Results.ok_bind, ih]
    rfl

/-- **The pairs that a query was written from are read from it.** -/
theorem parseQuery_queryText (pairs : List (String × String)) :
    parseQuery (String.ofList (queryText pairs)) = .ok pairs := by
  unfold parseQuery queryText
  rw [String.toList_ofList]
  cases pairs with
  | nil => rfl
  | cons p rest =>
    rw [Text.splitOn_joinWith (by simp), List.filter_eq_self.2, parsePairs_pairText]
    · intro part hpart
      obtain ⟨q, -, rfl⟩ := List.mem_map.1 hpart
      simp [pairText]
    · intro part hpart
      obtain ⟨q, -, rfl⟩ := List.mem_map.1 hpart
      exact not_mem_pairText q (by decide)

/-! ### URIs with a query -/

theorem toList_insert (w : QueryWriter) (p : String × String) :
    (w.insert p.1 p.2).uri.toList = w.uri.toList ++ w.separator :: pairText p := by
  simp [QueryWriter.insert, pairText]

theorem toList_foldl_insert (pairs : List (String × String)) (w : QueryWriter) (h : w.separator = '&') :
    (pairs.foldl (fun w p => w.insert p.1 p.2) w).uri.toList =
      w.uri.toList ++ (pairs.map pairText).flatMap ('&' :: ·) := by
  induction pairs generalizing w with
  | nil => simp
  | cons p rest ih =>
    rw [List.foldl_cons, ih _ rfl, toList_insert, h]
    simp

theorem toList_uri {path : String} (h : '?' ∉ path.toList) (pairs : List (String × String)) :
    (pairs.foldl (fun w p => w.insert p.1 p.2) (QueryWriter.start path)).uri.toList =
      path.toList ++ (if pairs = [] then [] else '?' :: queryText pairs) := by
  cases pairs with
  | nil => simp [QueryWriter.start]
  | cons p rest =>
    have hsep : (QueryWriter.start path).separator = '?' := by simp [QueryWriter.start, h]
    rw [List.foldl_cons, toList_foldl_insert _ _ rfl, toList_insert, hsep, queryText, List.map_cons,
      Text.joinWith_cons]
    simp [QueryWriter.start]

theorem not_mem_queryText (pairs : List (String × String)) {d : Char} (hd : d ∈ ['/', '?', '#']) :
    d ∉ queryText pairs := by
  have hd' : d ∈ ['/', '?', '#', '&'] := List.mem_append_left ['&'] hd
  have hamp : d ≠ '&' := by
    rintro rfl
    revert hd
    decide
  cases pairs with
  | nil => simp [queryText, Text.joinWith]
  | cons p rest =>
    rw [queryText, List.map_cons, Text.joinWith_cons]
    simp only [List.mem_append, List.mem_flatMap, List.mem_map, not_or, not_exists, not_and]
    refine ⟨not_mem_pairText p hd', ?_⟩
    rintro _ ⟨q, -, rfl⟩ hmem
    rcases List.mem_cons.1 hmem with rfl | hq
    · exact hamp rfl
    · exact not_mem_pairText q hd' hq

section Parts

variable {r : Request} {path : String} {pairs : List (String × String)}

/-- A URI from its path on, if it has neither scheme nor fragment. -/
theorem fromPath_of_pairs (hslash : path.toList.head? = some '/') (hquery : '?' ∉ path.toList)
    (hfragment : '#' ∉ path.toList)
    (h : r.uri = (pairs.foldl (fun w p => w.insert p.1 p.2) (QueryWriter.start path)).uri) :
    fromPath r.uri = path.toList ++ (if pairs = [] then [] else '?' :: queryText pairs) := by
  have hchars := toList_uri hquery pairs
  have hclean : '#' ∉ path.toList ++ (if pairs = [] then [] else '?' :: queryText pairs) := by
    rw [List.mem_append, not_or]
    refine ⟨hfragment, ?_⟩
    split
    · simp
    · simp only [List.mem_cons, not_or]
      exact ⟨by decide, not_mem_queryText pairs (by decide)⟩
  have hhead : (path.toList ++ (if pairs = [] then [] else '?' :: queryText pairs)).head? = some '/' := by
    rw [List.head?_append, hslash]
    rfl
  unfold fromPath
  rw [h, hchars, Text.takeWhile_of_not_mem hclean]
  simp only [hhead, if_true]

theorem path_of_pairs (hslash : path.toList.head? = some '/') (hquery : '?' ∉ path.toList)
    (hfragment : '#' ∉ path.toList)
    (h : r.uri = (pairs.foldl (fun w p => w.insert p.1 p.2) (QueryWriter.start path)).uri) :
    r.path = path := by
  have hne : path.toList.isEmpty = false := by
    cases hp : path.toList with
    | nil => simp [hp] at hslash
    | cons c cs => rfl
  have htake : (path.toList ++ (if pairs = [] then [] else '?' :: queryText pairs)).takeWhile (· != '?') =
      path.toList := by
    split
    · rw [List.append_nil, Text.takeWhile_of_not_mem hquery]
    · exact Text.takeWhile_append hquery
  unfold Request.path
  rw [fromPath_of_pairs hslash hquery hfragment h, htake]
  simp [hne]

theorem query_of_pairs (hslash : path.toList.head? = some '/') (hquery : '?' ∉ path.toList)
    (hfragment : '#' ∉ path.toList)
    (h : r.uri = (pairs.foldl (fun w p => w.insert p.1 p.2) (QueryWriter.start path)).uri) :
    parseQuery r.query = .ok pairs := by
  have hdrop : ((path.toList ++ (if pairs = [] then [] else '?' :: queryText pairs)).dropWhile
      (· != '?')).drop 1 = queryText pairs := by
    split
    · next hnil =>
      rw [List.append_nil, Text.dropWhile_of_not_mem hquery, hnil]
      rfl
    · rw [Text.dropWhile_append hquery]
      rfl
  unfold Request.query
  rw [fromPath_of_pairs hslash hquery hfragment h, hdrop, parseQuery_queryText]

end Parts

/-! ### Labels -/

/-- **The value that a label was written from is read from it.** -/
theorem labelValue?_encode (s : String) : labelValue? (Percent.encode s).toList = some s := by
  rw [labelValue?, String.ofList_toList, Percent.decode_encode]

end WireShapes.Http
