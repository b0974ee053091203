import WireShapes.Proofs.Http.Uri

/-!
Queries that a URI grows by.

* `queryOf`: what a URI has after its first question mark
* `toList_uri_of_mem`, `queryOf_uri_of_mem`, `queryOf_uri_of_not_mem`: pairs come after the query that the URI has
  already, or are its query
* `parsePairs_append`: parts are read one after the other
* `parseQuery_queryOf_insert`: hence the pairs that were put into a URI are read behind those that it had
-/

namespace WireShapes.Http

/-- What stands after the first question mark of a URI. -/
def queryOf (uri : String) : String := String.ofList ((uri.toList.dropWhile (· != '?')).drop 1)

/-- A URI after pairs have been put into it. -/
def QueryWriter.insertAll (w : QueryWriter) (pairs : List (String × String)) : QueryWriter :=
  pairs.foldl (fun w p => w.insert p.1 p.2) w

variable {base : String} {pairs : List (String × String)}

/-! ### Texts -/

/-- In a URI that has a query, every pair comes after an ampersand. -/
theorem toList_uri_of_mem (h : '?' ∈ base.toList) (pairs : List (String × String)) :
    ((QueryWriter.start base).insertAll pairs).uri.toList =
      base.toList ++ (pairs.map pairText).flatMap ('&' :: ·) := by
  have hsep : (QueryWriter.start base).separator = '&' := by simp [QueryWriter.start, h]
  exact toList_foldl_insert pairs (QueryWriter.start base) hsep

/-- What comes after a URI that has a query belongs to the query. -/
theorem drop_query_append {cs : List Char} (h : '?' ∈ cs) (rest : List Char) :
    ((cs ++ rest).dropWhile (· != '?')).drop 1 = (cs.dropWhile (· != '?')).drop 1 ++ rest := by
  obtain ⟨before, after, rfl, hbefore⟩ := List.eq_append_cons_of_mem h
  rw [List.append_assoc, List.cons_append, Text.dropWhile_append hbefore, Text.dropWhile_append hbefore]
  rfl

theorem queryOf_uri_of_mem (h : '?' ∈ base.toList) (pairs : List (String × String)) :
    (queryOf ((QueryWriter.start base).insertAll pairs).uri).toList =
      (queryOf base).toList ++ (pairs.map pairText).flatMap ('&' :: ·) := by
  unfold queryOf
  rw [toList_uri_of_mem h, drop_query_append h, String.toList_ofList, String.toList_ofList]

theorem queryOf_of_not_mem (h : '?' ∉ base.toList) : queryOf base = "" := by
  unfold queryOf
  rw [Text.dropWhile_of_not_mem h]
  rfl

/-- Without a query before, the pairs are all of it. -/
theorem queryOf_uri_of_not_mem (h : '?' ∉ base.toList) (pairs : List (String × String)) :
    queryOf ((QueryWriter.start base).insertAll pairs).uri = String.ofList (queryText pairs) := by
  have huri : ((QueryWriter.start base).insertAll pairs).uri.toList = _ := toList_uri h pairs
  unfold queryOf
  rw [huri]
  split
  · next hnil =>
    rw [List.append_nil, Text.dropWhile_of_not_mem h, hnil]
    rfl
  · rw [Text.dropWhile_append h]
    rfl

/-! ### Readings -/

theorem parsePairs_append (parts more : List (List Char)) :
    parsePairs (parts ++ more) = (do
      let first ← parsePairs parts
      let rest ← parsePairs more
      .ok (first ++ rest)) := by
  induction parts with
  | nil =>
    rw [List.nil_append]
    cases parsePairs more <;> rfl
  | cons part rest ih =>
    rw [List.cons_append, parsePairs, parsePairs, ih]
    cases parsePair part with
    | error e => rfl
    | ok pair =>
      cases parsePairs rest with
      | error e => rfl
      | ok first => cases parsePairs more <;> rfl

/-- The parts of a query with pairs behind it are its parts, and then one for each pair. -/
theorem splitOn_append_pairs (cs : List Char) (pairs : List (String × String)) :
    Text.splitOn '&' (cs ++ (pairs.map pairText).flatMap ('&' :: ·)) =
      Text.splitOn '&' cs ++ pairs.map pairText := by
  induction pairs generalizing cs with
  | nil => simp
  | cons p rest ih =>
    have hpair : '&' ∉ pairText p := not_mem_pairText p (by decide)
    rw [List.map_cons, List.flatMap_cons, List.cons_append, Text.splitOn_append_cons, ih,
      Text.splitOn_of_not_mem hpair, List.singleton_append]

theorem filter_pairText (pairs : List (String × String)) :
    (pairs.map pairText).filter (fun part => !part.isEmpty) = pairs.map pairText := by
  refine List.filter_eq_self.2 fun part hpart => ?_
  obtain ⟨p, -, rfl⟩ := List.mem_map.1 hpart
  simp [pairText]

/-- **The pairs that were put into a URI are read in their order, behind those of the query that it had.** None of
them is lost, joined with another or cut, also if it is empty or comes twice. A query that cannot be read
makes the whole unreadable, for the same reason. -/
theorem parseQuery_queryOf_insert (base : String) (pairs : List (String × String)) :
    parseQuery (queryOf ((QueryWriter.start base).insertAll pairs).uri) =
      (parseQuery (queryOf base)).map (· ++ pairs) := by
  by_cases h : '?' ∈ base.toList
  · unfold parseQuery
    rw [queryOf_uri_of_mem h, splitOn_append_pairs, List.filter_append, filter_pairText, parsePairs_append,
      parsePairs_pairText]
    cases parsePairs ((Text.splitOn '&' (queryOf base).toList).filter fun part => !part.isEmpty) <;> rfl
  · rw [queryOf_uri_of_not_mem h, parseQuery_queryText, queryOf_of_not_mem h]
    rfl

end WireShapes.Http
