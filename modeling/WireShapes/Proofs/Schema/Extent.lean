import WireShapes.Proofs.Json.Extent
import WireShapes.Schema.Reading

/-!
A reader of a shape takes exactly one value, whatever the tokens are.

* `ExtentBelow S F rounds`: how far every reader reads in that many rounds
* `extentBelow`: and so it is for all numbers of rounds, by one lemma for each reader
* `skips_readAt`: what is read of a shape that is no stream is one value
-/

namespace WireShapes.Schema

open Json Reader

variable {ν : Type} {S : Schema ν} {F : Flavour}

theorem stays_finish (n : ν) (d : Draft) : Stays (S.finish F n d) := by
  unfold finish
  split
  · split
    · exact stays_pure _
    · exact stays_failWith _
  · exact stays_pure _

theorem stays_passAbsent (item : Option Draft) : Stays (passAbsent F item) := by
  unfold passAbsent
  split
  · exact stays_failWith _
  · exact stays_failWith _
  · exact stays_pure _

theorem stays_noVariant : Stays (noVariant F) := by
  unfold noVariant
  split
  · exact stays_pure _
  · exact stays_failWith _

theorem skips_readInteger : Skips readInteger := by
  refine skips_number.bind fun r => ?_
  split
  · exact stays_pure _
  · split
    · exact stays_pure _
    · exact stays_failWith _

theorem readOpening_eq_ok {start : Lexeme} {what : Wanted} {ts more : Tokens} {opens : Bool}
    (h : readOpening start what ts = (.ok opens, more)) :
    ∃ t, ts = .ok t :: more ∧ (opens = true ∧ t.lexeme = start ∨ opens = false ∧ t.lexeme = .null) := by
  obtain ⟨t, inner, ht, hread⟩ := bind_eq_ok h
  obtain rfl := token_eq_ok ht
  split at hread
  · next hx =>
    cases hread
    exact ⟨t, rfl, .inl ⟨rfl, hx⟩⟩
  · split at hread
    · next hx =>
      cases hread
      exact ⟨t, rfl, .inr ⟨rfl, hx⟩⟩
    · cases hread

theorem skips_readOpening {α : Type} {start : Lexeme} (hstart : start = .startArray ∨ start = .startObject)
    (what : Wanted) {f : Bool → Reader α} (hopen : Closes (f true)) (habsent : Stays (f false)) :
    Skips (readOpening start what >>= f) := by
  intro ts a rest h
  obtain ⟨opens, more, hopening, ha⟩ := bind_eq_ok h
  obtain ⟨t, rfl, ⟨rfl, hx⟩ | ⟨rfl, hx⟩⟩ := readOpening_eq_ok hopening
  · exact hopen.skipsAfter (hx ▸ hstart) more a rest ha
  · exact habsent.skipsAfter .null (by rw [hx]; rfl) more a rest ha

/-! ### One round more -/

/-- How far every reader reads in that many rounds. -/
structure ExtentBelow (S : Schema ν) (F : Flavour) (rounds : Nat) : Prop where
  value : ∀ n, S.shape n ≠ .stream → Skips (S.readAt F rounds n)
  passing : ∀ n, Passes (S.readAt F rounds n)
  items : ∀ item, Closes (S.readItems F rounds item)
  members : ∀ ms fields, Closes (S.readMembers F rounds ms fields)
  variant : ∀ ms found, Closes (S.readVariant F rounds ms found)

theorem skips_readAt_succ {rounds : Nat} (h : ExtentBelow S F rounds) {n : ν} (hn : S.shape n ≠ .stream) :
    Skips (S.readAt F (rounds + 1) n) := by
  rw [readAt]
  split
  · exact skips_string.bind fun _ => stays_pure _
  · exact skips_string.bind fun _ => stays_pure _
  · exact skips_readInteger.bind fun _ => stays_pure _
  · exact skips_bool.bind fun _ => stays_pure _
  · exact skips_blob.bind fun _ => stays_pure _
  · next shape => exact absurd shape hn
  · next item shape =>
    exact skips_readOpening (.inl rfl) _ ((h.items item).bind fun _ => stays_pure _) (stays_pure _)
  · exact skips_readOpening (.inr rfl) _ ((h.members _ _).bind fun _ =>
      (stays_finish n _).bind fun _ => stays_pure _) (stays_pure _)
  · refine skips_readOpening (.inr rfl) _ ((h.variant _ _).bind fun found => ?_) (stays_pure _)
    split
    · exact (stays_finish n _).bind fun _ => stays_pure _
    · exact stays_noVariant.bind fun _ => stays_pure _

theorem passes_readAt_succ {rounds : Nat} (h : ExtentBelow S F rounds) (n : ν) :
    Passes (S.readAt F (rounds + 1) n) := by
  by_cases hn : S.shape n = .stream
  · rw [readAt, hn]
    exact (stays_pure _).passes
  · exact (skips_readAt_succ h hn).passes

theorem closes_readItems_succ {rounds : Nat} (h : ExtentBelow S F rounds) (item : ν) :
    Closes (S.readItems F (rounds + 1) item) := by
  rw [readItems]
  refine closes_peek fun x => ?_
  split
  · exact closesAhead_next fun t ht => (stays_pure _).closesAfter (by rw [ht]; rfl)
  · refine Closes.closesAhead ?_ _
    exact (h.passing item).closes fun d => (stays_passAbsent d).passes.closes fun _ =>
      (h.items item).bind fun _ => stays_pure _

theorem closes_readMembers_succ {rounds : Nat} (h : ExtentBelow S F rounds) (ms : List (Member ν))
    (fields : List (String × Draft)) : Closes (S.readMembers F (rounds + 1) ms fields) := by
  rw [readMembers]
  refine closes_token fun t => ?_
  split
  · next hx => exact (stays_pure _).closesAfter (by rw [hx]; rfl)
  · next raw hx =>
    refine Closes.closesAfter ?_ (by rw [hx]; rfl)
    refine (stays_unescaped raw).passes.closes fun key => ?_
    split
    · next m _ => exact (h.passing m.target).closes fun d => h.members ms _
    · exact skips_skipValue.passes.closes fun _ => h.members ms fields
  · exact closesAfter_failWith _ _

theorem closes_variantValue {rounds : Nat} (h : ExtentBelow S F rounds) {ms : List (Member ν)} (n : ν)
    {key : String} {f : Option Draft → Reader (Option (String × Draft))}
    (hsome : ∀ d, f (some d) = S.readVariant F rounds ms (some (key, d)))
    (hnone : f none = failContent (.nullVariant key)) : Closes (S.readAt F rounds n >>= f) := by
  refine (h.passing n).closes fun o => ?_
  cases o with
  | none =>
    rw [hnone]
    exact closes_failWith _
  | some d =>
    rw [hsome]
    exact h.variant ms _

theorem closes_readVariant_succ {rounds : Nat} (h : ExtentBelow S F rounds) (ms : List (Member ν))
    (found : Option (String × Draft)) : Closes (S.readVariant F (rounds + 1) ms found) := by
  rw [readVariant]
  refine closes_token fun t => ?_
  split
  · next hx => exact (stays_pure _).closesAfter (by rw [hx]; rfl)
  · next raw hx =>
    refine Closes.closesAfter (closes_peek fun x => ?_) (by rw [hx]; rfl)
    split
    · exact closesAhead_next fun t ht => (h.variant ms found).closesAfter (by rw [ht]; rfl)
    · refine Closes.closesAhead ?_ _
      refine (stays_unescaped raw).passes.closes fun key => ?_
      split
      · next m _ =>
        split
        · exact (stays_failWith _).passes.closes fun _ =>
            closes_variantValue h m.target (fun _ => rfl) rfl
        · exact closes_variantValue h m.target (fun _ => rfl) rfl
      · exact skips_skipValue.passes.closes fun _ => h.variant ms found
  · exact closesAfter_failWith _ _

/-! ### All rounds -/

theorem extentBelow (rounds : Nat) : ExtentBelow S F rounds := by
  induction rounds with
  | zero =>
    refine ⟨fun n _ => ?_, fun n => ?_, fun item => ?_, fun ms fields => ?_, fun ms found => ?_⟩
    · rw [readAt]; exact fun _ _ _ h => by cases h
    · rw [readAt]; exact (stays_failWith _).passes
    · rw [readItems]; exact closes_failWith _
    · rw [readMembers]; exact closes_failWith _
    · rw [readVariant]; exact closes_failWith _
  | succ rounds ih =>
    exact ⟨fun n hn => skips_readAt_succ ih hn, passes_readAt_succ ih, closes_readItems_succ ih,
      closes_readMembers_succ ih, closes_readVariant_succ ih⟩

/-- **What is read of a shape is one value**: the tokens that would be skipped in its place. -/
theorem skips_readAt (rounds : Nat) {n : ν} (hn : S.shape n ≠ .stream) : Skips (S.readAt F rounds n) :=
  (extentBelow rounds).value n hn

/-- From the lexemes of a value nothing more than these is read. -/
theorem rest_of_readAt {rounds : Nat} {n : ν} (hn : S.shape n ≠ .stream) {t : Tree} {toks : List Token}
    (htoks : toks.map Token.lexeme = t.lexemes) {rest more : Tokens} {o : Option Draft}
    (h : S.readAt F rounds n (toks.map .ok ++ rest) = (.ok o, more)) : more = rest := by
  have hskip := skips_readAt rounds hn _ _ _ h
  rw [t.reads_skipValue toks rest htoks] at hskip
  exact (Prod.mk.inj hskip).2.symm

end WireShapes.Schema
