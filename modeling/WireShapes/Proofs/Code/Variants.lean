import Mathlib.Data.List.Nodup
import WireShapes.Code.Enumeration
import WireShapes.Code.Union
import WireShapes.Proofs.Results
import WireShapes.Proofs.Text.Casing

/-!
The variants that enumerations and unions declare in generated code.

* `declaredVariants`: the names that the code of an enumeration introduces
* `declaredVariants_enumeration`, `declaredVariants_union`: those of the model and, on a client, one more for values
  that the model does not list
* `unknownVariant_apart_iff`: when that one is not among the others
* `unknownValue_clash`: two names of a model of which it is one
-/

namespace WireShapes.Code

/-! ### Names of variants -/

theorem isNameChar_pascal {name : String} {c : Char} (h : c ∈ (pascal name).toList) : Text.isNameChar c = true := by
  have hfallback : ∀ text : String, text.toList.all Text.isNameChar = true → c ∈ text.toList →
      Text.isNameChar c = true := fun text hall hc => List.all_eq_true.1 hall c hc
  unfold pascal at h
  dsimp only at h
  split at h
  · rw [String.toList_append] at h
    rcases List.mem_append.1 h with h | h
    · exact hfallback _ (by decide) h
    · exact Text.isNameChar_camelCase h
  · split at h
    · exact hfallback _ (by decide) h
    · exact Text.isNameChar_camelCase h

theorem pascal_ne_empty (name : String) : pascal name ≠ "" := by
  unfold pascal
  dsimp only
  split
  · simp
  · next h =>
    split
    · simp
    · rintro hempty
      simp [hempty] at h

/-- A name that a line can start with: letters and digits, at least one. -/
structure Nameable (name : String) : Prop where
  each : ∀ c ∈ name.toList, Text.isNameChar c = true
  ne_empty : name ≠ ""

theorem nameable_pascal (name : String) : Nameable (pascal name) := ⟨fun _ => isNameChar_pascal, pascal_ne_empty name⟩

theorem nameable_unknownVariant (names : List String) : Nameable (unknownVariant names) := by
  unfold unknownVariant
  split <;> exact ⟨List.all_eq_true.1 (by decide), by decide⟩

/-! ### Declarations -/

/-- The variant that a line of an enumeration declares: the name that it starts with. Documentation and attributes
declare none. -/
def declaredVariant? : Step → Option String
  | .line text =>
    match text.toList.takeWhile Text.isNameChar with
    | [] => none
    | name => some (String.ofList name)
  | _ => none

/-- What stands in the enumeration of a name. -/
def Step.enumBody? (type : String) : Step → Option (List Step)
  | .block header _ body => if header = "pub enum " ++ type then some body else none
  | _ => none

/-- The variants that code declares for the enumeration of a name. -/
def declaredVariants (type : String) (steps : List Step) : List String :=
  ((steps.findSome? (Step.enumBody? type)).getD []).filterMap declaredVariant?

/-- A name is told from what comes after it on its line, if that does not go on with a letter or a digit. -/
theorem declaredVariant?_line {name : String} (h : Nameable name) {rest : String}
    (hrest : rest.toList.head?.any Text.isNameChar = false) : declaredVariant? (.line (name ++ rest)) = some name := by
  have hstop : rest.toList.takeWhile Text.isNameChar = [] := by
    cases hchars : rest.toList with
    | nil => rfl
    | cons c more =>
      rw [hchars] at hrest
      exact List.takeWhile_cons_of_neg (by simpa using hrest)
  have htake : (name ++ rest).toList.takeWhile Text.isNameChar = name.toList := by
    rw [String.toList_append, List.takeWhile_append_of_pos h.each, hstop, List.append_nil]
  have hne : name.toList ≠ [] := fun hnil => h.ne_empty (String.toList_eq_nil_iff.1 hnil)
  unfold declaredVariant?
  dsimp only
  rw [htake]
  split
  · next hnil => exact absurd hnil hne
  · rw [String.ofList_toList]

theorem declaredVariant?_value {name : String} (h : Nameable name) (type : String) :
    declaredVariant? (.line (name ++ "(" ++ type ++ "),")) = some name := by
  rw [String.append_assoc, String.append_assoc]
  refine declaredVariant?_line h ?_
  rw [String.toList_append]
  rfl

/-- What is listed adds to an enumeration its documentation, and a line that starts with its name. -/
theorem filterMap_declared {α : Type} {text : α → Option String} {line name : α → String}
    {l : List α} (h : ∀ a ∈ l, declaredVariant? (.line (line a)) = some (name a)) :
    (l.flatMap fun a => [Step.docs (text a), .line (line a)]).filterMap declaredVariant? = l.map name := by
  induction l with
  | nil => rfl
  | cons a rest ih =>
    rw [List.flatMap_cons, List.filterMap_append, ih fun b hb => h b (List.mem_cons_of_mem _ hb),
      List.filterMap_cons_none rfl, List.filterMap_cons_some (h a List.mem_cons_self)]
    rfl

theorem declaredVariants_eq (type : String) (lead : List Step) {rest body : List Step}
    (hlead : ∀ step ∈ lead, step.enumBody? type = none) :
    declaredVariants type (lead ++ block ("pub enum " ++ type) body :: rest) = body.filterMap declaredVariant? := by
  have hself : (block ("pub enum " ++ type) body).enumBody? type = some body := if_pos rfl
  rw [declaredVariants, List.findSome?_append, List.findSome?_eq_none_iff.2 hlead, Option.none_or,
    List.findSome?_cons_of_isSome (by simp [hself]), hself]
  rfl

/-- **An enumeration declares the variants of the model, and on a client one more.** -/
theorem declaredVariants_enumeration (s : Scope) {shape : Shape} {variants : List Variant}
    (hkind : shape.kind = .enum variants) : ∃ items, s.enumeration shape = .ok items ∧
      declaredVariants (typeName shape.id) items.top = variants.map (fun v => pascal v.name) ++
        if s.isServer then [] else [unknownVariant (variants.map (·.name))] := by
  unfold Scope.enumeration
  simp only [hkind]
  refine ⟨_, rfl, ?_⟩
  have hline : ∀ v ∈ variants, declaredVariant? (.line (pascal v.name ++ ",")) = some (pascal v.name) :=
    fun v _ => declaredVariant?_line (nameable_pascal v.name) (by decide)
  have hlisted : (variants.flatMap fun v => [Step.docs v.documentation, .line (pascal v.name ++ ",")]).filterMap
      declaredVariant? = variants.map fun v => pascal v.name := filterMap_declared hline
  cases s.isServer with
  | true =>
    refine (declaredVariants_eq _ [.docs _, .line _] (by simp [Step.enumBody?])).trans ?_
    refine List.filterMap_append.trans ?_
    exact congrArg (· ++ []) hlisted
  | false =>
    have hunknown := declaredVariant?_value (nameable_unknownVariant (variants.map (·.name))) stringType
    refine (declaredVariants_eq _ [.docs _, .line _, .line _] (by simp [Step.enumBody?])).trans ?_
    refine List.filterMap_append.trans ?_
    refine congrArg₂ (· ++ ·) hlisted ?_
    exact List.filterMap_cons_some hunknown

theorem map_fst_of_mapM {ε α β : Type} {k : α → Except ε β} {l : List α} {pairs : List (α × β)}
    (h : (l.mapM fun a => do .ok (a, ← k a)) = .ok pairs) : pairs.map Prod.fst = l := by
  have hall := Results.forall₂_of_mapM h
  clear h
  induction hall with
  | nil => rfl
  | cons hone _ ih =>
    obtain ⟨b, -, hone⟩ := Results.bind_eq_ok_iff.1 hone
    cases hone
    rw [List.map_cons, ih]

/-- **A union declares the variants of the model, and on a client one more.** -/
theorem declaredVariants_union {s : Scope} {shape : Shape} {code : List Step} (h : s.union shape = .ok code) :
    ∃ variants, s.unionVariants shape = .ok variants ∧
      declaredVariants (typeName shape.id) code = variants.map (fun m => pascal m.name) ++
        if s.isServer then [] else [unknownVariant (variants.map (·.name))] := by
  unfold Scope.union at h
  obtain ⟨variants, hvariants, h⟩ := Results.bind_eq_ok_iff.1 h
  refine ⟨variants, hvariants, ?_⟩
  dsimp only at h
  split at h
  · cases h
  obtain ⟨typed, htyped, h⟩ := Results.bind_eq_ok_iff.1 h
  have hnames : (typed.map fun x => pascal x.1.name) = variants.map fun m => pascal m.name := by
    rw [← map_fst_of_mapM htyped, List.map_map, Function.comp_def]
  have hline : ∀ x ∈ typed, declaredVariant? (.line (pascal x.1.name ++ "(" ++ x.2 ++ "),")) = some (pascal x.1.name) :=
    fun x _ => declaredVariant?_value (nameable_pascal x.1.name) x.2
  have hlisted : (typed.flatMap fun x => [Step.docs x.1.traits.documentation,
      .line (pascal x.1.name ++ "(" ++ x.2 ++ "),")]).filterMap declaredVariant? =
        variants.map fun m => pascal m.name := (filterMap_declared hline).trans hnames
  obtain rfl := Except.ok.inj h
  cases s.isServer with
  | true =>
    refine (declaredVariants_eq _ [.docs _, .line _] (by simp [Step.enumBody?])).trans ?_
    refine List.filterMap_append.trans ?_
    exact congrArg (· ++ []) hlisted
  | false =>
    have hcomma : ",".toList.head?.any Text.isNameChar = false := by decide
    have hunknown := declaredVariant?_line (nameable_unknownVariant (variants.map (·.name))) hcomma
    refine (declaredVariants_eq _ [.docs _, .line _, .line _] (by simp [Step.enumBody?])).trans ?_
    refine List.filterMap_append.trans ?_
    refine congrArg₂ (· ++ ·) hlisted ?_
    exact List.filterMap_cons_some hunknown

/-! ### The variant for what is not listed -/

/-- Both names that the variant for other values can have are taken. -/
def Taken (names : List String) : Prop := "Unknown" ∈ names.map pascal ∧ "UnknownValue" ∈ names.map pascal

instance (names : List String) : Decidable (Taken names) := inferInstanceAs (Decidable (_ ∧ _))

/-- The variant for other values gives way to a listed `Unknown`, and to nothing else. -/
theorem unknownVariant_mem_iff (names : List String) : unknownVariant names ∈ names.map pascal ↔ Taken names := by
  have hany : (names.any fun name => pascal name = "Unknown") = true ↔ "Unknown" ∈ names.map pascal := by
    simp only [List.any_eq_true, decide_eq_true_eq, List.mem_map]
  unfold unknownVariant Taken
  split
  · next h => exact (and_iff_right (hany.1 h)).symm
  · next h => exact ⟨fun hmem => absurd (hany.2 hmem) h, fun htaken => absurd (hany.2 htaken.1) h⟩

/-- What a client declares for names of a model: a variant for each, and one more, which is none of them unless both
of its names are taken. -/
structure ClientVariants (names declared : List String) : Prop where
  eq : declared = names.map pascal ++ [unknownVariant names]
  nodup_iff : declared.Nodup ↔ (names.map pascal).Nodup ∧ ¬Taken names

theorem ClientVariants.of_eq {names declared : List String}
    (h : declared = names.map pascal ++ [unknownVariant names]) : ClientVariants names declared := by
  refine ⟨h, ?_⟩
  rw [h, List.nodup_append_comm, List.singleton_append, List.nodup_cons, unknownVariant_mem_iff]
  exact and_comm

/-- **The variant for other values is apart from the listed ones unless both of its names are taken**, and so are all
the variants that a client declares, if the listed ones are. -/
theorem unknownVariant_apart_iff {s : Scope} (hclient : s.isServer = false) :
    (∀ names, (∀ name ∈ names, unknownVariant names ≠ pascal name) ↔ ¬Taken names) ∧
    (∀ shape variants, shape.kind = .enum variants → ∃ items, s.enumeration shape = .ok items ∧
      ClientVariants (variants.map (·.name)) (declaredVariants (typeName shape.id) items.top)) ∧
    (∀ shape code, s.union shape = .ok code → ∃ variants, s.unionVariants shape = .ok variants ∧
      ClientVariants (variants.map (·.name)) (declaredVariants (typeName shape.id) code)) := by
  refine ⟨fun names => ?_, fun shape variants hkind => ?_, fun shape code h => ?_⟩
  · rw [← unknownVariant_mem_iff, List.mem_map, not_exists]
    exact forall_congr' fun name => by rw [not_and, ne_comm]
  · obtain ⟨items, hitems, hdeclared⟩ := declaredVariants_enumeration s hkind
    refine ⟨items, hitems, .of_eq ?_⟩
    simp only [hdeclared, hclient, Bool.false_eq_true, if_false, List.map_map, Function.comp_def]
  · obtain ⟨variants, hvariants, hdeclared⟩ := declaredVariants_union h
    refine ⟨variants, hvariants, .of_eq ?_⟩
    simp only [hdeclared, hclient, Bool.false_eq_true, if_false, List.map_map, Function.comp_def]

/-- An enumeration of values that are found in more than one spelling. -/
def states (names : List String) : Shape := ⟨⟨"t#States"⟩, .enum (names.map fun name => ⟨name, name, none⟩), {}⟩

def statesScope : Scope := ⟨⟨[]⟩, .client, [], []⟩

/-- A listed `Unknown`, in any spelling, is told from the variant for other values. -/
theorem listedUnknown_apart : statesScope.isServer = false ∧
    ∃ items, statesScope.enumeration (states ["unknown", "on"]) = .ok items ∧
      declaredVariants "States" items.top = ["Unknown", "On", "UnknownValue"] ∧
      (declaredVariants "States" items.top).Nodup := by
  have hclient : statesScope.isServer = false := rfl
  obtain ⟨-, henumeration, -⟩ := unknownVariant_apart_iff hclient
  obtain ⟨items, hitems, hvariants⟩ := henumeration (states ["unknown", "on"]) _ rfl
  have htype : typeName (states ["unknown", "on"]).id = "States" := by decide +kernel
  have hnames : ((["unknown", "on"].map fun name : String => (⟨name, name, none⟩ : Variant)).map (·.name)) =
      ["unknown", "on"] := rfl
  rw [htype, hnames] at hvariants
  have heq := hvariants.eq
  exact ⟨hclient, items, hitems, heq.trans (by decide +kernel), hvariants.nodup_iff.2 (by decide +kernel)⟩

/-- **The variant for other values can be one of the listed ones**, and is then declared twice. -/
theorem unknownValue_clash :
    unknownVariant ["Unknown", "UnknownValue"] = pascal "UnknownValue" ∧
    (∃ items, statesScope.enumeration (states ["Unknown", "UnknownValue"]) = .ok items ∧
      declaredVariants "States" items.top = ["Unknown", "UnknownValue", "UnknownValue"]) ∧
    ¬∀ names, ∀ name ∈ names, unknownVariant names ≠ pascal name := by
  have hsame : unknownVariant ["Unknown", "UnknownValue"] = pascal "UnknownValue" := by decide +kernel
  refine ⟨hsame, ?_, fun hclaim => hclaim _ "UnknownValue" (by simp) hsame⟩
  obtain ⟨items, hitems, hdeclared⟩ :=
    @declaredVariants_enumeration statesScope (states ["Unknown", "UnknownValue"]) _ rfl
  have htype : typeName (states ["Unknown", "UnknownValue"]).id = "States" := by decide +kernel
  rw [htype] at hdeclared
  exact ⟨items, hitems, hdeclared.trans (by decide +kernel)⟩

end WireShapes.Code
