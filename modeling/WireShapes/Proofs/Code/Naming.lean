import WireShapes.Proofs.Code.Bodies
import WireShapes.Proofs.Code.Closure
import WireShapes.Proofs.Text.Casing

/-!
Names of the functions for values.

* `functionName?`: the name of a function, by its shape and its form
* `SameName`, `functionName?_inj`: which functions have the same name
* `Register`: while functions are being written, all that are known have their names
* `names_apart_iff`: answers are names of what is requested, and two of them are equal for the same name alone
* `spaces_clash`: shapes of two namespaces for which that is so
-/

namespace WireShapes.Code

open Generator

/-! ### Names -/

/-- What the names of the functions of a group start with; those for messages have names of their own. -/
def FunctionGroup.lead? : FunctionGroup → Option String
  | writers => some "ser_"
  | readers => some "de_"
  | messages => none

/-- The words that a form adds to the name of a function. -/
def FunctionForm.words : FunctionForm → List String
  | bodyWriter => ["body"]
  | bodyReader => ["body"]
  | textReader => ["document"]
  | _ => []

/-- The name of a function for values. -/
def functionName? (key : FunctionKey) : Option String :=
  key.2.group.lead?.map fun lead => lead ++ stem key.1 ++ String.join (key.2.words.map fun word => "_" ++ word)

/-- The parts of the name of a function between its underscores, without the one that it starts with. -/
def functionParts (key : FunctionKey) : List (List Char) :=
  Text.nameParts key.1.name ++ key.2.words.map String.toList

/-- The functions are of the same side, and have the same words in small letters, each the words of its shape and
those of its form. -/
structure SameName (a b : FunctionKey) : Prop where
  group : a.2.group = b.2.group
  parts : functionParts a = functionParts b

instance (a b : FunctionKey) : Decidable (SameName a b) :=
  decidable_of_iff (a.2.group = b.2.group ∧ functionParts a = functionParts b)
    ⟨fun h => ⟨h.1, h.2⟩, fun h => ⟨h.group, h.parts⟩⟩

/-- What functions start with tells their groups apart. -/
theorem lead_append_inj {g g' : FunctionGroup} {lead lead' : String} (h : g.lead? = some lead)
    (h' : g'.lead? = some lead') {tail tail' : String} : lead ++ tail = lead' ++ tail' ↔ g = g' ∧ tail = tail' := by
  rw [← String.toList_inj, ← String.toList_inj, String.toList_append, String.toList_append]
  cases g <;> cases g' <;> cases h <;> cases h' <;> simp

/-- The parts of a name are found again between its underscores. -/
theorem splitOn_functionName (key : FunctionKey) :
    Text.splitOn '_' (stem key.1 ++ String.join (key.2.words.map fun word => "_" ++ word)).toList =
      functionParts key := by
  have hwords : (String.join (key.2.words.map fun word => "_" ++ word)).toList =
      (key.2.words.map String.toList).flatMap fun part => '_' :: part := by
    cases key.2 <;> rfl
  have hplain : ∀ part ∈ key.2.words.map String.toList, '_' ∉ part := by
    cases key.2 <;> decide
  rw [String.toList_append, hwords]
  exact Text.splitOn_named key.1.name hplain

/-- **Functions have the same name if they are of the same side and have the same words.** -/
theorem functionName?_inj {a b : FunctionKey} {name name' : String} (ha : functionName? a = some name)
    (hb : functionName? b = some name') : name = name' ↔ SameName a b := by
  obtain ⟨lead, hlead, rfl⟩ := Option.map_eq_some_iff.1 ha
  obtain ⟨lead', hlead', rfl⟩ := Option.map_eq_some_iff.1 hb
  rw [String.append_assoc, String.append_assoc, lead_append_inj hlead hlead', ← String.toList_inj]
  constructor
  · rintro ⟨hgroup, htail⟩
    exact ⟨hgroup, by rw [← splitOn_functionName, htail, splitOn_functionName]⟩
  · intro h
    refine ⟨h.group, ?_⟩
    rw [← @Text.joinWith_splitOn '_' (stem a.1 ++ _).toList, splitOn_functionName, h.parts,
      ← splitOn_functionName, Text.joinWith_splitOn]

/-- Functions of one shape have names of their own. -/
theorem sameName_iff_of_shape {a b : FunctionKey} (hshape : a.1 = b.1) : SameName a b ↔ a = b := by
  obtain ⟨id, form⟩ := a
  obtain ⟨id', form'⟩ := b
  obtain rfl : id = id' := hshape
  constructor
  · rintro ⟨hgroup, hparts⟩
    have hwords : form.words.map String.toList = form'.words.map String.toList := List.append_cancel_left hparts
    have hform : form = form' := by
      cases form <;> cases form' <;> simp_all [FunctionForm.group, FunctionForm.words]
    rw [hform]
  · intro heq
    rw [heq]
    exact ⟨rfl, rfl⟩

/-! ### The register -/

/-- What is known is what is pending and what is written, each once, and has its name. -/
structure Register (pending : List (FunctionKey × String)) (f : Functions) : Prop where
  once : (f.known.map Prod.fst).Nodup
  balance : (pending ++ f.written.map Function.entry).Perm f.known
  named : ∀ e ∈ f.known, functionName? e.1 = some e.2

theorem register_nil : Register [] {} := ⟨List.nodup_nil, List.Perm.refl _, fun e h => by simp at h⟩

/-- No function is forgotten, and the register is kept. -/
structure Registers (f f' : Functions) : Prop where
  remembers : Remembers f f'
  register : ∀ pending, Register pending f → Register pending f'

theorem course_registers : Course Registers where
  refl f := ⟨course_remembers.refl f, fun _ h => h⟩
  trans h k := ⟨course_remembers.trans h.remembers k.remembers, fun _ hr => k.register _ (h.register _ hr)⟩
  named f n := ⟨course_remembers.named f n, fun _ h => ⟨h.once, h.balance, h.named⟩⟩

section Requests

variable {id : ShapeId} {form : FunctionForm} {name result : String} {write : Generator (List Step)}
  {f f' : Functions} {pending : List (FunctionKey × String)}

/-- While a function is being written it is pending. -/
theorem Register.begin {key : FunctionKey} (h : Register pending f) (hnew : key ∉ f.known.map Prod.fst)
    (hname : functionName? key = some name) :
    Register ((key, name) :: pending) { f with known := f.known ++ [(key, name)] } where
  once := nodup_fst_concat h.once hnew name
  balance := balance_begin h.balance (key, name)
  named := by
    intro e he
    rcases List.mem_append.1 he with he | he
    · exact h.named e he
    · rw [List.mem_singleton.1 he]
      exact hname

/-- When it is written, it is no longer. -/
theorem Register.finish {g : Function} (h : Register (g.entry :: pending) f) :
    Register pending { f with written := f.written ++ [g] } where
  once := h.once
  balance := balance_finish h.balance
  named := h.named

/-- **A request keeps the register, if what is written does.** -/
theorem registers_request (hname : functionName? (id, form) = some name) (hwrite : Moves Registers write) :
    Moves Registers (request id form name write) := by
  intro f result f' h
  rcases runs_request h with ⟨-, rfl⟩ | ⟨hnew, rfl, code, middle, hrun, rfl⟩
  · exact course_registers.refl _
  · have hkey := Entries.get?_eq_none_iff.1 hnew
    rw [Entries.insert_of_not_mem hkey] at hrun
    have hmiddle := hwrite _ _ _ hrun
    refine ⟨(List.prefix_append _ _).trans hmiddle.remembers, fun pending hr => ?_⟩
    exact Register.finish (g := ⟨id, form, result, code⟩) (hmiddle.register _ (hr.begin hkey hname))

theorem answer_request (hname : functionName? (id, form) = some name) (hwrite : Moves Registers write)
    (hr : Register pending f) (h : Runs (request id form name write) f result f') :
    functionName? (id, form) = some result ∧ Known f' (id, form) := by
  rcases runs_request h with ⟨hknown, rfl⟩ | ⟨hnew, rfl, code, middle, hrun, rfl⟩
  · have hmem := Entries.mem_of_get? hknown
    have hnamed := hr.named _ hmem
    exact ⟨hnamed, List.mem_map.2 ⟨_, hmem, rfl⟩⟩
  · rw [Entries.insert_of_not_mem (Entries.get?_eq_none_iff.1 hnew)] at hrun
    have hmem := (hwrite _ _ _ hrun).remembers.subset (List.mem_append_right _ List.mem_cons_self)
    exact ⟨hname, List.mem_map.2 ⟨_, hmem, rfl⟩⟩

end Requests

/-! ### Calls -/

/-- A request for a function for values: one for a shape, or one for members that travel in a body. -/
inductive FunctionCall
  | value (request : Request)
  | body (request : BodyRequest)

namespace FunctionCall

def shape : FunctionCall → Shape
  | value r => r.shape
  | body (.writes shape _) => shape
  | body (.reads shape _) => shape

def key : FunctionCall → FunctionKey
  | value r => r.key
  | body r => r.key

def run (s : Scope) : FunctionCall → Generator String
  | value r => r.run s
  | body r => r.run s

end FunctionCall

variable {s : Scope}

theorem registers_within {T : Recipe} (hT : T.Sound) {nameOf : ShapeId → String} {fault : Reason}
    (hname : ∀ id, functionName? (id, T.form) = some (nameOf id)) (depth : Nat) (shape : Shape) :
    Moves Registers (T.within nameOf fault s depth shape) :=
  Recipe.moves_within hT course_registers (fun id _ hwrite => registers_request (hname id) hwrite) fault depth shape

theorem functionName?_eq (key : FunctionKey) {lead : String} (tail : String) (hlead : key.2.group.lead? = some lead)
    (htail : String.join (key.2.words.map fun word => "_" ++ word) = tail) :
    functionName? key = some (lead ++ stem key.1 ++ tail) := by
  rw [functionName?, hlead, Option.map_some, htail]

theorem functionName?_writer (id : ShapeId) : functionName? (id, .writer) = some ("ser_" ++ stem id) := by
  rw [functionName?_eq (id, .writer) "" rfl rfl, String.append_empty]

theorem functionName?_reader (id : ShapeId) : functionName? (id, .reader) = some ("de_" ++ stem id) := by
  rw [functionName?_eq (id, .reader) "" rfl rfl, String.append_empty]

theorem registers_writerFunction (s : Scope) (shape : Shape) : Moves Registers (writerFunction s shape) := by
  rw [writerFunction_eq]
  exact registers_within Recipe.sound_writers functionName?_writer _ shape

theorem registers_readerFunction (s : Scope) (shape : Shape) : Moves Registers (readerFunction s shape) := by
  rw [readerFunction_eq]
  exact registers_within Recipe.sound_readers functionName?_reader _ shape

/-- **Every call asks for the function of its key by the name of that function**, and what is written for it keeps
the register. -/
theorem FunctionCall.run_eq (s : Scope) (c : FunctionCall) : ∃ name write,
    c.run s = request c.key.1 c.key.2 name write ∧ functionName? c.key = some name ∧ Moves Registers write := by
  have hR := course_registers
  rcases c with (shape | shape | shape) | (⟨shape, members⟩ | ⟨shape, members⟩)
  · refine ⟨_, _, rfl, functionName?_writer shape.id, ?_⟩
    rw [writerWithin_eq]
    exact moves_writerCode hR (fun b _ => registers_within Recipe.sound_writers functionName?_writer _ b) _ shape
  · refine ⟨_, _, rfl, functionName?_reader shape.id, ?_⟩
    rw [readerWithin_eq]
    exact moves_readerCode hR (fun b _ => registers_within Recipe.sound_readers functionName?_reader _ b) _ shape
  · refine ⟨_, _, rfl, functionName?_eq (shape.id, .textReader) "_document" rfl rfl, ?_⟩
    exact (registers_readerFunction s shape).bind hR fun _ _ => (moves_lift hR _).bind hR fun _ _ => moves_pure hR _
  · refine ⟨_, _, rfl, functionName?_eq (shape.id, .bodyWriter) "_body" rfl rfl, ?_⟩
    exact moves_structureWriter hR (fun b _ => registers_writerFunction s b) _ shape members
  · refine ⟨_, _, rfl, functionName?_eq (shape.id, .bodyReader) "_body" rfl rfl, ?_⟩
    have hcalls : Calls s Registers (readerFunction s) := fun b _ => registers_readerFunction s b
    exact (moves_memberLoop hR hcalls members).bind hR fun _ _ => moves_pure hR _

/-- **A call keeps the register, and is answered with the name of its function, which is known then.** -/
theorem FunctionCall.registers (s : Scope) (c : FunctionCall) : Moves Registers (c.run s) := by
  obtain ⟨name, write, hrun, hname, hwrite⟩ := c.run_eq s
  rw [hrun]
  exact registers_request hname hwrite

theorem FunctionCall.answer {c : FunctionCall} {f f' : Functions} {result : String} (hr : Register [] f)
    (h : Runs (c.run s) f result f') : functionName? c.key = some result ∧ Known f' c.key := by
  obtain ⟨name, write, hrun, hname, hwrite⟩ := c.run_eq s
  rw [hrun] at h
  exact answer_request hname hwrite hr h

variable {calls : List FunctionCall} {names : List String} {f : Functions}

theorem Register.keys (h : Register [] f) : (f.written.map Function.key).Perm (f.known.map Prod.fst) :=
  keys_of_balance h.balance

theorem Register.name_of_written (h : Register [] f) {g : Function} (hg : g ∈ f.written) :
    functionName? g.key = some g.name :=
  h.named g.entry (h.balance.subset (List.mem_map_of_mem hg))

/-- **A sequence of calls** keeps the register, and every answer is the name of a function that is written. -/
theorem runs_calls (h : Runs (calls.mapM (FunctionCall.run s)) {} names f) :
    Register [] f ∧
    List.Forall₂ (fun c name => functionName? c.key = some name ∧ c.key ∈ f.written.map Function.key) calls names := by
  have hmoves : ∀ c ∈ calls, Moves Registers (c.run s) := fun c _ => c.registers s
  have hregister : Register [] f := (Moves.mapM course_registers hmoves _ _ _ h).register [] register_nil
  refine ⟨hregister, (runs_mapM course_registers hmoves h).imp fun c name => ?_⟩
  rintro ⟨before, after, hbefore, hrun, hafter⟩
  obtain ⟨hname, hknown⟩ := FunctionCall.answer (hbefore.register [] register_nil) hrun
  exact ⟨hname, hregister.keys.symm.subset (hknown.mono hafter.remembers)⟩

/-- **Names of functions are apart just if no two functions are of the same side and have the same words.** Every
answer is the name of the function that is asked for, which is written once; two answers are equal for one function
and for two that have the same name, which are never two of one shape. -/
theorem names_apart_iff (h : Runs (calls.mapM (FunctionCall.run s)) {} names f) :
    List.Forall₂ (fun c name => functionName? c.key = some name ∧ c.key ∈ f.written.map Function.key) calls names ∧
    (∀ g ∈ f.written, functionName? g.key = some g.name) ∧
    (f.written.map Function.key).Nodup ∧
    (∀ c name c' name', (c, name) ∈ calls.zip names → (c', name') ∈ calls.zip names →
      (name = name' ↔ SameName c.key c'.key) ∧ (c.key.1 = c'.key.1 → (name = name' ↔ c.key = c'.key))) ∧
    ((f.written.map Function.name).Nodup ↔ (f.written.map Function.key).Pairwise fun a b => ¬SameName a b) := by
  obtain ⟨hregister, hanswers⟩ := runs_calls h
  refine ⟨hanswers, fun g => hregister.name_of_written, hregister.keys.nodup_iff.2 hregister.once, ?_, ?_⟩
  · intro c name c' name' hc hc'
    have hsame := functionName?_inj (List.forall₂_zip hanswers hc).1 (List.forall₂_zip hanswers hc').1
    exact ⟨hsame, fun hshape => hsame.trans (sameName_iff_of_shape hshape)⟩
  · rw [List.Nodup, List.pairwise_map, List.pairwise_map]
    refine List.Pairwise.iff_of_mem fun hg hg' => not_congr ?_
    exact functionName?_inj (hregister.name_of_written hg) (hregister.name_of_written hg')

/-! ### Shapes of two namespaces -/

def textList (id : String) : Shape := ⟨⟨id⟩, .list ⟨"member", ⟨"smithy.api#String"⟩, {}⟩, {}⟩

def spacesScope : Scope :=
  ⟨⟨[textList "a#Foo", textList "b#Foo", ⟨⟨"smithy.api#String"⟩, .string, {}⟩]⟩, .client, [], []⟩

def fooCalls : List FunctionCall :=
  [.value (.writes (textList "a#Foo")), .value (.reads (textList "a#Foo")), .value (.readsText (textList "a#Foo"))]

theorem foo_apart : ∃ names f, Runs (fooCalls.mapM (FunctionCall.run spacesScope)) {} names f ∧
    (f.written.map Function.name).Nodup := by
  obtain ⟨names, hnames⟩ : ∃ names, (fooCalls.mapM (FunctionCall.run spacesScope) {}).1 = .ok names :=
    Results.exists_of_isSome (by decide +kernel)
  have hrun : Runs (fooCalls.mapM (FunctionCall.run spacesScope)) {} names _ := Prod.ext hnames rfl
  obtain ⟨-, -, -, -, hapart⟩ := names_apart_iff hrun
  exact ⟨names, _, hrun, hapart.2 (by decide +kernel)⟩

/-- The same request for shapes of two namespaces. -/
def spacesCalls : List FunctionCall := [.value (.writes (textList "a#Foo")), .value (.writes (textList "b#Foo"))]

theorem spaces_answered : ∃ f, Runs (spacesCalls.mapM (FunctionCall.run spacesScope)) {} ["ser_foo", "ser_foo"] f ∧
    f.written.map Function.name = ["ser_foo", "ser_foo"] := by
  obtain ⟨names, hnames⟩ : ∃ names, (spacesCalls.mapM (FunctionCall.run spacesScope) {}).1 = .ok names :=
    Results.exists_of_isSome (by decide +kernel)
  have hrun : Runs (spacesCalls.mapM (FunctionCall.run spacesScope)) {} names _ := Prod.ext hnames rfl
  have hsame : (spacesCalls.mapM (FunctionCall.run spacesScope) {}).1.toOption = some ["ser_foo", "ser_foo"] := by
    decide +kernel
  rw [hnames] at hsame
  obtain rfl := Option.some.inj hsame
  exact ⟨_, hrun, by decide +kernel⟩

/-- **Functions of two shapes can have the same name**, and are then written under it one after the other. -/
theorem spaces_clash :
    (∃ names f, Runs (spacesCalls.mapM (FunctionCall.run spacesScope)) {} names f ∧
      ¬(f.written.map Function.name).Nodup) ∧
    ¬∀ (s : Scope) (calls : List FunctionCall) (names : List String) (f : Functions),
      (∀ c ∈ calls, s.Listed c.shape) → Runs (calls.mapM (FunctionCall.run s)) {} names f →
        ∀ c name c' name', (c, name) ∈ calls.zip names → (c', name') ∈ calls.zip names → c.key ≠ c'.key →
          name ≠ name' := by
  obtain ⟨f, hrun, hwritten⟩ := spaces_answered
  refine ⟨⟨_, f, hrun, by rw [hwritten]; decide⟩, fun hclaim => ?_⟩
  have hlisted : ∀ c ∈ spacesCalls, spacesScope.Listed c.shape := by
    intro c hc
    simp only [spacesCalls, List.mem_cons, List.not_mem_nil, or_false] at hc
    rcases hc with rfl | rfl <;> rfl
  have hkeys : (⟨"a#Foo"⟩, FunctionForm.writer) ≠ ((⟨"b#Foo"⟩, FunctionForm.writer) : FunctionKey) := by decide
  exact hclaim spacesScope spacesCalls _ f hlisted hrun _ _ _ _ List.mem_cons_self
    (List.mem_cons_of_mem _ List.mem_cons_self) hkeys rfl

end WireShapes.Code
