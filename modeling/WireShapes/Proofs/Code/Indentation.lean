import WireShapes.Code.Layout
import WireShapes.Proofs.Text.Split

/-!
Indentation of generated code.

* `indentLine_indentLine`: levels of a line add up
* `shift`, `shift_joinLines`: a text at a level is made of its lines at that level
* `Lays`: what is written at every level, as lines at level 0
* `Act.lays`, `runBody_lays`: what acts write, and what they leave of the level
* `written_at_level`: acts at a level write the text they write at level 0, shifted; a layout is what its
  steps write
-/

namespace WireShapes.Code

/-! ### Lines -/

theorem toList_indentLine (level : Nat) (line : String) :
    (indentLine level line).toList = if isBlank line then [] else List.replicate (4 * level) ' ' ++ line.toList := by
  unfold indentLine
  split <;> simp

theorem isBlank_indentLine (level : Nat) (line : String) : isBlank (indentLine level line) = isBlank line := by
  have hspace : Text.isSpace ' ' = true := by decide
  unfold isBlank
  rw [toList_indentLine]
  split
  · next h => exact h.symm
  · simp [List.all_append, hspace]

/-- **Levels of a line add up.** -/
theorem indentLine_indentLine (outer inner : Nat) (line : String) :
    indentLine outer (indentLine inner line) = indentLine (outer + inner) line := by
  rw [← String.toList_inj, toList_indentLine, isBlank_indentLine, toList_indentLine, toList_indentLine]
  split
  · rfl
  · rw [← List.append_assoc, List.replicate_append_replicate, Nat.mul_add]

theorem map_indentLine (outer inner : Nat) (lines : List String) :
    (lines.map (indentLine inner)).map (indentLine outer) = lines.map (indentLine (outer + inner)) := by
  simp only [List.map_map, Function.comp_def, indentLine_indentLine]

theorem map_indentText (outer inner : Nat) (text : String) :
    (indentText inner text).map (indentLine outer) = indentText (outer + inner) text := by
  unfold indentText
  split
  · rfl
  · exact map_indentLine outer inner (textLines text)

theorem map_docLines (outer inner : Nat) (text : Option String) :
    (docLines inner text).map (indentLine outer) = docLines (outer + inner) text := by
  cases text with
  | none => rfl
  | some text =>
    simp only [docLines, List.map_map, Function.comp_def, indentLine_indentLine]

theorem map_indentCode (outer inner : Nat) (code : String) :
    (indentCode inner code).map (indentLine outer) = indentCode (outer + inner) code :=
  map_indentText outer inner (String.ofList (Text.trimRight (· == '\n') code.toList))

/-! ### Line feeds -/

/-- There is no line feed inside a line. -/
def Unbroken (lines : List String) : Prop := ∀ line ∈ lines, '\n' ∉ line.toList

namespace Unbroken

variable {lines more : List String}

theorem nil : Unbroken [] := fun _ h => nomatch h

theorem append (h : Unbroken lines) (hmore : Unbroken more) : Unbroken (lines ++ more) :=
  List.forall_mem_append.2 ⟨h, hmore⟩

theorem map_indentLine (h : Unbroken lines) (level : Nat) : Unbroken (lines.map (indentLine level)) := by
  intro indented hindented hmem
  obtain ⟨line, hline, rfl⟩ := List.mem_map.1 hindented
  rw [toList_indentLine] at hmem
  split at hmem
  · cases hmem
  · rcases List.mem_append.1 hmem with hmem | hmem
    · exact absurd (List.eq_of_mem_replicate hmem) (by decide)
    · exact h line hline hmem

end Unbroken

theorem not_mem_linesOfParts {parts : List (List Char)} (h : ∀ part ∈ parts, '\n' ∉ part) :
    ∀ line ∈ linesOfParts parts, '\n' ∉ line := by
  induction parts with
  | nil => exact fun _ hline => nomatch hline
  | cons part rest ih =>
    obtain ⟨hpart, hrest⟩ := List.forall_mem_cons.1 h
    cases rest with
    | nil =>
      rw [linesOfParts]
      split
      · exact fun _ hline => nomatch hline
      · exact h
    | cons next more =>
      rw [linesOfParts]
      · refine List.forall_mem_cons.2 ⟨fun hmem => hpart ?_, ih hrest⟩
        unfold dropReturn at hmem
        split at hmem
        · exact (List.dropLast_sublist _).subset hmem
        · exact hmem
      · exact List.cons_ne_nil _ _

theorem unbroken_textLines (text : String) : Unbroken (textLines text) := by
  intro line hline
  obtain ⟨cs, hcs, rfl⟩ := List.mem_map.1 hline
  rw [String.toList_ofList]
  exact not_mem_linesOfParts (fun part hpart => Text.not_mem_of_mem_splitOn hpart) cs hcs

theorem unbroken_indentText (level : Nat) (text : String) : Unbroken (indentText level text) := by
  unfold indentText
  split
  · simp [Unbroken]
  · exact (unbroken_textLines text).map_indentLine level

theorem unbroken_indentCode (level : Nat) (code : String) : Unbroken (indentCode level code) :=
  unbroken_indentText level (String.ofList (Text.trimRight (· == '\n') code.toList))

theorem unbroken_docLines (level : Nat) (text : Option String) : Unbroken (docLines level text) := by
  cases text with
  | none => exact Unbroken.nil
  | some text =>
    have hdocs : Unbroken ((textLines text).map docLine) := by
      intro doc hdoc hmem
      obtain ⟨line, hline, rfl⟩ := List.mem_map.1 hdoc
      unfold docLine at hmem
      split at hmem
      · exact absurd hmem (by decide)
      · rw [String.toList_append, Text.trimRight] at hmem
        rcases List.mem_append.1 hmem with hmem | hmem
        · exact absurd hmem (by decide)
        · rw [String.toList_ofList] at hmem
          exact unbroken_textLines text line hline
            (List.mem_reverse.1 ((List.dropWhile_sublist _).subset (List.mem_reverse.1 hmem)))
    have hmap := hdocs.map_indentLine level
    simpa only [docLines, List.map_map, Function.comp_def] using hmap

/-! ### Texts -/

/-- A text at a level: behind spaces every line that is not blank, and the blank ones empty. -/
def shift (level : Nat) (text : String) : String :=
  String.ofList (Text.joinWith ['\n'] ((Text.splitOn '\n' text.toList).map fun line =>
    (indentLine level (String.ofList line)).toList))

@[simp] theorem joinLines_nil : joinLines [] = "" := rfl

theorem joinLines_cons (line : String) (lines : List String) :
    joinLines (line :: lines) = line ++ "\n" ++ joinLines lines := by
  simp [joinLines]

theorem joinLines_append (lines more : List String) :
    joinLines (lines ++ more) = joinLines lines ++ joinLines more := by
  simp [joinLines]

/-- The last line feed ends a line, and starts an empty part. -/
theorem toList_joinLines (lines : List String) :
    (joinLines lines).toList = Text.joinWith ['\n'] (lines.map String.toList ++ [[]]) := by
  induction lines with
  | nil => rfl
  | cons line rest ih =>
    rw [joinLines_cons, String.toList_append, String.toList_append, ih, List.map_cons, List.cons_append]
    cases rest <;> simp [Text.joinWith]

theorem shift_joinLines {lines : List String} (h : Unbroken lines) (level : Nat) :
    shift level (joinLines lines) = joinLines (lines.map (indentLine level)) := by
  have hparts : ∀ part ∈ lines.map String.toList ++ [[]], '\n' ∉ part := by
    refine List.forall_mem_append.2 ⟨List.forall_mem_map.2 h, ?_⟩
    simp
  rw [← String.toList_inj, shift, String.toList_ofList, toList_joinLines, toList_joinLines,
    Text.splitOn_joinWith (by simp) hparts]
  simp [Function.comp_def, indentLine, isBlank]

/-! ### What is written -/

/-- At every level, with so many guards held above it, this writes the lines at that level, and then holds
so many guards. -/
structure Lays (f : Writer → Writer) (held held' : Nat) (lines : List String) (needed : List Dependency) :
    Prop where
  unbroken : Unbroken lines
  run : ∀ out level dependencies, f ⟨out, level + held, dependencies⟩ =
    ⟨out ++ joinLines (lines.map (indentLine level)), level + held', dependencies ++ needed⟩

namespace Lays

variable {f g : Writer → Writer} {a b c : Nat} {lines more : List String} {needed needed' : List Dependency}

/-- One after the other. -/
theorem comp (hf : Lays f a b lines needed) (hg : Lays g b c more needed') :
    Lays (fun w => g (f w)) a c (lines ++ more) (needed ++ needed') := by
  refine ⟨hf.unbroken.append hg.unbroken, fun out level dependencies => ?_⟩
  rw [hf.run, hg.run, List.map_append, joinLines_append, String.append_assoc, List.append_assoc]

/-- Whoever holds guards of its own can have this written above them. -/
theorem above (hf : Lays f 0 0 lines needed) (held : Nat) :
    Lays f held held (lines.map (indentLine held)) needed := by
  refine ⟨hf.unbroken.map_indentLine held, fun out level dependencies => ?_⟩
  rw [map_indentLine]
  exact hf.run out (level + held) dependencies

theorem append {f : Nat → List String} (hmoves : ∀ outer inner, (f inner).map (indentLine outer) = f (outer + inner))
    (h : Unbroken (f a)) : Lays (fun w => w.append (f w.level)) a a (f a) [] := by
  refine ⟨h, fun out level dependencies => ?_⟩
  rw [hmoves, List.append_nil]
  rfl

theorem id : Lays (fun w => w) a a [] [] :=
  ⟨Unbroken.nil, fun out level dependencies => by simp⟩

theorem writeLine (text : String) : Lays (·.writeLine text) a a (indentText a text) [] :=
  append (fun outer inner => map_indentText outer inner text) (unbroken_indentText a text)

theorem blankLine : Lays Writer.blankLine a a [""] [] := writeLine ""

theorem docs (text : Option String) : Lays (·.docs text) a a (docLines a text) [] :=
  append (fun outer inner => map_docLines outer inner text) (unbroken_docLines a text)

theorem writeCode (code : String) : Lays (·.writeCode code) a a (indentCode a code) [] :=
  append (f := fun level => indentCode level code) (fun outer inner => map_indentCode outer inner code)
    (unbroken_indentCode a code)

theorem dependsOn (needed : List Dependency) : Lays (·.dependsOn needed) a a [] needed :=
  ⟨Unbroken.nil, fun out level dependencies => by simp [Writer.dependsOn]⟩

theorem absorb (f : Fragment) :
    Lays (·.absorb f) a a (if f.isEmpty then [] else indentCode a f.code) f.dependencies := by
  unfold Writer.absorb
  split
  · exact dependsOn f.dependencies
  · simpa using (dependsOn f.dependencies).comp (writeCode f.code)

theorem indent : Lays Writer.indent a (a + 1) [] [] :=
  ⟨Unbroken.nil, fun out level dependencies => by simp [Writer.indent, Nat.add_assoc]⟩

theorem drop (guards : Nat) : Lays (·.drop guards) (a + guards) a [] [] :=
  ⟨Unbroken.nil, fun out level dependencies => by simp [Writer.drop, ← Nat.add_assoc]⟩

/-- **A block leaves the level as it is**, also if its body returns an error. -/
theorem block {body : Writer → Writer} (h : Lays body 0 0 lines needed) (header close : String) (fails : Bool) :
    Lays (fun w =>
        let w := (body (w.writeLine header).indent).drop 1
        if fails then w else w.writeLine close) a a
      (indentText a header ++ lines.map (indentLine (a + 1)) ++ if fails then [] else indentText a close)
      needed := by
  have hbody := ((writeLine (a := a) header).comp indent).comp ((h.above (a + 1)).comp (drop 1))
  simp only [List.append_nil, List.nil_append] at hbody
  cases fails with
  | true => simpa using hbody
  | false => simpa using hbody.comp (writeLine close)

end Lays

mutual

/-- **What an act writes**, at every level of the writer and for any guards of its body. -/
theorem Act.lays : ∀ (act : Act) (held : Nat),
    ∃ lines needed, Lays (fun w => act.run w held) held (act.guards held) lines needed
  | .line text, held => ⟨_, _, Lays.writeLine text⟩
  | .blank, _ => ⟨_, _, Lays.blankLine⟩
  | .docs text, _ => ⟨_, _, Lays.docs text⟩
  | .code text, _ => ⟨_, _, Lays.writeCode text⟩
  | .needs dependency, _ => ⟨_, _, Lays.dependsOn [dependency]⟩
  | .indent, _ => ⟨_, _, Lays.indent⟩
  | .dedent, 0 => ⟨_, _, Lays.id⟩
  | .dedent, held + 1 => ⟨_, _, Lays.drop 1⟩
  | .block header close body fails, held => by
    obtain ⟨_, _, hbody⟩ := runBody_lays body 0
    exact ⟨_, _, hbody.block (header ++ " \x7b") close fails⟩
  | .absorb name body, held => ⟨_, _, Lays.absorb ((runBody .new 0 body).fragment name)⟩

/-- **What a body writes.** It leaves the level on which its guards stand. -/
theorem runBody_lays : ∀ (body : List Act) (held : Nat),
    ∃ lines needed, Lays (fun w => runBody w held body) held 0 lines needed
  | [], held => ⟨_, _, by simpa [runBody] using Lays.drop (a := 0) held⟩
  | act :: rest, held => by
    obtain ⟨_, _, hact⟩ := act.lays held
    obtain ⟨_, _, hrest⟩ := runBody_lays rest (act.guards held)
    exact ⟨_, _, hact.comp hrest⟩

end

theorem Writer.run_eq (w : Writer) (acts : List Act) :
    w.run acts = ⟨w.out ++ shift w.level (Writer.new.run acts).out, w.level,
      w.dependencies ++ (Writer.new.run acts).dependencies⟩ := by
  obtain ⟨lines, needed, h⟩ := runBody_lays acts 0
  have hnew : Writer.new.run acts = ⟨joinLines (lines.map (indentLine 0)), 0, needed⟩ := by
    simpa [Writer.run, Writer.new] using h.run "" 0 []
  have hw : w.run acts = ⟨w.out ++ joinLines (lines.map (indentLine w.level)), w.level, w.dependencies ++ needed⟩ :=
    h.run w.out w.level w.dependencies
  rw [hw, hnew, shift_joinLines (h.unbroken.map_indentLine 0), map_indentLine, Nat.add_zero]

/-! ### Layouts -/

theorem map_indentFragment (outer inner : Nat) (lines : List String) :
    (indentFragment inner lines).map (indentLine outer) = indentFragment (outer + inner) lines := by
  unfold indentFragment
  split
  · rfl
  · exact map_indentCode outer inner (joinLines lines)

mutual

theorem Step.map_lines : ∀ (step : Step) (outer inner : Nat),
    (step.lines inner).map (indentLine outer) = step.lines (outer + inner)
  | .line text, outer, inner => map_indentText outer inner text
  | .blank, _, _ => rfl
  | .docs text, outer, inner => map_docLines outer inner text
  | .code text, outer, inner => map_indentCode outer inner text
  | .needs _, _, _ => rfl
  | .indent, _, _ => rfl
  | .dedent, _, _ => rfl
  | .block header close body, outer, inner => by
    simp only [Step.lines, List.map_append, map_indentText, map_layout body, Nat.add_assoc]
  | .absorb body, outer, inner => map_indentFragment outer inner (layout 0 0 body)

/-- **The lines of a layout move with its level.** -/
theorem map_layout : ∀ (steps : List Step) (outer inner opened : Nat),
    (layout inner opened steps).map (indentLine outer) = layout (outer + inner) opened steps
  | [], _, _, _ => rfl
  | step :: rest, outer, inner, opened => by
    simp only [layout, List.map_append, step.map_lines, map_layout rest, Nat.add_assoc]

end

theorem isBlank_joinLines (lines : List String) : isBlank (joinLines lines) = lines.all isBlank := by
  have hfeed : Text.isSpace '\n' = true := by decide
  induction lines with
  | nil => rfl
  | cons line rest ih =>
    rw [List.all_cons, ← ih, joinLines_cons]
    simp [isBlank, hfeed]

theorem Step.guards_act (step : Step) (held : Nat) : step.act.guards held = step.levels held := by
  cases step <;> rfl

mutual

theorem Step.lays : ∀ (step : Step) (held : Nat), ∃ needed, (∀ d, needed.contains d = step.dependsOn d) ∧
    Lays (fun w => step.act.run w held) held (step.levels held) (step.lines held) needed
  | .line text, held => ⟨_, fun _ => rfl, Lays.writeLine text⟩
  | .blank, _ => ⟨_, fun _ => rfl, Lays.blankLine⟩
  | .docs text, _ => ⟨_, fun _ => rfl, Lays.docs text⟩
  | .code text, _ => ⟨_, fun _ => rfl, Lays.writeCode text⟩
  | .needs dependency, _ => ⟨_, fun d => by cases d <;> cases dependency <;> rfl, Lays.dependsOn [dependency]⟩
  | .indent, _ => ⟨_, fun _ => rfl, Lays.indent⟩
  | .dedent, 0 => ⟨_, fun _ => rfl, Lays.id⟩
  | .dedent, held + 1 => ⟨_, fun _ => rfl, Lays.drop 1⟩
  | .block header close body, held => by
    obtain ⟨needed, hneeded, hbody⟩ := layout_lays body 0
    have hblock := hbody.block (a := held) (header ++ " \x7b") close false
    rw [map_layout, Nat.add_zero] at hblock
    exact ⟨needed, hneeded, hblock⟩
  | .absorb body, held => by
    obtain ⟨needed, hneeded, hbody⟩ := layout_lays body 0
    have hrun : runBody .new 0 (actsOf body) = ⟨joinLines (layout 0 0 body), 0, needed⟩ := by
      simpa [Writer.new, map_layout] using hbody.run "" 0 []
    refine ⟨[Dependency.support, .http].filter needed.contains, fun d => ?_, ?_⟩
    · rw [Step.dependsOn, ← hneeded d]
      cases d <;> simp [List.contains_eq_mem, List.mem_filter]
    · have habsorb := Lays.absorb (a := held) ((runBody .new 0 (actsOf body)).fragment "")
      rw [hrun] at habsorb
      simp only [Writer.fragment, Fragment.isEmpty, isBlank_joinLines] at habsorb
      simp only [Step.act, Act.run, hrun]
      exact habsorb

theorem layout_lays : ∀ (steps : List Step) (held : Nat), ∃ needed, (∀ d, needed.contains d = dependsOnAny d steps) ∧
    Lays (fun w => runBody w held (actsOf steps)) held 0 (layout 0 held steps) needed
  | [], held => ⟨[], fun _ => rfl, by simpa [runBody, actsOf, layout] using Lays.drop (a := 0) held⟩
  | step :: rest, held => by
    obtain ⟨needed, hneeded, hstep⟩ := step.lays held
    obtain ⟨needed', hneeded', hrest⟩ := layout_lays rest (step.levels held)
    refine ⟨needed ++ needed', fun d => ?_, ?_⟩
    · rw [dependsOnAny, ← hneeded, ← hneeded', List.contains_append]
    · rw [layout, Nat.zero_add, ← step.guards_act]
      rw [← step.guards_act] at hstep hrest
      exact hstep.comp hrest

end

theorem fragment_actsOf (steps : List Step) (name : String) :
    (Writer.new.run (actsOf steps)).fragment name = Fragment.ofSteps name steps := by
  obtain ⟨needed, hneeded, h⟩ := layout_lays steps 0
  have hrun : Writer.new.run (actsOf steps) = ⟨textOf steps, 0, needed⟩ := by
    simpa [Writer.run, Writer.new, map_layout, textOf] using h.run "" 0 []
  rw [hrun]
  simp only [Writer.fragment, Fragment.ofSteps, dependenciesOf, hneeded]

/-- **Acts at a level write the text that they write at level 0, shifted to that level**, and leave the level
as it was, whichever of their blocks return errors. A layout at a level is that at level 0, shifted, and its
fragment is what its steps write. -/
theorem written_at_level :
    (∀ (acts : List Act) (w : Writer), w.run acts =
      ⟨w.out ++ shift w.level (Writer.new.run acts).out, w.level,
        w.dependencies ++ (Writer.new.run acts).dependencies⟩) ∧
    ∀ (steps : List Step) (name : String),
      (Writer.new.run (actsOf steps)).fragment name = Fragment.ofSteps name steps ∧
      ∀ level, joinLines (layout level 0 steps) = shift level (textOf steps) := by
  refine ⟨fun acts w => w.run_eq acts, fun steps name => ⟨fragment_actsOf steps name, fun level => ?_⟩⟩
  obtain ⟨needed, -, h⟩ := layout_lays steps 0
  rw [textOf, shift_joinLines h.unbroken, map_layout, Nat.add_zero]

/-- A body that returns an error has no closing line, and takes its guards along. -/
example : Writer.run ⟨"", 1, []⟩ [.block "a" "\x7d" [.indent, .line "b\n \nc"] true, .line "d"] =
    ⟨"    a \x7b\n            b\n\n            c\n    d\n", 1, []⟩ := by
  decide

end WireShapes.Code
