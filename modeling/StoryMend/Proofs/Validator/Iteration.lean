import Mathlib.Logic.Function.Iterate
import StoryMend.Proofs.Repair.Cycle
import StoryMend.Validator

/-!
The loop of repair without its early exit.  The plain loop runs through its whole
budget and looks at nothing but the diagnostics of its text.  The main statement is
that a validator, which stops as soon as a cycle reports no change, gives the verdict
of the plain loop.
-/

namespace StoryMend.Validator

variable (v : Validator)

/-- One cycle of the plain loop: a text without syntax errors stays as it is, and any
other one is repaired. -/
def cycle (source : String) : Repair.Report :=
  if v.syntaxErrors source = [] then { source }
  else v.engine.run source (v.syntaxErrors source)

/-- The text after `n` cycles of the plain loop. -/
def textAfter (raw : String) (n : Nat) : String := (fun s => (v.cycle s).source)^[n] raw

/-- The names of the passes that changed the text in the first `n` cycles of the plain
loop, cycle by cycle. -/
def passesWithin (raw : String) (n : Nat) : List String :=
  (List.range n).flatMap fun i => (v.cycle (v.textAfter raw i)).applied

/-- The verdict of the plain loop with `n` cycles.  Its warning names every pass that
changed the text once, where it first did. -/
def plainVerdict (inv : Inventory) (raw : String) (n : Nat) : Verdict :=
  let source := v.textAfter raw n
  let warnings :=
    if v.syntaxErrors raw = [] then []
    else ["Auto-fixed syntax (" ++
      String.intercalate ", " (v.passesWithin raw n).eraseDups ++ ")"]
  if v.syntaxErrors source ≠ [] then
    .failed (Diagnostic.renderAll (v.syntaxErrors source)) []
  else if v.importErrors inv source ≠ [] then
    .failed (Diagnostic.renderAll (v.importErrors inv source)) warnings
  else .valid warnings (if source ≠ raw then some source else none)

theorem cycle_of_clean {source : String} (hclean : v.syntaxErrors source = []) :
    v.cycle source = { source } := by
  simp [cycle, hclean]

theorem cycle_of_faulty {source : String} (hfaulty : v.syntaxErrors source ≠ []) :
    v.cycle source = v.engine.run source (v.syntaxErrors source) := by
  simp [cycle, hfaulty]

/-- A cycle that reports no pass gives its text back. -/
theorem cycle_source_of_applied_eq_nil {source : String}
    (hnone : (v.cycle source).applied = []) : (v.cycle source).source = source := by
  by_cases hclean : v.syntaxErrors source = []
  · rw [v.cycle_of_clean hclean]
  · rw [v.cycle_of_faulty hclean] at hnone ⊢
    exact v.engine.run_source_of_applied_eq_nil _ hnone

@[simp]
theorem textAfter_zero (raw : String) : v.textAfter raw 0 = raw := rfl

theorem textAfter_succ (raw : String) (n : Nat) :
    v.textAfter raw (n + 1) = v.textAfter (v.cycle raw).source n :=
  Function.iterate_succ_apply _ n raw

/-- A text that a cycle gives back stays the same for good.  This is why stopping early
does no harm. -/
theorem textAfter_of_fixed {raw : String} (hfixed : (v.cycle raw).source = raw) (n : Nat) :
    v.textAfter raw n = raw :=
  Function.iterate_fixed hfixed n

/-- A text without syntax errors stays the same. -/
theorem textAfter_of_clean {raw : String} (hclean : v.syntaxErrors raw = []) (n : Nat) :
    v.textAfter raw n = raw := by
  refine v.textAfter_of_fixed ?_ n
  rw [v.cycle_of_clean hclean]

theorem passesWithin_succ (raw : String) (n : Nat) :
    v.passesWithin raw (n + 1) =
      (v.cycle raw).applied ++ v.passesWithin (v.cycle raw).source n := by
  simp [passesWithin, List.range_succ_eq_map, List.flatMap_map, textAfter_succ]

/-- No pass changes a text without syntax errors. -/
theorem passesWithin_of_clean {raw : String} (hclean : v.syntaxErrors raw = []) (n : Nat) :
    v.passesWithin raw n = [] := by
  simp [passesWithin, v.textAfter_of_clean hclean, v.cycle_of_clean hclean]

/-- A text that no pass changes stays the same. -/
theorem textAfter_of_passesWithin_eq_nil {raw : String} {n : Nat}
    (hnone : v.passesWithin raw n = []) : v.textAfter raw n = raw := by
  induction n generalizing raw with
  | zero => rfl
  | succ n ih =>
      rw [passesWithin_succ, List.append_eq_nil_iff] at hnone
      have hfixed := v.cycle_source_of_applied_eq_nil hnone.1
      exact v.textAfter_of_fixed hfixed (n + 1)

/-- Names that are added one by one stand where they first appear. -/
theorem addNames_eq (names more : List String) :
    addNames names more = names ++ (more.filter (!names.contains ·)).eraseDups := by
  induction more generalizing names with
  | nil => simp [addNames]
  | cons n rest ih =>
      by_cases hmem : names.contains n = true
      · have hskip : addNames names (n :: rest) = addNames names rest := by
          rw [addNames, List.foldl_cons, if_pos hmem, addNames]
        rw [hskip, ih, List.filter_cons_of_neg (by simpa using hmem)]
      · have hadd : addNames names (n :: rest) = addNames (names ++ [n]) rest := by
          rw [addNames, List.foldl_cons, if_neg hmem, addNames]
        have hfilter : rest.filter (!(names ++ [n]).contains ·) =
            (rest.filter (!names.contains ·)).filter (!· == n) := by
          rw [List.filter_filter]
          apply List.filter_congr
          intro m _
          by_cases hm : m = n <;> simp [hm]
        rw [hadd, ih, List.filter_cons_of_pos (by simpa using hmem), List.eraseDups_cons,
          hfilter, List.append_assoc, List.singleton_append]

theorem addNames_nil (more : List String) : addNames [] more = more.eraseDups := by
  rw [addNames_eq, List.nil_append, List.filter_eq_self.mpr (by simp)]

theorem addNames_append (names first second : List String) :
    addNames names (first ++ second) = addNames (addNames names first) second :=
  List.foldl_append

/-- The loop with the early exit ends as the plain loop does: with the same text and names
if the text is clean then, and with its diagnostics otherwise. -/
theorem repair_eq (budget : Nat) (source : String) (applied : List String) :
    v.repair source (v.syntaxErrors source) applied budget =
      if v.syntaxErrors (v.textAfter source budget) = [] then
        .ok (v.textAfter source budget, addNames applied (v.passesWithin source budget))
      else .error (v.syntaxErrors (v.textAfter source budget)) := by
  induction budget generalizing source applied with
  | zero =>
      by_cases hclean : v.syntaxErrors source = []
      · simp [repair, hclean, passesWithin, addNames]
      · simp [repair, hclean]
  | succ budget ih =>
      by_cases hclean : v.syntaxErrors source = []
      · simp [repair, hclean, v.textAfter_of_clean hclean, v.passesWithin_of_clean hclean,
          addNames]
      · have hcycle := v.cycle_of_faulty hclean
        by_cases hchanged : (v.cycle source).changed = true
        · have hstep : v.repair source (v.syntaxErrors source) applied (budget + 1) =
              v.repair (v.cycle source).source (v.syntaxErrors (v.cycle source).source)
                (addNames applied (v.cycle source).applied) budget := by
            rw [hcycle] at hchanged ⊢
            simp [repair, hclean, hchanged]
          rw [hstep, ih, textAfter_succ, passesWithin_succ, addNames_append]
        · -- The cycle reports no pass, so it gives the text back and so do all later ones.
          have hnone : (v.cycle source).applied = [] := by
            simpa [Repair.Report.changed] using hchanged
          have hfixed := v.cycle_source_of_applied_eq_nil hnone
          rw [hcycle] at hchanged
          simp [repair, hclean, hchanged, v.textAfter_of_fixed hfixed]

/-- The warning of a loop that has cleared away syntax errors names some pass. -/
theorem repairWarnings_eq {raw : String} {n : Nat}
    (hclean : v.syntaxErrors (v.textAfter raw n) = []) :
    repairWarnings (addNames [] (v.passesWithin raw n)) =
      if v.syntaxErrors raw = [] then []
      else ["Auto-fixed syntax (" ++
        String.intercalate ", " (v.passesWithin raw n).eraseDups ++ ")"] := by
  rw [addNames_nil]
  by_cases hraw : v.syntaxErrors raw = []
  · simp [repairWarnings, v.passesWithin_of_clean hraw, hraw]
  · have hsome : (v.passesWithin raw n).eraseDups ≠ [] := by
      intro hnil
      have hnone : v.passesWithin raw n = [] := by
        apply List.eq_nil_iff_forall_not_mem.mpr
        intro name hname
        rw [← List.mem_eraseDups, hnil] at hname
        exact List.not_mem_nil hname
      rw [v.textAfter_of_passesWithin_eq_nil hnone] at hclean
      exact hraw hclean
    simp [repairWarnings, hsome, hraw]

/-- The verdict on a text with content, told by the end of the plain loop. -/
theorem validate_of_hasContent (inv : Inventory) {raw : String}
    (hcontent : Diagnose.hasContent v.parse v.settings.kind raw = true) :
    v.validate inv raw =
      let source := v.textAfter raw v.settings.maxRetries
      if v.syntaxErrors source = [] then
        v.judgeImports inv raw source
          (repairWarnings (addNames [] (v.passesWithin raw v.settings.maxRetries)))
      else .failed (Diagnostic.renderAll (v.syntaxErrors source)) [] := by
  simp only [validate, Diagnose.contentError?, hcontent, ↓reduceIte, v.repair_eq]
  by_cases hclean : v.syntaxErrors (v.textAfter raw v.settings.maxRetries) = []
  · simp only [if_pos hclean]
  · simp only [if_neg hclean]

/-- The verdict on a text without content. -/
theorem validate_of_not_hasContent (inv : Inventory) {raw : String}
    (hempty : Diagnose.hasContent v.parse v.settings.kind raw = false) :
    v.validate inv raw = .failed [Diagnose.noContent.render] [] := by
  simp [validate, Diagnose.contentError?, hempty]

/-- The verdict on a text whose syntax errors are cleared away by the first cycle. -/
theorem validate_of_cycle_clean (inv : Inventory) {raw : String} {budget : Nat}
    (hbudget : v.settings.maxRetries = budget + 1)
    (hcontent : Diagnose.hasContent v.parse v.settings.kind raw = true)
    (hclean : v.syntaxErrors (v.cycle raw).source = []) :
    v.validate inv raw =
      v.judgeImports inv raw (v.cycle raw).source
        (repairWarnings (addNames [] (v.cycle raw).applied)) := by
  rw [v.validate_of_hasContent inv hcontent, hbudget]
  simp only [textAfter_succ, passesWithin_succ, v.textAfter_of_clean hclean,
    v.passesWithin_of_clean hclean, hclean, ↓reduceIte, List.append_nil]

/-- Stopping early never changes the verdict: on a text with content a validator gives
the verdict of the plain loop with its whole budget. -/
theorem validate_eq_plainVerdict (inv : Inventory) (raw : String)
    (hcontent : Diagnose.hasContent v.parse v.settings.kind raw = true) :
    v.validate inv raw = v.plainVerdict inv raw v.settings.maxRetries := by
  rw [v.validate_of_hasContent inv hcontent]
  by_cases hclean : v.syntaxErrors (v.textAfter raw v.settings.maxRetries) = []
  · simp only [hclean, ↓reduceIte, v.repairWarnings_eq hclean, judgeImports, plainVerdict]
    cases himports : v.importErrors inv (v.textAfter raw v.settings.maxRetries) with
    | nil => simp
    | cons d rest => simp
  · simp [plainVerdict, hclean]

end StoryMend.Validator

namespace StoryMend.CutOffStory

open Syntax

/-- A parser that knows the trees of some texts and takes every other text for a program
without parts. -/
def parserOf (trees : List (String × Tree)) : Parser := fun source _ =>
  some ((trees.lookup source).getD
    (.mk { kind := "program", span := ⟨0, source.utf8ByteSize, 0, 0⟩ } []))

/-- An unnamed node without children. -/
def token (kind : String) (span : Span) : Tree := .mk { kind, named := false, span } []

/-- A line that breaks off in its tag. -/
def cutLine : String := "<B"

/-- The tree of the line that breaks off, from a byte and a row on. -/
def cutTree (start row : Nat) : Tree :=
  .mk { kind := "ERROR", span := ⟨start, start + 2, row, 0⟩, isError := true } [
    token "<" ⟨start, start + 1, row, 0⟩,
    .mk { kind := "identifier", span := ⟨start + 1, start + 2, row, 1⟩ } []]

/-- A line that imports a component. -/
def importLine : String := "import \x7b B \x7d from 'ui';"

/-- The tree of the line that imports a component. -/
def importTree : Tree :=
  .mk { kind := "import_statement", span := ⟨0, 23, 0, 0⟩ } [
    token "import" ⟨0, 6, 0, 0⟩,
    .mk { kind := "import_clause", span := ⟨7, 12, 0, 7⟩ } [
      .mk { kind := "named_imports", span := ⟨7, 12, 0, 7⟩ } [
        token "\x7b" ⟨7, 8, 0, 7⟩,
        .mk { kind := "import_specifier", span := ⟨9, 10, 0, 9⟩ } [
          .mk { kind := "identifier", span := ⟨9, 10, 0, 9⟩, field := some "name" } []],
        token "\x7d" ⟨11, 12, 0, 11⟩]],
    token "from" ⟨13, 17, 0, 13⟩,
    .mk { kind := "string", span := ⟨18, 22, 0, 18⟩, field := some "source" } [
      token "'" ⟨18, 19, 0, 18⟩,
      .mk { kind := "string_fragment", span := ⟨19, 21, 0, 19⟩ } [],
      token "'" ⟨21, 22, 0, 21⟩],
    token ";" ⟨22, 23, 0, 22⟩]

/-- A story that breaks off in the tag of its second line. -/
def raw : String := importLine ++ "\n" ++ cutLine

/-- A parser that knows the story, its first line, and its last line alone. -/
def parser : Parser := parserOf [
  (cutLine, .mk { kind := "program", span := ⟨0, 2, 0, 0⟩ } [cutTree 0 0]),
  (importLine, .mk { kind := "program", span := ⟨0, 23, 0, 0⟩ } [importTree]),
  (raw, .mk { kind := "program", span := ⟨0, 26, 0, 0⟩ } [importTree, cutTree 24 1])]

/-- Settings for the module of the story's component, without a runtime. -/
def settings : Settings := { primaryPath := "ui", runtime := none }

/-- The validator of these settings. -/
def validator : Validator := .withUsualNames parser settings

/-- What is wrong with a line that breaks off. -/
def fault (line : Nat) : Diagnostic where
  message := "Syntax error: unexpected `<B`"
  line := line
  column := some 1

/-- The course of the story: it has content and one fault, and a cycle of repair drops the
line that breaks off, after which no fault is left. -/
theorem course_of_raw :
    Diagnose.hasContent parser .tsx raw = true ∧ validator.syntaxErrors raw = [fault 2] ∧
      validator.cycle raw = { source := importLine, applied := ["truncation"] } ∧
      validator.syntaxErrors importLine = [] := by
  have hrun : Diagnose.hasContent parser .tsx raw = true ∧
      validator.syntaxErrors raw = [fault 2] ∧
      validator.engine.run raw [fault 2] = { source := importLine, applied := ["truncation"] } ∧
      validator.syntaxErrors importLine = [] := by decide +kernel
  obtain ⟨hcontent, herrors, hcycle, hclean⟩ := hrun
  have hfaulty : validator.syntaxErrors raw ≠ [] := by simp [herrors]
  refine ⟨hcontent, herrors, ?_, hclean⟩
  rw [validator.cycle_of_faulty hfaulty, herrors]
  exact hcycle

theorem validate_raw_eq_plainVerdict :
    Diagnose.hasContent validator.parse validator.settings.kind raw = true ∧
      validator.validate .empty raw = validator.plainVerdict .empty raw 1 := by
  have hcontent : Diagnose.hasContent parser .tsx raw = true := course_of_raw.1
  exact ⟨hcontent, validator.validate_eq_plainVerdict .empty raw hcontent⟩

end StoryMend.CutOffStory
