import StoryMend.Proofs.Import.Check
import StoryMend.Proofs.Import.Suggestion
import StoryMend.Proofs.Validator.Budget
import StoryMend.Proofs.Validator.Verdict

/-!
Where import errors stand.  The imports that are checked are those of the text that repair
ends with, and each of them stands at a node of the tree of that text.  The main statement is
that the errors of a story that is rejected for its imports tell exactly the rejected names of
that text, at their places in it.  It is the given text only if there was nothing to repair.
-/

namespace StoryMend

namespace Import

open Syntax

/-- A specifier stands in a text if it is the text of a node of the tree, at its place. -/
def Specifier.StandsIn (s : Specifier) (parse : Parser) (kind : FileKind) (source : String) :
    Prop :=
  ∃ tree, parse source kind = some tree ∧ ∃ n ∈ tree.nodes, s = .ofName source.toList n

theorem standsIn_of_mem_importedNames {parse : Parser} {kind : FileKind} {path source : String}
    {s : Specifier} (hs : s ∈ importedNames parse kind path source) :
    s.StandsIn parse kind source := by
  cases htree : parse source kind with
  | none => simp [importedNames, htree] at hs
  | some tree =>
      obtain ⟨n, hn, rfl⟩ := List.mem_map.1 ((importedNames_sublist htree).subset hs)
      exact ⟨tree, htree, n, hn, rfl⟩

/-- A check finds the rejected ones among the imported names, each at its place. -/
theorem Rules.mem_check_iff {r : Rules} {parse : Parser} {inv : Inventory} {path source : String}
    {d : Diagnostic} :
    d ∈ r.check parse inv path source ↔
      ∃ s ∈ importedNames parse r.kind path source,
        ∃ offence, r.offence? inv (localExports source) s.name = some offence ∧
          d = { message := r.message inv path s.name offence, line := s.line
                column := some s.column } := by
  simp only [check, List.mem_filterMap, checkName_eq_some_iff]

end Import

namespace Validator

variable (v : Validator)

/-- The errors of a story that is rejected for its imports. -/
theorem errors_of_rejectedForImports {inv : Inventory} {raw text : String} {names : List String}
    (hrejected : v.RejectedForImports inv raw)
    (hrepair : v.repair raw (v.syntaxErrors raw) [] v.settings.maxRetries = .ok (text, names)) :
    (v.validate inv raw).errors = Diagnostic.renderAll (v.importErrors inv text) := by
  obtain ⟨hcontent, source, others, hsource, himports⟩ := hrejected
  obtain ⟨rfl, rfl⟩ : text = source ∧ names = others := by simpa [hrepair] using hsource
  obtain ⟨d, rest, hfound⟩ := List.exists_cons_of_ne_nil himports
  simp [validate, Diagnose.contentError?, hcontent, hrepair, judgeImports, hfound,
    Verdict.failed]

/-- A text without syntax errors is not repaired. -/
theorem repair_of_clean {raw text : String} {names : List String} {budget : Nat}
    (hclean : v.syntaxErrors raw = [])
    (hrepair : v.repair raw (v.syntaxErrors raw) [] budget = .ok (text, names)) : text = raw := by
  rw [hclean] at hrepair
  unfold repair at hrepair
  simp at hrepair
  exact hrepair.1.symm

/-- Import errors point into the text that repair ends with.  A story that is rejected for its
imports has one error for each rejected name of that text, with the place at which the name
stands there; the text is the given one if there was nothing to repair. -/
theorem mem_errors_iff_of_rejectedForImports {inv : Inventory} {raw : String}
    (hrejected : v.RejectedForImports inv raw) :
    ∃ text names,
      v.repair raw (v.syntaxErrors raw) [] v.settings.maxRetries = .ok (text, names) ∧
        (v.syntaxErrors raw = [] → text = raw) ∧
        ∀ error, error ∈ (v.validate inv raw).errors ↔
          ∃ s ∈ Import.importedNames v.parse v.rules.kind v.settings.primaryPath text,
            s.StandsIn v.parse v.rules.kind text ∧
              ∃ offence,
                v.rules.offence? inv (Import.localExports text) s.name = some offence ∧
                  error = s!"Line {s.line}:{s.column}: " ++
                    v.rules.message inv v.settings.primaryPath s.name offence := by
  obtain ⟨-, text, names, hrepair, -⟩ := id hrejected
  refine ⟨text, names, hrepair, fun hclean => v.repair_of_clean hclean hrepair, ?_⟩
  intro error
  rw [v.errors_of_rejectedForImports hrejected hrepair, Diagnostic.renderAll_eq,
    List.mem_eraseDups, List.mem_map]
  constructor
  · rintro ⟨d, hd, rfl⟩
    obtain ⟨s, hs, offence, hoffence, rfl⟩ := Import.Rules.mem_check_iff.1 hd
    exact ⟨s, hs, Import.standsIn_of_mem_importedNames hs, offence, hoffence, rfl⟩
  · rintro ⟨s, hs, -, offence, hoffence, rfl⟩
    exact ⟨_, Import.Rules.mem_check_iff.2 ⟨s, hs, offence, hoffence, rfl⟩, rfl⟩

end Validator

namespace MovedStory

open Syntax
open CutOffStory (token parserOf importLine)

/-- A story that imports its component, but not the runtime. -/
def raw : String := importLine ++ "\n<B />"

/-- The story with the import of the runtime above it. -/
def mended : String := "import React from 'react';\n" ++ raw

/-- The tree of the line that imports the component, from a byte and a row on. -/
def importTree (start row : Nat) : Tree :=
  .mk { kind := "import_statement", span := ⟨start, start + 23, row, 0⟩ } [
    token "import" ⟨start, start + 6, row, 0⟩,
    .mk { kind := "import_clause", span := ⟨start + 7, start + 12, row, 7⟩ } [
      .mk { kind := "named_imports", span := ⟨start + 7, start + 12, row, 7⟩ } [
        token "\x7b" ⟨start + 7, start + 8, row, 7⟩,
        .mk { kind := "import_specifier", span := ⟨start + 9, start + 10, row, 9⟩ } [
          .mk { kind := "identifier", span := ⟨start + 9, start + 10, row, 9⟩
                field := some "name" } []],
        token "\x7d" ⟨start + 11, start + 12, row, 11⟩]],
    token "from" ⟨start + 13, start + 17, row, 13⟩,
    .mk { kind := "string", span := ⟨start + 18, start + 22, row, 18⟩, field := some "source" } [
      token "'" ⟨start + 18, start + 19, row, 18⟩,
      .mk { kind := "string_fragment", span := ⟨start + 19, start + 21, row, 19⟩ } [],
      token "'" ⟨start + 21, start + 22, row, 21⟩],
    token ";" ⟨start + 22, start + 23, row, 22⟩]

/-- The tree of the line of markup, from a byte and a row on. -/
def markupTree (start row : Nat) : Tree :=
  .mk { kind := "expression_statement", span := ⟨start, start + 5, row, 0⟩ } [
    .mk { kind := "jsx_self_closing_element", span := ⟨start, start + 5, row, 0⟩ } [
      token "<" ⟨start, start + 1, row, 0⟩,
      .mk { kind := "identifier", span := ⟨start + 1, start + 2, row, 1⟩, field := some "name" } [],
      token "/>" ⟨start + 3, start + 5, row, 3⟩]]

/-- The tree of the line that imports the runtime. -/
def runtimeTree : Tree :=
  .mk { kind := "import_statement", span := ⟨0, 26, 0, 0⟩ } [
    token "import" ⟨0, 6, 0, 0⟩,
    .mk { kind := "import_clause", span := ⟨7, 12, 0, 7⟩ } [
      .mk { kind := "identifier", span := ⟨7, 12, 0, 7⟩ } []],
    token "from" ⟨13, 17, 0, 13⟩,
    .mk { kind := "string", span := ⟨18, 25, 0, 18⟩, field := some "source" } [
      token "'" ⟨18, 19, 0, 18⟩,
      .mk { kind := "string_fragment", span := ⟨19, 24, 0, 19⟩ } [],
      token "'" ⟨24, 25, 0, 24⟩],
    token ";" ⟨25, 26, 0, 25⟩]

/-- A parser that knows the story before and after repair. -/
def parser : Parser := parserOf [
  (raw, .mk { kind := "program", span := ⟨0, 29, 0, 0⟩ } [importTree 0 0, markupTree 24 1]),
  (mended, .mk { kind := "program", span := ⟨0, 56, 0, 0⟩ } [
    runtimeTree, importTree 27 1, markupTree 51 2])]

/-- The usual settings for the module of the story's component. -/
def settings : Settings := { primaryPath := "ui" }

/-- The validator of these settings. -/
def validator : Validator := .withUsualNames parser settings

/-- What is wrong with the import of the component when the inventory is empty. -/
def importError : Diagnostic where
  message := "`B` is not available from `ui`."
  line := 2
  column := some 10

/-- The course of the story: it lacks its runtime, a cycle of repair inserts the import above the
story, and the name of the component stands in the second line then, no longer in the first. -/
theorem course_of_raw :
    Diagnose.hasContent parser .tsx raw = true ∧
      validator.syntaxErrors raw = [Diagnose.noRuntime .react] ∧
      validator.engine.run raw [Diagnose.noRuntime .react] =
        { source := mended, applied := ["runtime-import"] } ∧
      validator.syntaxErrors mended = [] ∧
      Import.importedNames parser .tsx "ui" raw = [⟨"B", 1, 10⟩] ∧
      Import.importedNames parser .tsx "ui" mended = [⟨"B", 2, 10⟩] ∧
      Import.StoryNames.usual.covers (Import.localExports mended) "B" = false := by
  decide +kernel

theorem repair_raw :
    validator.repair raw (validator.syntaxErrors raw) [] 1 = .ok (mended, ["runtime-import"]) := by
  obtain ⟨-, herrors, hrun, hclean, -⟩ := course_of_raw
  rw [herrors, Validator.repair, hrun]
  simp only [hclean]
  rfl

theorem offence?_mended :
    validator.rules.offence? .empty (Import.localExports mended) "B" = some .unavailable := by
  obtain ⟨-, -, -, -, -, -, hcovers⟩ := course_of_raw
  have hunknown : Inventory.empty.contains "B" = false := by
    rw [Bool.eq_false_iff, ne_eq, Inventory.contains_iff_mem_names]
    exact List.not_mem_nil
  show (if Import.StoryNames.usual.covers (Import.localExports mended) "B" then _ else _) = _
  rw [hcovers, hunknown]
  rfl

theorem message_mended :
    validator.rules.message .empty "ui" "B" .unavailable = "`B` is not available from `ui`." := by
  have hnone : Import.suggest? validator.rules.aliases .empty "B" = none := by
    rw [Option.eq_none_iff_forall_ne_some]
    intro other hother
    exact absurd (Import.mem_names_of_suggest? hother) List.not_mem_nil
  rw [Import.Rules.message, Import.Rules.hint, hnone]
  rfl

theorem importErrors_mended : validator.importErrors .empty mended = [importError] := by
  obtain ⟨-, -, -, -, -, himported, -⟩ := course_of_raw
  have hcheck : validator.rules.checkName .empty validator.settings.primaryPath
      (Import.localExports mended) ⟨"B", 2, 10⟩ = some importError := by
    apply (validator.rules.checkName_eq_some_iff .empty _ _).2
    refine ⟨.unavailable, offence?_mended, ?_⟩
    show importError = ⟨validator.rules.message .empty "ui" "B" .unavailable, _, _, _⟩
    rw [message_mended]
    rfl
  show (Import.importedNames parser .tsx "ui" mended).filterMap _ = _
  rw [himported, List.filterMap_cons_some hcheck]
  rfl

theorem rejectedForImports_raw : validator.RejectedForImports .empty raw := by
  obtain ⟨hcontent, -⟩ := course_of_raw
  refine ⟨hcontent, mended, _, repair_raw, ?_⟩
  rw [importErrors_mended]
  exact List.cons_ne_nil _ _

theorem mem_errors_raw :
    validator.RejectedForImports .empty raw ∧
      "Line 2:10: `B` is not available from `ui`." ∈ (validator.validate .empty raw).errors := by
  refine ⟨rejectedForImports_raw, ?_⟩
  obtain ⟨text, names, hrepair, -, herrors⟩ :=
    validator.mem_errors_iff_of_rejectedForImports rejectedForImports_raw
  obtain ⟨-, -, -, -, -, himported, -⟩ := course_of_raw
  obtain ⟨rfl, -⟩ : mended = text ∧ ["runtime-import"] = names := by
    have hsame := repair_raw.symm.trans hrepair
    simpa using hsame
  have hmem : (⟨"B", 2, 10⟩ : Import.Specifier) ∈
      Import.importedNames parser .tsx "ui" mended := by
    rw [himported]
    exact List.mem_singleton_self _
  refine (herrors _).2 ⟨_, hmem, Import.standsIn_of_mem_importedNames hmem, .unavailable,
    offence?_mended, ?_⟩
  show _ = _ ++ validator.rules.message .empty "ui" "B" .unavailable
  rw [message_mended]
  rfl

/-- The error points into the second line, where the given text has markup; the name stands in
its first line. -/
theorem errors_raw_not_in_raw :
    (validator.validate .empty raw).errors = ["Line 2:10: `B` is not available from `ui`."] ∧
      Import.importedNames parser .tsx "ui" raw = [⟨"B", 1, 10⟩] := by
  obtain ⟨-, -, -, -, hraw, -⟩ := course_of_raw
  refine ⟨?_, hraw⟩
  rw [validator.errors_of_rejectedForImports rejectedForImports_raw repair_raw,
    importErrors_mended]
  rfl

end MovedStory

end StoryMend
