import Mathlib
import StoryMend.Proofs.Inventory
import StoryMend.Proofs.Validator.Iteration

/-!
What acceptance means.  An accepted text is the end of the plain loop of repair, so it
has neither syntax errors nor import errors.  Whether it has content is another matter:
only the text that was given is asked for content, and repair may drop the line that
held all of it.
-/

namespace StoryMend

/-- The text that a verdict on `raw` speaks for. -/
def Verdict.textOf (verdict : Verdict) (raw : String) : String := verdict.fixedCode.getD raw

namespace Import.Rules

/-- A name is admitted if it is the name of a component and of no story. -/
theorem offence?_eq_none_iff (r : Rules) (inv : Inventory) (exports : List String)
    (name : String) :
    r.offence? inv exports name = none ↔
      name ∈ inv.names ∧ r.storyNames.covers exports name = false := by
  rw [← inv.contains_iff_mem_names]
  unfold offence?
  cases hcovers : r.storyNames.covers exports name with
  | true => simp
  | false => cases inv.contains name <;> simp

/-- A check finds nothing exactly if every imported name is admitted. -/
theorem check_eq_nil_iff (r : Rules) (parse : Parser) (inv : Inventory)
    (path source : String) :
    r.check parse inv path source = [] ↔
      ∀ s ∈ importedNames parse r.kind path source,
        s.name ∈ inv.names ∧ r.storyNames.covers (localExports source) s.name = false := by
  simp only [check, List.filterMap_eq_nil_iff, checkName, Option.map_eq_none_iff,
    offence?_eq_none_iff]

end Import.Rules

/-- A compiler accepts all of some name patterns. -/
def NamePatterns.CompileWith (p : NamePatterns) (compiler : Pattern.Compiler) : Prop :=
  ∀ text ∈ p.always ++ p.whenExported, ∃ pattern, compiler text = .ok pattern

/-- Texts that all compile are compiled one by one. -/
theorem Pattern.mapM_eq_filterMap_of_ok {compiler : Pattern.Compiler} {texts : List String}
    (hok : ∀ text ∈ texts, ∃ pattern, compiler text = .ok pattern) :
    texts.mapM compiler = .ok (texts.filterMap fun text => (compiler text).toOption) := by
  induction texts with
  | nil => rfl
  | cons text rest ih =>
      obtain ⟨⟨pattern, hpattern⟩, hrest⟩ := List.forall_mem_cons.1 hok
      rw [List.mapM_cons, hpattern, ih hrest, List.filterMap_cons, hpattern]
      rfl

/-- Name patterns that all compile are compiled as if those that do not had been left out. -/
theorem NamePatterns.CompileWith.compile_eq {p : NamePatterns} {compiler : Pattern.Compiler}
    (h : p.CompileWith compiler) :
    Import.StoryNames.compile p compiler = .ok (.ofWellFormed p compiler) := by
  have halways := Pattern.mapM_eq_filterMap_of_ok fun text ht => h text (List.mem_append_left _ ht)
  have hexported := Pattern.mapM_eq_filterMap_of_ok fun text ht =>
    h text (List.mem_append_right _ ht)
  rw [Import.StoryNames.compile, halways, hexported]
  rfl

/-- The usual name patterns compile. -/
theorem NamePatterns.compileWith_compile :
    ({} : NamePatterns).CompileWith Pattern.compile := by
  intro text htext
  have hread : ∀ s ∈ ({} : NamePatterns).always ++ ({} : NamePatterns).whenExported,
      (Pattern.compile s).toOption.isSome = true := by decide +kernel
  cases hcompiled : Pattern.compile text with
  | ok pattern => exact ⟨pattern, rfl⟩
  | error e =>
      have hsome := hread text htext
      rw [hcompiled] at hsome
      cases hsome

namespace Validator

variable {parse : Parser} {settings : Settings} {compiler : Pattern.Compiler}

/-- Settings make a validator exactly if their name patterns compile. -/
theorem ofSettings_eq_ok_iff {v : Validator} :
    ofSettings parse settings compiler = .ok v ↔
      ∃ names, Import.StoryNames.compile settings.patterns compiler = .ok names ∧
        { parse, settings, rules := .withNames settings names, compiler } = v := by
  unfold ofSettings Import.Rules.ofSettings
  cases Import.StoryNames.compile settings.patterns compiler with
  | error e => simp [Except.map]
  | ok names => simp [Except.map]

/-- With the usual name patterns it does not matter whether they have to compile, if they do. -/
theorem ofSettings_eq_withUsualNames (husual : settings.patterns = {})
    (hcompile : ({} : NamePatterns).CompileWith compiler) :
    ofSettings parse settings compiler = .ok (withUsualNames parse settings compiler) :=
  ofSettings_eq_ok_iff.2 ⟨.usual compiler, husual ▸ hcompile.compile_eq, rfl⟩

/-- What a validator is made of. -/
theorem ofSettings_fields {v : Validator} (hv : ofSettings parse settings compiler = .ok v) :
    v.parse = parse ∧ v.settings = settings ∧ v.compiler = compiler ∧
      v.rules.kind = settings.kind := by
  obtain ⟨names, -, rfl⟩ := ofSettings_eq_ok_iff.1 hv
  exact ⟨rfl, rfl, rfl, rfl⟩

variable (v : Validator)

/-- A story is accepted only for an end of the plain loop that passes both checks. -/
theorem validate_of_isValid {inv : Inventory} {raw : String}
    (hvalid : (v.validate inv raw).isValid = true) :
    Diagnose.hasContent v.parse v.settings.kind raw = true ∧
      ∃ source warnings,
        v.syntaxErrors source = [] ∧ v.importErrors inv source = [] ∧
          v.validate inv raw =
            .valid warnings (if source = raw then none else some source) := by
  have hcontent : Diagnose.hasContent v.parse v.settings.kind raw = true := by
    by_contra hempty
    rw [v.validate_of_not_hasContent inv (by simpa using hempty)] at hvalid
    simp [Verdict.failed] at hvalid
  refine ⟨hcontent, ?_⟩
  rw [v.validate_of_hasContent inv hcontent] at hvalid ⊢
  by_cases hclean : v.syntaxErrors (v.textAfter raw v.settings.maxRetries) = []
  · simp only [if_pos hclean] at hvalid ⊢
    cases himports : v.importErrors inv (v.textAfter raw v.settings.maxRetries) with
    | nil => exact ⟨_, _, hclean, himports, by rw [judgeImports, himports]⟩
    | cons d rest => simp [judgeImports, himports, Verdict.failed] at hvalid
  · simp [if_neg hclean, Verdict.failed] at hvalid

/-- An accepted text passes both checks. -/
theorem textOf_of_isValid {inv : Inventory} {raw : String}
    (hvalid : (v.validate inv raw).isValid = true) :
    v.syntaxErrors ((v.validate inv raw).textOf raw) = [] ∧
      v.importErrors inv ((v.validate inv raw).textOf raw) = [] := by
  obtain ⟨-, source, warnings, hclean, himports, hverdict⟩ := v.validate_of_isValid hvalid
  have htext : (v.validate inv raw).textOf raw = source := by
    rw [hverdict]
    by_cases hsame : source = raw <;> simp [Verdict.textOf, Verdict.valid, hsame]
  rw [htext]
  exact ⟨hclean, himports⟩

/-- Acceptance is sound.  If a validator accepts a story, then the text that its verdict
speaks for has no syntax errors and no import errors, and each name that the text
imports from the design system is the name of a component and of no story.  The validator
need only have rules for the kind of module in its settings, as every one that settings
make has. -/
theorem validate_sound (hkind : v.rules.kind = v.settings.kind) (inv : Inventory)
    (raw : String) (hvalid : (v.validate inv raw).isValid = true) :
    let text := (v.validate inv raw).textOf raw
    Diagnose.syntaxErrors v.parse v.settings.kind v.settings.runtime text = [] ∧
      v.rules.check v.parse inv v.settings.primaryPath text = [] ∧
      (∀ s ∈ Import.importedNames v.parse v.settings.kind v.settings.primaryPath text,
        s.name ∈ inv.names ∧
          v.rules.storyNames.covers (Import.localExports text) s.name = false) ∧
      (v.validate inv raw).errors = [] := by
  intro text
  obtain ⟨hclean, himports⟩ := v.textOf_of_isValid hvalid
  obtain ⟨-, source, warnings, -, -, hverdict⟩ := v.validate_of_isValid hvalid
  refine ⟨hclean, himports, ?_, by rw [hverdict]; rfl⟩
  rw [← hkind]
  exact (v.rules.check_eq_nil_iff v.parse inv v.settings.primaryPath _).1 himports

end Validator

namespace CutOffStory

/-- The inventory of the component that the story imports. -/
def inventory : Inventory := .ofNames "ui" ["B"]

theorem names_inventory : inventory.names = ["B"] :=
  Inventory.names_ofNames "ui" (List.nodup_singleton "B")

theorem ofSettings_eq_validator : Validator.ofSettings parser settings = .ok validator :=
  Validator.ofSettings_eq_withUsualNames rfl NamePatterns.compileWith_compile

theorem importErrors_importLine : validator.importErrors inventory importLine = [] := by
  have himported : Import.importedNames parser .tsx "ui" importLine = [⟨"B", 1, 10⟩] := by
    decide
  have hadmitted : Import.StoryNames.usual.covers (Import.localExports importLine) "B" =
      false := by decide
  apply (Import.Rules.check_eq_nil_iff _ _ _ _ _).2
  intro s hs
  have hs : s = ⟨"B", 1, 10⟩ := by
    rw [← List.mem_singleton, ← himported]
    exact hs
  rw [hs, names_inventory]
  exact ⟨List.mem_singleton_self _, hadmitted⟩

/-- The story is accepted without the line that breaks off. -/
theorem validate_raw :
    validator.validate inventory raw =
      .valid ["Auto-fixed syntax (truncation)"] (some importLine) := by
  obtain ⟨hcontent, -, hcycle, hend⟩ := course_of_raw
  have hclean : validator.syntaxErrors (validator.cycle raw).source = [] := by
    rw [hcycle]
    exact hend
  have hchanged : importLine ≠ raw := by decide
  rw [validator.validate_of_cycle_clean inventory rfl hcontent hclean, hcycle,
    Validator.judgeImports, importErrors_importLine]
  simp only [if_neg hchanged]
  rfl

theorem isValid_raw : (validator.validate inventory raw).isValid = true := by
  rw [validate_raw]
  rfl

theorem textOf_raw : (validator.validate inventory raw).textOf raw = importLine := by
  rw [validate_raw]
  rfl

theorem validate_sound_raw :
    Validator.ofSettings parser settings = .ok validator ∧
      validator.rules.kind = validator.settings.kind ∧
      (validator.validate inventory raw).isValid = true ∧
      Diagnose.syntaxErrors parser .tsx none importLine = [] ∧
      validator.rules.check parser inventory "ui" importLine = [] ∧
      (validator.validate inventory raw).errors = [] := by
  have hkind : validator.rules.kind = validator.settings.kind := rfl
  obtain ⟨hclean, himports, -, herrors⟩ :=
    validator.validate_sound hkind inventory raw isValid_raw
  rw [textOf_raw] at hclean himports
  exact ⟨ofSettings_eq_validator, hkind, isValid_raw, hclean, himports, herrors⟩

end CutOffStory

namespace Validator

variable (v : Validator)

/-- A text with content that passes both checks is accepted as it stands. -/
theorem validate_of_clean {inv : Inventory} {text : String}
    (hcontent : Diagnose.hasContent v.parse v.settings.kind text = true)
    (hclean : v.syntaxErrors text = []) (himports : v.importErrors inv text = []) :
    v.validate inv text = .valid [] none := by
  rw [v.validate_of_hasContent inv hcontent]
  simp only [v.textAfter_of_clean hclean, v.passesWithin_of_clean hclean, hclean, ↓reduceIte,
    judgeImports, himports]
  rfl

/-- What becomes of an accepted text that is validated again: it is accepted as it stands
if it has content, and rejected for want of content otherwise.  A text that was accepted
without repair always has content. -/
theorem validate_textOf (inv : Inventory) (raw : String)
    (hvalid : (v.validate inv raw).isValid = true) :
    let text := (v.validate inv raw).textOf raw
    (v.validate inv text = .valid [] none ↔
        Diagnose.hasContent v.parse v.settings.kind text = true) ∧
      (Diagnose.hasContent v.parse v.settings.kind text = false →
        v.validate inv text =
          .failed ["Line 1: No JSX content or import statements found"] []) ∧
      ((v.validate inv raw).fixedCode = none →
        Diagnose.hasContent v.parse v.settings.kind text = true) := by
  obtain ⟨hclean, himports⟩ := v.textOf_of_isValid hvalid
  refine ⟨⟨?_, fun hcontent => v.validate_of_clean hcontent hclean himports⟩, ?_, ?_⟩
  · intro hagain
    have hvalidAgain : (v.validate inv ((v.validate inv raw).textOf raw)).isValid = true := by
      rw [hagain]
      rfl
    exact (v.validate_of_isValid hvalidAgain).1
  · intro hempty
    rw [v.validate_of_not_hasContent inv hempty]
    rfl
  · intro hunchanged
    rw [Verdict.textOf, hunchanged]
    exact (v.validate_of_isValid hvalid).1

end Validator

namespace CutOffStory

theorem validate_textOf_raw :
    (validator.validate inventory raw).isValid = true ∧
      validator.validate inventory importLine = .valid [] none := by
  have hcontent : Diagnose.hasContent parser .tsx importLine = true := by decide +kernel
  obtain ⟨hagain, -, -⟩ := validator.validate_textOf inventory raw isValid_raw
  rw [textOf_raw] at hagain
  exact ⟨isValid_raw, hagain.2 hcontent⟩

/-- A line that breaks off in its tag is accepted with nothing left of it, and what is left
is rejected: acceptance does not carry over to the accepted text. -/
theorem validate_cutLine_not_accepted_again :
    validator.validate .empty cutLine =
        .valid ["Auto-fixed syntax (truncation)"] (some "") ∧
      validator.validate .empty "" =
        .failed ["Line 1: No JSX content or import statements found"] [] := by
  have hcontent : Diagnose.hasContent parser .tsx cutLine = true := by decide +kernel
  have herrors : validator.syntaxErrors cutLine = [fault 1] := by decide +kernel
  have hcycle : validator.cycle cutLine = { source := "", applied := ["truncation"] } := by
    have hfaulty : validator.syntaxErrors cutLine ≠ [] := by simp [herrors]
    rw [validator.cycle_of_faulty hfaulty, herrors]
    decide +kernel
  have hclean : validator.syntaxErrors (validator.cycle cutLine).source = [] := by
    rw [hcycle]
    decide +kernel
  have himports : validator.importErrors .empty "" = [] := rfl
  have hchanged : "" ≠ cutLine := by decide
  constructor
  · rw [validator.validate_of_cycle_clean .empty rfl hcontent hclean, hcycle,
      Validator.judgeImports, himports]
    simp only [if_neg hchanged]
    rfl
  · have hempty : Diagnose.hasContent parser .tsx "" = false := rfl
    rw [validator.validate_of_not_hasContent .empty hempty]
    rfl

end CutOffStory

end StoryMend
