import StoryMend.Proofs.Validator.Acceptance

/-!
How verdicts depend on the budget of repair.  The budget only says how long syntax errors
may last: a text without them is never touched again.  The main statement is that a
validation that has come as far as the imports ends the same with every larger budget.
-/

namespace StoryMend.Validator

variable (v : Validator)

/-- The validator with another budget of repair cycles. -/
def withRetries (n : Nat) : Validator where
  parse := v.parse
  settings := { v.settings with maxRetries := n }
  rules := v.rules
  compiler := v.compiler

/-- A story is rejected for its imports: it has content, and repair leaves it without syntax
errors, but with faulty imports. -/
def RejectedForImports (inv : Inventory) (raw : String) : Prop :=
  Diagnose.hasContent v.parse v.settings.kind raw = true ∧
    ∃ source names,
      v.repair raw (v.syntaxErrors raw) [] v.settings.maxRetries = .ok (source, names) ∧
        v.importErrors inv source ≠ []

/-- The budget of a validator is no matter of its name patterns. -/
theorem ofSettings_withRetries {parse : Parser} {settings : Settings}
    {compiler : Pattern.Compiler} {v : Validator}
    (hv : ofSettings parse settings compiler = .ok v) (m : Nat) :
    ofSettings parse { settings with maxRetries := m } compiler = .ok (v.withRetries m) := by
  obtain ⟨names, hnames, rfl⟩ := ofSettings_eq_ok_iff.1 hv
  exact ofSettings_eq_ok_iff.2 ⟨names, hnames, rfl⟩

@[simp]
theorem maxRetries_withRetries (m : Nat) : (v.withRetries m).settings.maxRetries = m := rfl

/-- The budget is no matter of the plain loop either. -/
@[simp]
theorem textAfter_withRetries (m : Nat) (raw : String) (n : Nat) :
    (v.withRetries m).textAfter raw n = v.textAfter raw n := rfl

@[simp]
theorem passesWithin_withRetries (m : Nat) (raw : String) (n : Nat) :
    (v.withRetries m).passesWithin raw n = v.passesWithin raw n := rfl

theorem textAfter_add (raw : String) (n k : Nat) :
    v.textAfter raw (n + k) = v.textAfter (v.textAfter raw n) k := by
  rw [Nat.add_comm]
  exact Function.iterate_add_apply _ k n raw

theorem passesWithin_add (raw : String) (n k : Nat) :
    v.passesWithin raw (n + k) =
      v.passesWithin raw n ++ v.passesWithin (v.textAfter raw n) k := by
  induction n generalizing raw with
  | zero => simp [passesWithin]
  | succ n ih =>
      rw [Nat.succ_add_eq_add_succ, Nat.add_succ, passesWithin_succ, ih, passesWithin_succ,
        textAfter_succ, List.append_assoc]

/-- Cycles after the one that clears away the last syntax error change nothing. -/
theorem textAfter_of_clean_textAfter {raw : String} {n m : Nat} (hnm : n ≤ m)
    (hclean : v.syntaxErrors (v.textAfter raw n) = []) :
    v.textAfter raw m = v.textAfter raw n := by
  obtain ⟨k, rfl⟩ := Nat.exists_eq_add_of_le hnm
  rw [textAfter_add, v.textAfter_of_clean hclean]

/-- Cycles after the one that clears away the last syntax error report no passes. -/
theorem passesWithin_of_clean_textAfter {raw : String} {n m : Nat} (hnm : n ≤ m)
    (hclean : v.syntaxErrors (v.textAfter raw n) = []) :
    v.passesWithin raw m = v.passesWithin raw n := by
  obtain ⟨k, rfl⟩ := Nat.exists_eq_add_of_le hnm
  rw [passesWithin_add, v.passesWithin_of_clean hclean, List.append_nil]

/-- The verdict on a text with content whose syntax errors are gone when the budget is. -/
theorem validate_of_clean_textAfter (inv : Inventory) {raw : String}
    (hcontent : Diagnose.hasContent v.parse v.settings.kind raw = true)
    (hclean : v.syntaxErrors (v.textAfter raw v.settings.maxRetries) = []) :
    v.validate inv raw =
      v.judgeImports inv raw (v.textAfter raw v.settings.maxRetries)
        (repairWarnings (addNames [] (v.passesWithin raw v.settings.maxRetries))) := by
  rw [v.validate_of_hasContent inv hcontent]
  exact if_pos hclean

/-- A validation whose budget suffices for the syntax errors ends the same with every larger
one. -/
theorem validate_withRetries_of_clean (inv : Inventory) {raw : String} {m : Nat}
    (hm : v.settings.maxRetries ≤ m)
    (hcontent : Diagnose.hasContent v.parse v.settings.kind raw = true)
    (hclean : v.syntaxErrors (v.textAfter raw v.settings.maxRetries) = []) :
    (v.withRetries m).validate inv raw = v.validate inv raw := by
  have htext := v.textAfter_of_clean_textAfter hm hclean
  have hpasses := v.passesWithin_of_clean_textAfter hm hclean
  have hclean' : (v.withRetries m).syntaxErrors
      ((v.withRetries m).textAfter raw (v.withRetries m).settings.maxRetries) = [] := by
    rw [maxRetries_withRetries, textAfter_withRetries, htext]
    exact hclean
  rw [(v.withRetries m).validate_of_clean_textAfter inv hcontent hclean',
    v.validate_of_clean_textAfter inv hcontent hclean, maxRetries_withRetries,
    textAfter_withRetries, passesWithin_withRetries, htext, hpasses]
  rfl

/-- A story that is accepted, or rejected for its imports, has content and no syntax errors
that outlast the budget. -/
theorem clean_textAfter_of_judged {inv : Inventory} {raw : String}
    (hjudged : (v.validate inv raw).isValid = true ∨ v.RejectedForImports inv raw) :
    Diagnose.hasContent v.parse v.settings.kind raw = true ∧
      v.syntaxErrors (v.textAfter raw v.settings.maxRetries) = [] := by
  have hcontent : Diagnose.hasContent v.parse v.settings.kind raw = true := by
    rcases hjudged with hvalid | hrejected
    · exact (v.validate_of_isValid hvalid).1
    · exact hrejected.1
  refine ⟨hcontent, ?_⟩
  by_contra hfaulty
  rcases hjudged with hvalid | ⟨-, source, names, hrepair, -⟩
  · rw [v.validate_of_hasContent inv hcontent] at hvalid
    simp [hfaulty, Verdict.failed] at hvalid
  · rw [v.repair_eq, if_neg hfaulty] at hrepair
    cases hrepair

/-- A story that is rejected for its imports is rejected. -/
theorem isValid_of_rejectedForImports {inv : Inventory} {raw : String}
    (hrejected : v.RejectedForImports inv raw) : (v.validate inv raw).isValid = false := by
  obtain ⟨hcontent, source, names, hrepair, himports⟩ := hrejected
  obtain ⟨d, rest, hfound⟩ := List.exists_cons_of_ne_nil himports
  simp [validate, Diagnose.contentError?, hcontent, hrepair, judgeImports, hfound,
    Verdict.failed]

/-- A larger budget never changes the verdict on an accepted story, nor on one that is
rejected for its imports.  The validator with the larger budget is the one that the same
settings make with that budget in them, whatever compiles their name patterns. -/
theorem validate_of_larger_budget (inv : Inventory) (raw : String) {m : Nat}
    (hm : v.settings.maxRetries ≤ m)
    (hjudged : (v.validate inv raw).isValid = true ∨ v.RejectedForImports inv raw) :
    (v.withRetries m).validate inv raw = v.validate inv raw ∧
      ∀ parse settings compiler, ofSettings parse settings compiler = .ok v →
        ofSettings parse { settings with maxRetries := m } compiler = .ok (v.withRetries m) := by
  obtain ⟨hcontent, hclean⟩ := v.clean_textAfter_of_judged hjudged
  refine ⟨v.validate_withRetries_of_clean inv hm hcontent hclean, ?_⟩
  intro parse settings compiler hv
  exact ofSettings_withRetries hv m

end StoryMend.Validator

namespace StoryMend.CutOffStory

/-- Without components the import of the story is faulty. -/
theorem rejectedForImports_raw : validator.RejectedForImports .empty raw := by
  obtain ⟨hcontent, -, hcycle, hclean⟩ := course_of_raw
  have hend : validator.textAfter raw 1 = importLine := by
    rw [Validator.textAfter_succ, hcycle, Validator.textAfter_zero]
  have hrepair := validator.repair_eq 1 raw []
  rw [hend, if_pos hclean] at hrepair
  refine ⟨hcontent, importLine, _, hrepair, fun hnone => ?_⟩
  have himported : (⟨"B", 1, 10⟩ : Import.Specifier) ∈
      Import.importedNames parser .tsx "ui" importLine := by decide
  have hknown := ((Import.Rules.check_eq_nil_iff _ _ _ _ _).1 hnone _ himported).1
  simp [Inventory.empty, Inventory.names, Inventory.toList] at hknown

theorem validate_raw_of_larger_budget :
    validator.settings.maxRetries ≤ 5 ∧
      (validator.validate inventory raw).isValid = true ∧
      (validator.withRetries 5).validate inventory raw =
        .valid ["Auto-fixed syntax (truncation)"] (some importLine) ∧
      validator.RejectedForImports .empty raw ∧
      ((validator.withRetries 5).validate .empty raw).isValid = false ∧
      Validator.ofSettings parser { settings with maxRetries := 5 } =
        .ok (validator.withRetries 5) := by
  have hbudget : validator.settings.maxRetries ≤ 5 := by decide
  obtain ⟨haccepted, hmade⟩ :=
    validator.validate_of_larger_budget inventory raw hbudget (Or.inl isValid_raw)
  obtain ⟨hrejected, -⟩ :=
    validator.validate_of_larger_budget .empty raw hbudget (Or.inr rejectedForImports_raw)
  refine ⟨hbudget, isValid_raw, haccepted.trans validate_raw, rejectedForImports_raw, ?_, ?_⟩
  · rw [hrejected, validator.isValid_of_rejectedForImports rejectedForImports_raw]
  · exact hmade parser settings Pattern.compile ofSettings_eq_validator

end StoryMend.CutOffStory
