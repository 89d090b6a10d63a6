import StoryMend.Proofs.Validator.Iteration

/-!
The shape of verdicts.  The fields of a verdict depend on each other: which combinations
occur is told by `Verdict.WellFormed`, and the main statement is that validation gives no
other.  What ties warnings to repaired texts is that a text whose syntax errors are gone
is not the text that had them.
-/

namespace StoryMend

/-- No element is left twice when repeated ones are dropped. -/
theorem nodup_eraseDups {α : Type} [BEq α] [LawfulBEq α] : (l : List α) → l.eraseDups.Nodup
  | [] => by simp
  | a :: rest => by
      rw [List.eraseDups_cons, List.nodup_cons]
      refine ⟨?_, nodup_eraseDups (rest.filter (!· == a))⟩
      simp [List.mem_eraseDups]
termination_by l => l.length
decreasing_by exact Nat.lt_succ_of_le (List.length_filter_le _ _)

namespace Diagnostic

/-- Diagnostics are told by their texts, each once, where it first appears. -/
theorem renderAll_eq (ds : List Diagnostic) : renderAll ds = (ds.map render).eraseDups := by
  have hfold : ∀ texts : List String,
      (ds.foldl (fun texts d => if d.render ∈ texts then texts else d.render :: texts)
        texts).reverse = Validator.addNames texts.reverse (ds.map render) := by
    induction ds with
    | nil => exact fun texts => rfl
    | cons d rest ih =>
        intro texts
        rw [List.foldl_cons, ih, List.map_cons, Validator.addNames, Validator.addNames,
          List.foldl_cons]
        by_cases hmem : d.render ∈ texts <;> simp [hmem]
  rw [renderAll, hfold [], List.reverse_nil, Validator.addNames_nil]

theorem renderAll_nodup (ds : List Diagnostic) : (renderAll ds).Nodup := by
  rw [renderAll_eq]
  exact nodup_eraseDups _

/-- Where there are diagnostics, there are texts. -/
theorem renderAll_ne_nil {ds : List Diagnostic} (hds : ds ≠ []) : renderAll ds ≠ [] := by
  obtain ⟨d, rest, rfl⟩ := List.exists_cons_of_ne_nil hds
  have hmem : d.render ∈ renderAll (d :: rest) := by
    rw [renderAll_eq, List.mem_eraseDups]
    simp
  exact List.ne_nil_of_mem hmem

end Diagnostic

/-- The combinations of fields that a verdict of a validator on the text `raw` may have. -/
structure Verdict.WellFormed (v : Validator) (inv : Inventory) (raw : String)
    (verdict : Verdict) : Prop where
  isValid_iff : verdict.isValid = true ↔ verdict.errors = []
  errors_nodup : verdict.errors.Nodup
  /-- Only an accepted story has a text of its own, and one that differs from the given. -/
  of_fixedCode : ∀ text, verdict.fixedCode = some text → verdict.isValid = true ∧ text ≠ raw
  /-- There is no warning, or one that names some passes of the validator, each once. -/
  warnings_cases : verdict.warnings = [] ∨
    ∃ names, names ≠ [] ∧ names.Nodup ∧ (∀ n ∈ names, n ∈ v.engine.passNames) ∧
      verdict.warnings = ["Auto-fixed syntax (" ++ String.intercalate ", " names ++ ")"]
  /-- An accepted story has a warning exactly if it has a text of its own. -/
  warned_iff_of_isValid :
    verdict.isValid = true → (verdict.warnings ≠ [] ↔ verdict.fixedCode.isSome = true)
  /-- A rejected story has a warning only if repair has cleared away its syntax errors and
  its imports are what is wrong. -/
  of_warned_of_not_isValid : verdict.isValid = false → verdict.warnings ≠ [] →
    v.syntaxErrors raw ≠ [] ∧ ∃ source names,
      v.repair raw (v.syntaxErrors raw) [] v.settings.maxRetries = .ok (source, names) ∧
        v.syntaxErrors source = [] ∧ v.importErrors inv source ≠ [] ∧
        verdict.errors = Diagnostic.renderAll (v.importErrors inv source)

namespace Validator

variable (v : Validator)

/-- The passes that change a text in the plain loop are passes of the validator. -/
theorem mem_passNames_of_mem_passesWithin {raw name : String} {n : Nat}
    (hname : name ∈ v.passesWithin raw n) : name ∈ v.engine.passNames := by
  obtain ⟨i, -, happlied⟩ := List.mem_flatMap.1 hname
  generalize v.textAfter raw i = source at happlied
  by_cases hclean : v.syntaxErrors source = []
  · rw [v.cycle_of_clean hclean] at happlied
    exact absurd happlied List.not_mem_nil
  · rw [v.cycle_of_faulty hclean] at happlied
    exact (v.engine.run_applied_sublist _ source).subset happlied

/-- A warning names the passes that changed a text, each once. -/
theorem repairWarnings_cases (raw : String) (n : Nat) :
    repairWarnings (addNames [] (v.passesWithin raw n)) = [] ∨
      ∃ names, names ≠ [] ∧ names.Nodup ∧ (∀ m ∈ names, m ∈ v.engine.passNames) ∧
        repairWarnings (addNames [] (v.passesWithin raw n)) =
          ["Auto-fixed syntax (" ++ String.intercalate ", " names ++ ")"] := by
  rw [addNames_nil]
  by_cases hnone : (v.passesWithin raw n).eraseDups = []
  · exact Or.inl (by simp [repairWarnings, hnone])
  · refine Or.inr ⟨_, hnone, nodup_eraseDups _, ?_, by simp [repairWarnings, hnone]⟩
    intro m hm
    exact v.mem_passNames_of_mem_passesWithin (List.mem_eraseDups.1 hm)

/-- A loop that has cleared away syntax errors warns exactly if there were any. -/
theorem repairWarnings_ne_nil_iff {raw : String} {n : Nat}
    (hclean : v.syntaxErrors (v.textAfter raw n) = []) :
    repairWarnings (addNames [] (v.passesWithin raw n)) ≠ [] ↔ v.syntaxErrors raw ≠ [] := by
  rw [v.repairWarnings_eq hclean]
  by_cases hraw : v.syntaxErrors raw = [] <;> simp [hraw]

/-- A loop that has cleared away syntax errors has changed the text exactly if there were
any. -/
theorem textAfter_eq_iff {raw : String} {n : Nat}
    (hclean : v.syntaxErrors (v.textAfter raw n) = []) :
    v.textAfter raw n = raw ↔ v.syntaxErrors raw = [] := by
  constructor
  · intro hsame
    rwa [hsame] at hclean
  · exact fun hraw => v.textAfter_of_clean hraw n

/-- A rejection without warnings is well formed, if it names each error once. -/
theorem wellFormed_failed (inv : Inventory) (raw : String) {errors : List String}
    (hne : errors ≠ []) (hnodup : errors.Nodup) :
    (Verdict.failed errors []).WellFormed v inv raw where
  isValid_iff := by simp [Verdict.failed, hne]
  errors_nodup := hnodup
  of_fixedCode := by simp [Verdict.failed]
  warnings_cases := Or.inl rfl
  warned_iff_of_isValid := by simp [Verdict.failed]
  of_warned_of_not_isValid := fun _ hwarned => absurd rfl hwarned

/-- The verdict on the imports of a text that repair has made faultless is well formed. -/
theorem wellFormed_judgeImports (inv : Inventory) {raw : String} {n : Nat}
    (hn : v.settings.maxRetries = n) (hclean : v.syntaxErrors (v.textAfter raw n) = []) :
    (v.judgeImports inv raw (v.textAfter raw n)
      (repairWarnings (addNames [] (v.passesWithin raw n)))).WellFormed v inv raw := by
  have hrepair := v.repair_eq n raw []
  rw [if_pos hclean] at hrepair
  have hsame := v.textAfter_eq_iff hclean
  have hwarned := v.repairWarnings_ne_nil_iff hclean
  unfold judgeImports
  cases himports : v.importErrors inv (v.textAfter raw n) with
  | nil =>
      exact {
        isValid_iff := by simp [Verdict.valid]
        errors_nodup := List.nodup_nil
        of_fixedCode := by
          intro text htext
          simp only [Verdict.valid, Option.ite_none_left_eq_some, Option.some.injEq] at htext
          exact ⟨rfl, htext.2 ▸ htext.1⟩
        warnings_cases := v.repairWarnings_cases raw n
        warned_iff_of_isValid := by
          intro _
          by_cases hraw : v.syntaxErrors raw = []
          · simp [Verdict.valid, hwarned, hsame, hraw]
          · simp [Verdict.valid, hwarned, hsame, hraw]
        of_warned_of_not_isValid := by simp [Verdict.valid] }
  | cons d rest =>
      have hfound : d :: rest ≠ [] := List.cons_ne_nil d rest
      exact {
        isValid_iff := by simp [Verdict.failed, Diagnostic.renderAll_ne_nil hfound]
        errors_nodup := Diagnostic.renderAll_nodup _
        of_fixedCode := by simp [Verdict.failed]
        warnings_cases := v.repairWarnings_cases raw n
        warned_iff_of_isValid := by simp [Verdict.failed]
        of_warned_of_not_isValid := by
          intro _ hsome
          refine ⟨hwarned.1 hsome, _, _, by rw [hn, hrepair], hclean, ?_, ?_⟩
          · rw [himports]
            exact hfound
          · rw [himports]
            rfl }

/-- Every verdict is well formed, whatever the validator, the text and the inventory. -/
theorem validate_wellFormed (inv : Inventory) (raw : String) :
    (v.validate inv raw).WellFormed v inv raw := by
  by_cases hcontent : Diagnose.hasContent v.parse v.settings.kind raw = true
  · rw [v.validate_of_hasContent inv hcontent]
    by_cases hclean : v.syntaxErrors (v.textAfter raw v.settings.maxRetries) = []
    · simp only [if_pos hclean]
      exact v.wellFormed_judgeImports inv rfl hclean
    · simp only [if_neg hclean]
      exact v.wellFormed_failed inv raw (Diagnostic.renderAll_ne_nil hclean)
        (Diagnostic.renderAll_nodup _)
  · rw [v.validate_of_not_hasContent inv (by simpa using hcontent)]
    exact v.wellFormed_failed inv raw (List.cons_ne_nil _ _) (by simp)

end Validator

end StoryMend
