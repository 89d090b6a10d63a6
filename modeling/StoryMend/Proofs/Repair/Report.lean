import StoryMend.Proofs.Repair.Closing
import StoryMend.Proofs.Repair.Preservation
import StoryMend.Proofs.Repair.RuntimeOnce

/-!
A reported change is a real change.  All passes but the first one make a text longer if they
change it.  The first one drops a line, and no later pass builds that line again: the first
line that a later pass adds to what is left is none of the text that was cut off.  It would be
an import of the runtime, which the text lacks, or closing tags before a line that has none, or
it would be the last line and not be cut off.  The main statement is `changed_iff`.
-/

namespace StoryMend.Repair

open Text

variable {s t : List Char}

/-! ### What is left of a text, and the text -/

namespace IsCutFrom

variable (hcut : IsCutFrom t s)

include hcut

/-- A line of what is left agrees with the line of the text but for the blanks at the end. -/
theorem trimEnd_eq_trimEnd {i : Nat} {line other : List Char} (hline : (lines t)[i]? = some line)
    (hother : (lines s)[i]? = some other) : trimEnd other = trimEnd line := by
  have hsame := hcut.getElem?_lines hline
  rw [hother, Option.map_some] at hsame
  exact Option.some.inj hsame

/-- The text has no closing tags where a line of what is left has none. -/
theorem not_closesBefore {u : List Char} {i : Nat} (hi : (lines u)[i]? = (lines t)[i]?) :
    ¬ ClosesBefore u s i := by
  intro hcloses
  obtain ⟨line, hline, hplace⟩ := hcloses.exists_line
  obtain ⟨closing, hclosing, hhead, htrim⟩ := hcloses.exists_closing
  rw [hi] at hline
  have hsame := hcut.trimEnd_eq_trimEnd hline hclosing
  rw [htrim] at hsame
  -- The line would start with the closing tags.
  obtain ⟨blanks, -, hsplit⟩ := exists_trimEnd_append line
  refine head?_of_isPlace hplace (head?_closeLine (by decide) ?_)
  rw [hsplit, ← hsame]
  obtain ⟨more, rfl⟩ := List.head?_eq_some_iff.1 hhead
  rfl

/-- Where the text has the statement of a module as a line, what is left imports the module, if
it has so many lines. -/
theorem importsModule_of_getElem? {moduleName : String} {i : Nat} (hi : i < (lines t).length)
    (hline : (lines s)[i]? = some (Runtime.ofModule moduleName).statement.toList) :
    Import.importsModule moduleName.toList t = true := by
  have hsame := hcut.trimEnd_eq_trimEnd (List.getElem?_eq_getElem hi) hline
  obtain ⟨front, rest, hlines⟩ := List.append_of_mem (List.getElem_mem hi)
  obtain ⟨blanks, -, hsplit⟩ := exists_trimEnd_append (lines t)[i]
  rw [Import.trimEnd_statement] at hsame
  rw [← hsame] at hsplit
  refine Import.importsModule_eq_true_iff.2 ⟨front, _, rest, hlines, ?_⟩
  rw [hsplit, unlines_append_cons]
  exact Import.startsImportOf_statement moduleName _

/-- What was cut off does not come back when everything is closed. -/
theorem closeAll_ne (hchanged : trimTruncated s ≠ s) : closeAll t ≠ s := by
  intro hsame
  rcases closeAll_cases hcut.trimEnd_eq with hwhole | ⟨w, -, hcount⟩ | ⟨i, hcloses⟩
  · rw [hsame] at hwhole
    exact hchanged hwhole
  · rw [hsame] at hcount
    exact absurd hcut.count_lt (by omega)
  · rw [hsame] at hcloses
    exact hcut.not_closesBefore rfl hcloses

end IsCutFrom

/-- What follows the start of the last line holds something. -/
theorem isBlankText_of_endsLine {before after : List Char} (hplace : EndsLine before)
    (htrim : trimEnd (before ++ after) = before ++ after) (hne : before ++ after ≠ []) :
    isBlankText after = false := by
  by_contra hblank
  obtain rfl := eq_nil_of_trimEnd_append htrim ((Bool.not_eq_false _).mp hblank)
  rw [List.append_nil] at htrim hne
  rcases hplace with rfl | ⟨front, rfl⟩
  · exact hne rfl
  · exact absurd (eq_nil_of_trimEnd_append htrim rfl) (List.cons_ne_nil _ _)

/-- The statement is no line that strings are closed in or that closing tags go before. -/
theorem react_statement_line :
    '\n' ∉ Runtime.react.statement.toList ∧
      closeLine Runtime.react.statement.toList = Runtime.react.statement.toList ∧
      isExportLine Runtime.react.statement.toList = false ∧
      isObjectEnd Runtime.react.statement.toList = false := by
  decide +kernel

/-- Nor does it with the import of the runtime before some line, if the import is missing. -/
theorem IsCutFrom.closeAll_statement_ne {before after : List Char}
    (hcut : IsCutFrom (before ++ after) s) (hchanged : trimTruncated s ≠ s)
    (hplace : EndsLine before)
    (hlacks : Import.importsModule "react".toList (before ++ after) = false) :
    closeAll (before ++ (Runtime.react.statement.toList ++ ['\n']) ++ after) ≠ s := by
  intro hsame
  obtain ⟨hone, hquotes, hexport, hobject⟩ := react_statement_line
  have himports {i : Nat} (hi : i < (lines (before ++ after)).length) :
      (lines s)[i]? ≠ some Runtime.react.statement.toList := by
    intro hline
    have hfound := hcut.importsModule_of_getElem? hi hline
    rw [hlacks] at hfound
    cases hfound
  generalize Runtime.react.statement.toList = statement at *
  have htrim : trimEnd (before ++ (statement ++ ['\n']) ++ after) =
      before ++ (statement ++ ['\n']) ++ after := by
    have hsome := isBlankText_of_endsLine hplace hcut.trimEnd_eq hcut.ne_nil
    have hleft := hcut.trimEnd_eq
    rw [trimEnd_append_of_not_blank before hsome, List.append_right_inj] at hleft
    rw [trimEnd_append_of_not_blank _ hsome, hleft]
  have hwithout := hplace.lines_append after
  have hwith := hplace.lines_insert hone after
  have hmany := List.length_pos_iff.2 (lines_ne_nil after)
  have hline : (lines (before ++ (statement ++ ['\n']) ++ after))[(lines before).dropLast.length]? =
      some statement := by
    rw [hwith, List.getElem?_append_right le_rfl, Nat.sub_self, List.getElem?_cons_zero]
  have hlater : (lines before).dropLast.length + 1 <
      (lines (before ++ (statement ++ ['\n']) ++ after)).length := by
    rw [hwith, List.length_append, List.length_cons]
    omega
  rcases getElem?_lines_closeAll htrim hline hlater with hwhole | hstays | ⟨i, hi, hcloses⟩
  · rw [hsame] at hwhole
    exact hchanged hwhole
  · -- The text would have the statement, which is none of the lines of what is left.
    rw [hsame, hquotes] at hstays
    refine himports ?_ hstays
    rw [hwithout, List.length_append]
    omega
  · rw [hsame] at hcloses
    rcases Nat.lt_or_eq_of_le hi with hi | rfl
    · refine hcut.not_closesBefore ?_ hcloses
      rw [hwith, hwithout, List.getElem?_append_left hi, List.getElem?_append_left hi]
    · -- Closing tags do not go before the statement.
      obtain ⟨line, hget, hplace⟩ := hcloses.exists_line
      rw [hline] at hget
      obtain rfl := Option.some.inj hget
      rw [hquotes, hexport, hobject] at hplace
      exact hplace.elim Bool.false_ne_true Bool.false_ne_true

/-! ### Cycles -/

theorem closeAll_nil : closeAll [] = [] := by decide +kernel

/-- The import of the runtime on its own is closed and was not cut off. -/
theorem closeAll_react_statement :
    closeAll (Runtime.react.statement.toList ++ ['\n']) =
        Runtime.react.statement.toList ++ ['\n'] ∧
      trimTruncated (Runtime.react.statement.toList ++ ['\n']) =
        Runtime.react.statement.toList ++ ['\n'] := by
  decide +kernel

namespace Engine

variable (e : Engine) (diagnostics : List Diagnostic) (source : String)

/-- What a cycle for a fault has made of a text when it closes things: what the first pass has
left, with the import of the runtime if that was missing. -/
theorem IsFaulty.beforeClosing_cases (hfaulty : IsFaulty diagnostics)
    (hruntime : e.runtime = none ∨ e.runtime = some .react) :
    (e.beforeClosing diagnostics source).toList = trimTruncated source.toList ∨
      ∃ before after, trimTruncated source.toList = before ++ after ∧ EndsLine before ∧
        Import.importsModule "react".toList (before ++ after) = false ∧
        (e.beforeClosing diagnostics source).toList =
          before ++ (Runtime.react.statement.toList ++ ['\n']) ++ after := by
  have hfirst : (e.step diagnostics { source } .truncation).source =
      String.ofList (trimTruncated source.toList) :=
    e.step_source_of_called diagnostics ((any_isCalledBy_iff (by simp)).2 hfaulty) _
  rw [beforeClosing]
  rcases hruntime with hnone | hreact
  · rw [hnone]
    exact Or.inl (by rw [Option.map_none, Option.toList_none, List.foldl_nil, hfirst,
      String.toList_ofList])
  · rw [hreact, Option.map_some, Option.toList_some, List.foldl_cons, List.foldl_nil]
    rcases e.step_cases diagnostics (e.step diagnostics { source } .truncation)
      (.runtimeImport .react) with hsame | ⟨hchanged, hsource, -⟩
    · rw [hsame, hfirst]
      exact Or.inl String.toList_ofList
    · rw [hsource, hfirst] at hchanged ⊢
      rcases insertRuntimeImport_cases e.parse .react e.kind
        (String.ofList (trimTruncated source.toList)) with
        ⟨-, hsame⟩ | ⟨hlacks, before, after, hparts, hplace, hline⟩
      · exact absurd hsame hchanged
      · rw [String.toList_ofList] at hparts
        refine Or.inr ⟨before, after, hparts, hplace, ?_, hline⟩
        rw [Diagnose.lacksRuntime, String.toList_ofList, hparts, Bool.and_eq_true] at hlacks
        exact (Bool.not_eq_true' _).mp hlacks.2

/-- The first pass has something to do only in a cycle for a fault, in a text that was cut
off. -/
theorem isFaulty_of_step_truncation_ne
    (hcut : e.step diagnostics { source } .truncation ≠ { source }) :
    IsFaulty diagnostics ∧ trimTruncated source.toList ≠ source.toList := by
  constructor
  · by_contra hnone
    rw [← any_isCalledBy_iff (p := .truncation) (by simp)] at hnone
    exact hcut (by rw [step, if_neg hnone])
  · intro hkept
    rcases e.step_cases diagnostics { source } .truncation with hsame | ⟨hchanged, hsource, -⟩
    · exact hcut hsame
    · refine hchanged (hsource.trans ?_)
      rw [Pass.apply, hkept, String.ofList_toList]

/-- A cycle for a fault does not bring back what was cut off. -/
theorem IsFaulty.run_source_ne (hfaulty : IsFaulty diagnostics)
    (hruntime : e.runtime = none ∨ e.runtime = some .react)
    (hchanged : trimTruncated source.toList ≠ source.toList) :
    (e.run source diagnostics).source ≠ source := by
  intro hsame
  have hrun := hfaulty.toList_run_source (e := e) source
  rw [hsame, ← closeAll] at hrun
  have hbefore := hfaulty.beforeClosing_cases e diagnostics source hruntime
  generalize source.toList = s at hchanged hrun hbefore
  by_cases hnil : trimTruncated s = []
  · rcases hbefore with hleft | ⟨before, after, hparts, -, -, hleft⟩
    · rw [hleft, hnil] at hrun
      rw [hrun, closeAll_nil] at hchanged
      exact hchanged rfl
    · obtain ⟨rfl, rfl⟩ := List.append_eq_nil_iff.1 (hparts.symm.trans hnil)
      rw [hleft, List.nil_append, List.append_nil, closeAll_react_statement.1] at hrun
      rw [hrun] at hchanged
      exact hchanged closeAll_react_statement.2
  · have hcut := isCutFrom_trimTruncated hchanged hnil
    rcases hbefore with hleft | ⟨before, after, hparts, hplace, hlacks, hleft⟩
    · rw [hleft] at hrun
      exact hcut.closeAll_ne hchanged hrun.symm
    · rw [hleft] at hrun
      rw [hparts] at hcut
      exact hcut.closeAll_statement_ne hchanged hplace hlacks hrun.symm

/-- A later pass makes a text longer if it changes it. -/
theorem step_grows {p : Pass} (hp : p ∈ e.laterPasses) (r : Report) :
    e.step diagnostics r p = r ∨
      r.source.toList.length < (e.step diagnostics r p).source.toList.length := by
  rcases e.step_cases diagnostics r p with hsame | ⟨hchanged, hsource, -⟩
  · exact Or.inl hsame
  · right
    have hsub : r.source.toList.Sublist (e.step diagnostics r p).source.toList := by
      rw [hsource]
      exact (e.apply_extends hp (Knows.self r.source.toList)).sublist
    refine lt_of_le_of_ne hsub.length_le fun hlength => hchanged ?_
    exact String.toList_inj.1 (hsub.eq_of_length hlength).symm

/-- Later passes, one after another, leave a report as it is or make its text longer. -/
theorem foldl_step_grows {ps : List Pass} (hps : ∀ p ∈ ps, p ∈ e.laterPasses) (r : Report) :
    ps.foldl (e.step diagnostics) r = r ∨
      r.source.toList.length < (ps.foldl (e.step diagnostics) r).source.toList.length := by
  induction ps generalizing r with
  | nil => exact Or.inl rfl
  | cons p rest ih =>
      rw [List.forall_mem_cons] at hps
      rw [List.foldl_cons]
      rcases e.step_grows diagnostics hps.1 r with hsame | hlonger
      · rw [hsame]
        exact ih hps.2 r
      · rcases ih hps.2 (e.step diagnostics r p) with hsame | hmore
        · rw [hsame]
          exact Or.inr hlonger
        · exact Or.inr (hlonger.trans hmore)

/-- A reported change is a real change.  A cycle without a runtime, or with the usual one,
reports a change exactly if its text differs from the source. -/
theorem changed_iff (hruntime : e.runtime = none ∨ e.runtime = some .react) :
    (e.run source diagnostics).changed = true ↔ (e.run source diagnostics).source ≠ source := by
  have happlied : (e.run source diagnostics).changed = true ↔
      (e.run source diagnostics).applied ≠ [] := by
    simp [Report.changed]
  rw [happlied]
  constructor
  · intro hsome
    by_cases hcut : e.step diagnostics { source } .truncation = { source }
    · -- Only passes that make a text longer were applied.
      have hrun : e.run source diagnostics =
          e.laterPasses.foldl (e.step diagnostics) { source } := by
        conv_rhs => rw [← hcut]
        rfl
      rcases e.foldl_step_grows diagnostics (fun p hp => hp) { source } with hsame | hlonger
      · rw [hrun, hsame] at hsome
        exact absurd rfl hsome
      · rw [← hrun] at hlonger
        intro hsame
        rw [hsame] at hlonger
        exact absurd hlonger (lt_irrefl _)
    · obtain ⟨hfaulty, htruncated⟩ := e.isFaulty_of_step_truncation_ne diagnostics source hcut
      exact hfaulty.run_source_ne e diagnostics source hruntime htruncated
  · intro hchanged hnone
    exact hchanged (e.run_source_of_applied_eq_nil diagnostics hnone)

end Engine

namespace CutObject

/-- A chain of passes with the usual runtime and without a parser. -/
def engine : Engine := { OpenObject.engine with runtime := some .react }

/-- An object that stops in a call. -/
def source : String := "const card = \x7b\n  view: render(<Card />"

theorem changed_source :
    (engine.runtime = none ∨ engine.runtime = some .react) ∧
      (engine.run source [OpenObject.fault]).applied = ["truncation", "braces"] ∧
      (engine.run source [OpenObject.fault]).source ≠ source :=
  have hruntime : engine.runtime = none ∨ engine.runtime = some .react := Or.inr rfl
  have happlied : (engine.run source [OpenObject.fault]).applied = ["truncation", "braces"] := by
    decide +kernel
  have hchanged : (engine.run source [OpenObject.fault]).changed = true := by
    rw [Report.changed, happlied]
    rfl
  ⟨hruntime, happlied, (engine.changed_iff [OpenObject.fault] source hruntime).1 hchanged⟩

end CutObject

end StoryMend.Repair
