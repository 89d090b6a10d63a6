import StoryMend.Proofs.Diagnose
import StoryMend.Repair.Engine

/-!
What a cycle of repair reports.  A pass that changes the text leaves its name in the
report, so a report without names belongs to a text that was not touched.
-/

namespace StoryMend.Repair.Engine

variable (e : Engine) (diagnostics : List Diagnostic)

/-- A pass leaves a report as it is, or it changes the text and adds its name. -/
theorem step_cases (r : Report) (p : Pass) :
    e.step diagnostics r p = r ∨
      ((e.step diagnostics r p).source ≠ r.source ∧
        (e.step diagnostics r p).source = p.apply e.parse e.kind r.source ∧
        (e.step diagnostics r p).applied = r.applied ++ [p.name]) := by
  unfold step
  by_cases hcalled : diagnostics.any p.isCalledBy = true
  · by_cases hsame : p.apply e.parse e.kind r.source = r.source
    · exact Or.inl (by simp [hcalled, hsame])
    · exact Or.inr (by simp [hcalled, hsame])
  · exact Or.inl (by simp [hcalled])

/-- A pass that is called is applied. -/
theorem step_source_of_called {p : Pass} (hcalled : diagnostics.any p.isCalledBy = true)
    (r : Report) : (e.step diagnostics r p).source = p.apply e.parse e.kind r.source := by
  rw [step, if_pos hcalled]
  by_cases hsame : p.apply e.parse e.kind r.source = r.source
  · simp [hsame]
  · simp [hsame]

/-- Passes add names of theirs to a report, in their order; if they add none, they leave
its text alone. -/
theorem foldl_step_extends (ps : List Pass) (r : Report) :
    ∃ names, (ps.foldl (e.step diagnostics) r).applied = r.applied ++ names ∧
      names.Sublist (ps.map Pass.name) ∧
      (names = [] → (ps.foldl (e.step diagnostics) r).source = r.source) := by
  induction ps generalizing r with
  | nil => exact ⟨[], by simp, List.Sublist.slnil, fun _ => rfl⟩
  | cons p rest ih =>
      obtain ⟨names, happlied, hnames, hsource⟩ := ih (e.step diagnostics r p)
      rcases e.step_cases diagnostics r p with hsame | ⟨-, -, hname⟩
      · rw [hsame] at happlied hsource
        refine ⟨names, by simpa [hsame] using happlied, hnames.cons p.name, ?_⟩
        simpa [hsame] using hsource
      · refine ⟨p.name :: names, ?_, hnames.cons_cons p.name, ?_⟩
        · rw [List.foldl_cons, happlied, hname, List.append_assoc]
          rfl
        · exact fun hnil => absurd hnil (List.cons_ne_nil _ _)

/-- A cycle reports passes of its engine, each once and in their order. -/
theorem run_applied_sublist (source : String) :
    (e.run source diagnostics).applied.Sublist e.passNames := by
  obtain ⟨names, happlied, hnames, -⟩ := e.foldl_step_extends diagnostics e.passes { source }
  rw [run, happlied]
  exact hnames

/-- A cycle that reports no pass gives its text back. -/
theorem run_source_of_applied_eq_nil {source : String}
    (hnone : (e.run source diagnostics).applied = []) :
    (e.run source diagnostics).source = source := by
  obtain ⟨names, happlied, -, hsource⟩ := e.foldl_step_extends diagnostics e.passes { source }
  apply hsource
  simpa [run, happlied] using hnone

/-- Whether some diagnostic is about the structure of a source. -/
def IsFaulty (diagnostics : List Diagnostic) : Prop :=
  ∃ d ∈ diagnostics, Diagnose.IsStructural d

variable {diagnostics}

/-- Every pass but the import of the runtime is called exactly if there is a fault. -/
theorem any_isCalledBy_iff {p : Pass} (hp : p ∈ [Pass.truncation, .braces, .strings, .tags]) :
    diagnostics.any p.isCalledBy = true ↔ IsFaulty diagnostics := by
  have hcalls : ∀ d, p.isCalledBy d = true ↔ Diagnose.IsStructural d := by
    intro d
    simp only [List.mem_cons, List.not_mem_nil, or_false] at hp
    rcases hp with rfl | rfl | rfl | rfl <;> exact List.isPrefixOf_iff_prefix
  simp only [List.any_eq_true, hcalls, IsFaulty]

/-- What a cycle has made of a text when the passes that close things have their turn. -/
def beforeClosing (diagnostics : List Diagnostic) (source : String) : String :=
  ((e.runtime.map Pass.runtimeImport).toList.foldl (e.step diagnostics)
    (e.step diagnostics { source } .truncation)).source

/-- A cycle for a fault closes braces, strings and tags, in this order. -/
theorem IsFaulty.toList_run_source (hfaulty : IsFaulty diagnostics) (source : String) :
    (e.run source diagnostics).source.toList =
      reconcileTags (closeStrings (balanceBraces (e.beforeClosing diagnostics source).toList)) := by
  have hcalled {p : Pass} (hp : p ∈ [Pass.truncation, .braces, .strings, .tags]) (r : Report) :
      (e.step diagnostics r p).source = p.apply e.parse e.kind r.source :=
    e.step_source_of_called diagnostics ((any_isCalledBy_iff hp).2 hfaulty) r
  rw [run, passes, List.foldl_append, List.foldl_append]
  simp only [List.foldl_cons, List.foldl_nil]
  rw [hcalled (p := .tags) (by simp), hcalled (p := .strings) (by simp),
    hcalled (p := .braces) (by simp), ← beforeClosing]
  simp only [Pass.apply, String.toList_ofList]

end StoryMend.Repair.Engine
