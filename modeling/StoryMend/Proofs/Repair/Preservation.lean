import StoryMend.Proofs.Repair.Cycle
import StoryMend.Proofs.Repair.Passes
import StoryMend.Proofs.Repair.Truncation

/-!
What a cycle of repair preserves.  The first pass may drop the last line that holds
something; all later passes only add to what is left.  The main statement puts the two
together for a whole cycle, whatever its diagnostics are.
-/

namespace StoryMend.Repair.Engine

open Text

variable (e : Engine) (diagnostics : List Diagnostic)

/-- The passes after the first one. -/
def laterPasses : List Pass :=
  (e.runtime.map Pass.runtimeImport).toList ++ [.braces, .strings, .tags]

theorem truncation_not_mem_laterPasses : "truncation" ∉ e.laterPasses.map Pass.name := by
  cases hruntime : e.runtime <;> simp [laterPasses, hruntime, Pass.name]

/-- A later pass only adds to a text. -/
theorem apply_extends {text : List Char} {source : String} {p : Pass} (hp : p ∈ e.laterPasses)
    (hknows : Knows e.runtime text source.toList) :
    Extends e.runtime (IsTagName e.runtime text) source.toList
      (p.apply e.parse e.kind source).toList := by
  simp only [laterPasses, List.mem_append, Option.mem_toList,
    Option.map_eq_some_iff, List.mem_cons, List.not_mem_nil, or_false] at hp
  rcases hp with ⟨r, hr, rfl⟩ | rfl | rfl | rfl
  · rw [hr]
    exact insertRuntimeImport_extends e.parse r e.kind source
  · simpa [Pass.apply] using balanceBraces_extends source.toList
  · simpa [Pass.apply] using closeStrings_extends source.toList
  · have hnames : ∀ name ∈ (openTags source.toList).names, IsTagName e.runtime text name :=
      fun name hname => hknows name (openTags_names hname).1 (openTags_names hname).2
    simpa [Pass.apply] using reconcileTags_extends hnames

/-- Later passes, one after another, only add to a text. -/
theorem foldl_step_only_adds {text : List Char} {ps : List Pass} {r : Report}
    (hps : ∀ p ∈ ps, p ∈ e.laterPasses)
    (h : Extends e.runtime (IsTagName e.runtime text) text r.source.toList) :
    Extends e.runtime (IsTagName e.runtime text) text
      (ps.foldl (e.step diagnostics) r).source.toList := by
  induction ps generalizing r with
  | nil => exact h
  | cons p rest ih =>
      rw [List.forall_mem_cons] at hps
      apply ih hps.2
      rcases e.step_cases diagnostics r p with hsame | ⟨-, hsource, -⟩
      · rwa [hsame]
      · rw [hsource]
        exact h.trans (e.apply_extends hps.1 (h.knows (Knows.self text)))

/-- The first pass leaves a text alone, or drops its last line that is not blank and says
so. -/
theorem step_truncation_cases (source : String) :
    e.step diagnostics { source } .truncation = { source } ∨
      ((e.step diagnostics { source } .truncation).applied = ["truncation"] ∧
        (e.step diagnostics { source } .truncation).source.toList =
          textBeforeLast source.toList) := by
  rcases e.step_cases diagnostics { source } .truncation with
    hsame | ⟨hchanged, hsource, happlied⟩
  · exact Or.inl hsame
  · refine Or.inr ⟨happlied, ?_⟩
    rw [hsource, Pass.apply] at hchanged ⊢
    rw [String.toList_ofList]
    refine (trimTruncated_cases source.toList).resolve_left fun hkept => hchanged ?_
    rw [hkept, String.ofList_toList]

/-- What is left of a text before anything is added to it: the whole text, or all of it
before its last line that is not blank. -/
def keptText (source : String) : List Char :=
  if "truncation" ∈ (e.run source diagnostics).applied then textBeforeLast source.toList
  else source.toList

/-- A cycle only adds to what the first pass leaves of a text. -/
theorem run_extends (source : String) :
    Extends e.runtime (IsTagName e.runtime (e.keptText diagnostics source))
      (e.keptText diagnostics source) (e.run source diagnostics).source.toList := by
  let kept := e.keptText diagnostics source
  let first := e.step diagnostics { source } .truncation
  have hrun : e.run source diagnostics = e.laterPasses.foldl (e.step diagnostics) first := rfl
  obtain ⟨names, happlied, hnames, -⟩ := e.foldl_step_extends diagnostics e.laterPasses first
  have hlater : "truncation" ∉ names := fun hmem =>
    e.truncation_not_mem_laterPasses (hnames.subset hmem)
  have hfirst : first.source.toList = kept := by
    rcases e.step_truncation_cases diagnostics source with hsame | ⟨hnamed, hdropped⟩
    · have hunnamed : "truncation" ∉ (e.run source diagnostics).applied := by
        rw [hrun, happlied]
        simpa [first, hsame] using hlater
      simp only [kept, keptText, if_neg hunnamed, first, hsame]
    · have hmem : "truncation" ∈ (e.run source diagnostics).applied := by
        rw [hrun, happlied]
        simp [first, hnamed]
      simp only [kept, keptText, if_pos hmem, first, hdropped]
  rw [hrun]
  apply e.foldl_step_only_adds diagnostics fun p hp => hp
  rw [hfirst]
  exact Extends.refl kept

/-- The lines of a text that hold something are among its lines. -/
theorem linesKept_nonBlankLines (s : List Char) : LinesKept (nonBlankLines s) (lines s) := by
  refine List.sublistForall₂_iff.2 ⟨(lines s).filter (!isBlankText ·), ?_, List.filter_sublist⟩
  refine List.forall₂_map_left_iff.2 (List.forall₂_same.2 ?_)
  exact fun line _ => (trimEnd_isPrefix line).sublist

/-- Repair loses nothing but a last line that was cut off.  What the first pass leaves of a
text is a subsequence of the repaired text; all else in there was added by insertions of
the import of the runtime, line breaks, braces, quotes, semicolons and tags that close
those of the text.  Of the lines that hold something all but the last one are still there,
and the last one as well unless the first pass has dropped it. -/
theorem run_preserves (source : String) :
    (trimEnd (e.keptText diagnostics source)).Sublist
        (e.run source diagnostics).source.toList ∧
      Extends e.runtime (IsTagName e.runtime (e.keptText diagnostics source))
        (e.keptText diagnostics source) (e.run source diagnostics).source.toList ∧
      LinesKept
        (if "truncation" ∈ (e.run source diagnostics).applied then
          (nonBlankLines source.toList).dropLast
        else nonBlankLines source.toList)
        (lines (e.run source diagnostics).source.toList) := by
  have hextends := e.run_extends diagnostics source
  have hlines : nonBlankLines (e.keptText diagnostics source) =
      if "truncation" ∈ (e.run source diagnostics).applied then
        (nonBlankLines source.toList).dropLast
      else nonBlankLines source.toList := by
    rw [keptText]
    split
    · exact nonBlankLines_textBeforeLast _
    · rfl
  generalize e.keptText diagnostics source = kept at hextends hlines ⊢
  have hnewline : ∀ name, IsTagName e.runtime kept name → '\n' ∉ name := by
    intro name hname hmem
    exact absurd (hname.1 _ hmem) (by decide)
  refine ⟨(trimEnd_isPrefix kept).sublist.trans hextends.sublist, hextends, ?_⟩
  rw [← hlines]
  exact (linesKept_nonBlankLines kept).trans (hextends.linesKept hnewline)

end StoryMend.Repair.Engine
