import StoryMend.Proofs.Repair.Cycle
import StoryMend.Proofs.Repair.Passes

/-!
Closing braces after a cycle of repair.  The pass that adds them leaves no opening brace
without a closing one.  The passes after it add quotes and closing tags, which hold no braces,
and the tags are followed by the braces that are missing then.  So a text that was repaired for
a fault has at least as many closing braces as opening ones.
-/

namespace StoryMend.Repair

open Text

variable {c : Char} {s : List Char}

theorem braceDeficit_eq_zero_iff : braceDeficit s = 0 ↔ s.count '{' ≤ s.count '}' :=
  Nat.sub_eq_zero_iff_le

/-- Blanks at the end do not count. -/
theorem count_trimEnd (hc : isBlank c = false) (s : List Char) :
    (trimEnd s).count c = s.count c := by
  obtain ⟨blanks, hblanks, hs⟩ := exists_trimEnd_append s
  have hnone : blanks.count c = 0 := by
    refine List.count_eq_zero.2 fun hmem => ?_
    rw [List.all_eq_true.1 hblanks c hmem] at hc
    cases hc
  conv_rhs => rw [hs, List.count_append, hnone, Nat.add_zero]

/-- The braces that are added are those that are missing. -/
theorem braceDeficit_balanceBraces (s : List Char) : braceDeficit (balanceBraces s) = 0 := by
  unfold balanceBraces
  split
  · assumption
  next n hn =>
    have hlast : ∀ brace ∈ ['{', '}'],
        (if s.getLast? = some '\n' then s else s ++ ['\n']).count brace = s.count brace := by
      intro brace hbrace
      have hbreak : brace ≠ '\n' := by
        rintro rfl
        exact absurd hbrace (by decide)
      split
      · rfl
      · simp [hbreak.symm]
    have hopening : (List.replicate (braceDeficit s) ['}', '\n']).flatten.count '{' = 0 := by
      simp [List.count_flatten]
    have hclosing : (List.replicate (braceDeficit s) ['}', '\n']).flatten.count '}' =
        braceDeficit s := by
      simp [List.count_flatten]
    rw [braceDeficit_eq_zero_iff, List.count_append, List.count_append, hlast _ (by simp),
      hlast _ (by simp), hopening, hclosing, braceDeficit]
    omega

/-! ### Quotes -/

theorem count_closeLine (hc : c ∉ ['"', '\'']) (line : List Char) :
    (closeLine line).count c = line.count c := by
  have hquotes : (missingQuotes (lineBody line)).count c = 0 := by
    refine List.count_eq_zero.2 fun hmem => hc ?_
    simpa using mem_missingQuotes hmem
  conv_rhs => rw [← lineBody_append_lineReturn line]
  rw [closeLine_eq, List.count_append, List.count_append, List.count_append, hquotes,
    Nat.add_zero]

/-- What each line has as many of as before, the text has as many of as before. -/
theorem count_unlines_map {f : List Char → List Char}
    (hf : ∀ line, (f line).count c = line.count c) (ls : List (List Char)) :
    (unlines (ls.map f)).count c = (unlines ls).count c := by
  induction ls with
  | nil => rfl
  | cons line rest ih =>
      rcases eq_or_ne rest [] with rfl | hrest
      · exact hf line
      · rw [List.map_cons, unlines_cons line hrest, unlines_cons _ (by simpa using hrest),
          List.count_append, List.count_append, List.count_cons, List.count_cons, hf, ih]

/-- Only quotes are added to lines. -/
theorem count_closeStrings (hc : c ∉ ['"', '\'']) (s : List Char) :
    (closeStrings s).count c = s.count c := by
  rw [closeStrings, count_unlines_map (count_closeLine hc), unlines_lines]

theorem braceDeficit_closeStrings (s : List Char) :
    braceDeficit (closeStrings s) = braceDeficit s := by
  rw [braceDeficit, count_closeStrings (by decide), count_closeStrings (by decide), braceDeficit]

/-! ### Tags -/

/-- A text is closed with all the braces that it lacks. -/
theorem braceDeficit_closeStatement (s : List Char) : braceDeficit (closeStatement s) = 0 := by
  unfold closeStatement
  split
  · assumption
  · have hbalanced := braceDeficit_eq_zero_iff.1 (braceDeficit_balanceBraces s)
    rw [← count_trimEnd rfl, ← count_trimEnd (c := '}') rfl] at hbalanced
    dsimp only
    split
    · exact braceDeficit_eq_zero_iff.2 hbalanced
    · rw [braceDeficit_eq_zero_iff]
      simpa using hbalanced

/-- Closing tags are added where tags are open, and then no closing brace is missing. -/
theorem braceDeficit_reconcileTags (s : List Char) :
    reconcileTags s = s ∨ braceDeficit (reconcileTags s) = 0 := by
  unfold reconcileTags
  dsimp only
  split
  · exact Or.inl rfl
  · exact Or.inr (braceDeficit_closeStatement _)

/-! ### Cycles -/

/-- Braces are never under-closed after a repair.  A cycle for a fault leaves at least as many
closing braces as opening ones, whatever its runtime is; and tags are closed in a text without a
change or so that no closing brace is missing. -/
theorem Engine.braces_closed_of_isFaulty (e : Engine) {diagnostics : List Diagnostic}
    (hfaulty : Engine.IsFaulty diagnostics) (source : String) :
    (e.run source diagnostics).source.toList.count '{' ≤
        (e.run source diagnostics).source.toList.count '}' ∧
      ∀ text, reconcileTags text = text ∨ braceDeficit (reconcileTags text) = 0 := by
  refine ⟨?_, braceDeficit_reconcileTags⟩
  rw [hfaulty.toList_run_source, ← braceDeficit_eq_zero_iff]
  rcases braceDeficit_reconcileTags
    (closeStrings (balanceBraces (e.beforeClosing diagnostics source).toList)) with hsame | hclosed
  · rw [hsame, braceDeficit_closeStrings, braceDeficit_balanceBraces]
  · exact hclosed

namespace OpenObject

/-- A chain of passes without a runtime and without a parser. -/
def engine : Engine := { parse := fun _ _ => none, kind := .tsx, runtime := none }

/-- A fault that a parser might report. -/
def fault : Diagnostic := { message := "Syntax error: unexpected", line := 1, column := some 1 }

/-- An object and a tag in it that have no end. -/
def source : String := "const card = \x7b view: <Card>"

theorem isFaulty_fault : Engine.IsFaulty [fault] :=
  ⟨fault, List.mem_singleton_self _, by decide⟩

theorem braces_closed_source :
    Engine.IsFaulty [fault] ∧
      (engine.run source [fault]).source = "const card = \x7b view: <Card>\n\x7d</Card>\n" ∧
      (engine.run source [fault]).source.toList.count '{' ≤
        (engine.run source [fault]).source.toList.count '}' :=
  ⟨isFaulty_fault, by decide +kernel, (engine.braces_closed_of_isFaulty isFaulty_fault source).1⟩

end OpenObject

end StoryMend.Repair
