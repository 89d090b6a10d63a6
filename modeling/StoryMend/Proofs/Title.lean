import StoryMend.Proofs.Placeholder.Literal
import StoryMend.Proofs.Text.Letter
import StoryMend.Proofs.Text.Runs
import StoryMend.Title

/-!
Titles made of prompts.  The words of a title are the first runs of letters and digits of the
prompt.  A title holds no quote, no backslash and no line break, so a placeholder takes it as it
stands and reads it to its end (`ofPrompt_eq_runs`).
-/

namespace StoryMend.Title

open Text
open Placeholder (IsIntact LiteralState anyLines escape escapeQuote isIntact_iff_run_prompt
  rest?_literal run_escape_of_no_backslash)

theorem capitalize_ne_nil {w : List Char} (hw : w ≠ []) : capitalize w ≠ [] := by
  cases w with
  | nil => exact absurd rfl hw
  | cons c rest => exact List.append_ne_nil_of_left_ne_nil (upperOf_ne_nil c) rest

theorem isDelimiter_of_mem_capitalize {w : List Char} (hw : ∀ c ∈ w, isAlphanumeric c = true)
    {c : Char} (hc : c ∈ capitalize w) : isDelimiter c = false := by
  cases w with
  | nil => cases hc
  | cons d rest =>
      rcases List.mem_append.1 hc with hc | hc
      · exact isDelimiter_of_mem_upperOf (hw d List.mem_cons_self) hc
      · exact isDelimiter_of_isAlphanumeric (hw c (List.mem_cons_of_mem d hc))

/-- The title that the runs of a prompt give. -/
theorem ofPrompt_of_isRuns {prompt : String} {runs : List (List Char)}
    (hruns : IsRuns isAlphanumeric prompt.toList runs) :
    ofPrompt prompt =
      if runs = [] then usual
      else String.ofList ([' '].intercalate ((runs.take maxWords).map capitalize)) := by
  obtain rfl := isRuns_iff.1 hruns
  have hwords : promptWords prompt.toList = piecesOf (!isAlphanumeric ·) prompt.toList := rfl
  rw [ofPrompt, hwords]
  cases piecesOf (!isAlphanumeric ·) prompt.toList with
  | nil => rfl
  | cons run runs => rw [if_neg (List.cons_ne_nil run runs), ← join_eq_intercalate]; rfl

/-- A title is made of words joined by spaces. -/
theorem exists_words_ofPrompt (prompt : String) :
    ∃ words, words ≠ [] ∧ (∀ w ∈ words, w ≠ [] ∧ ∀ c ∈ w, isDelimiter c = false) ∧
      (ofPrompt prompt).toList = join [' '] words := by
  obtain ⟨runs, hruns⟩ := exists_isRuns isAlphanumeric prompt.toList
  rw [ofPrompt_of_isRuns hruns]
  split
  next =>
    have hwords : ["Generated".toList, "Story".toList].all (fun w =>
        !w.isEmpty && w.all (!isDelimiter ·)) = true := rfl
    refine ⟨["Generated".toList, "Story".toList], List.cons_ne_nil _ _, fun w hw => ?_, rfl⟩
    simpa using List.all_eq_true.1 hwords w hw
  next hne =>
    rw [String.toList_ofList, ← join_eq_intercalate]
    refine ⟨_, ?_, ?_, rfl⟩
    · simpa [maxWords] using hne
    · intro w hw
      obtain ⟨run, hrun, rfl⟩ := List.mem_map.1 hw
      obtain ⟨hrunNe, hrunAll⟩ := hruns.of_mem (List.mem_of_mem_take hrun)
      exact ⟨capitalize_ne_nil hrunNe, fun c hc => isDelimiter_of_mem_capitalize hrunAll hc⟩

/-- A text on one line, without quotes and blanks at its ends, is its own escaped form. -/
theorem escape_eq_self {s : List Char} (hne : s ≠ []) (htrim : trim s = s)
    (hs : ∀ c ∈ s, c = ' ' ∨ isDelimiter c = false) : escape s = s := by
  have hchars : ∀ c ∈ s, (c == '\r' || c == '\n') = false ∧ escapeQuote c = [c] := by
    intro c hc
    rcases hs c hc with rfl | hdelimiter
    · exact ⟨rfl, rfl⟩
    · have hne (d : Char) (hd : isDelimiter d = true) : c ≠ d := by
        rintro rfl
        rw [hd] at hdelimiter
        cases hdelimiter
      simp [escapeQuote, hne '\r' rfl, hne '\n' rfl, hne '"' rfl, hne '\'' rfl]
  have hlines : anyLines s = [s] := by
    have hnil : splitWhere (fun c => c == '\r' || c == '\n') [] = [[]] := rfl
    have hsplit := splitWhere_append_of_none (fun c hc => (hchars c hc).1) hnil
    rwa [List.append_nil] at hsplit
  have hblank : isBlankText s = false := by
    by_contra hblank
    rw [Bool.not_eq_false] at hblank
    obtain ⟨c, rest, rfl⟩ := List.exists_cons_of_ne_nil hne
    have hhead := (trim_eq_self_iff.1 htrim).1 c rfl
    rw [List.all_eq_true.1 hblank c List.mem_cons_self] at hhead
    cases hhead
  have hquotes : s.flatMap escapeQuote = s := by
    rw [List.flatMap_congr fun c hc => (hchars c hc).2]
    simp
  simp [escape, hlines, hblank, join, htrim, hquotes]

/-- A title is not empty, and what it holds besides spaces is no delimiter. -/
theorem mem_ofPrompt (prompt : String) :
    (ofPrompt prompt).toList ≠ [] ∧
      ∀ c ∈ (ofPrompt prompt).toList, c = ' ' ∨ isDelimiter c = false := by
  obtain ⟨words, hne, hwords, hjoin⟩ := exists_words_ofPrompt prompt
  rw [hjoin]
  refine ⟨join_ne_nil hne fun w hw => (hwords w hw).1, fun c hc => ?_⟩
  rcases mem_join hc with hspace | ⟨w, hw, hmem⟩
  · exact Or.inl (List.mem_singleton.1 hspace)
  · exact Or.inr ((hwords w hw).2 c hmem)

theorem isBlank_of_isDelimiter {c : Char} (hc : isDelimiter c = false) : isBlank c = false := by
  rw [isDelimiter, Bool.or_eq_false_iff] at hc
  exact hc.1

theorem escape_ofPrompt (prompt : String) :
    escape (ofPrompt prompt).toList = (ofPrompt prompt).toList := by
  obtain ⟨words, -, hwords, hjoin⟩ := exists_words_ofPrompt prompt
  obtain ⟨hne, hchars⟩ := mem_ofPrompt prompt
  refine escape_eq_self hne ?_ hchars
  rw [hjoin]
  exact trim_join_space fun w hw =>
    ⟨(hwords w hw).1, fun c hc => isBlank_of_isDelimiter ((hwords w hw).2 c hc)⟩

/-- No character of a title is a quote or a backslash, and none but spaces is a blank. -/
theorem not_quote_of_mem_ofPrompt {prompt : String} {c : Char}
    (hc : c ∈ (ofPrompt prompt).toList) :
    c ∉ ['"', '\'', '\x60', '\\'] ∧ (isBlank c = true → c = ' ') := by
  rcases (mem_ofPrompt prompt).2 c hc with rfl | hdelimiter
  · exact ⟨by decide, fun _ => rfl⟩
  · refine ⟨?_, fun hblank => ?_⟩
    · rw [isDelimiter, Bool.or_eq_false_iff] at hdelimiter
      simpa using hdelimiter.2
    · rw [isBlank_of_isDelimiter hdelimiter] at hblank
      cases hblank

/-- The words of a title are the first five runs of letters and digits of the prompt, or as many
as there are, each with its first character in upper case; a prompt without runs has the usual
title.  A title is not empty and holds no quote, no backslash and no blank but spaces.  So a
placeholder takes it as it stands, a literal with it ends at the next quote, and the literals of
a placeholder are as intact as they are without a title. -/
theorem ofPrompt_eq_runs (prompt : String) :
    (∃ runs, (∀ l, IsRuns isAlphanumeric prompt.toList l ↔ l = runs) ∧
      (runs = [] ↔ ∀ c ∈ prompt.toList, isAlphanumeric c = false) ∧
      ofPrompt prompt =
        if runs = [] then "Generated Story"
        else String.ofList ([' '].intercalate ((runs.take 5).map capitalize))) ∧
    ofPrompt prompt ≠ "" ∧
    (∀ c ∈ (ofPrompt prompt).toList,
      c ∉ ['"', '\'', '\x60', '\\'] ∧ (isBlank c = true → c = ' ')) ∧
    escape (ofPrompt prompt).toList = (ofPrompt prompt).toList ∧
    (∀ after,
      LiteralState.plain.rest? ((ofPrompt prompt).toList ++ '\'' :: after) = some after) ∧
    ∀ f p, IsIntact f (ofPrompt prompt) p ↔ IsIntact f "" p := by
  have hbackslash : '\\' ∉ (ofPrompt prompt).toList := fun hmem =>
    (not_quote_of_mem_ofPrompt hmem).1 (by decide)
  have hquote : '\'' ∉ (ofPrompt prompt).toList := fun hmem =>
    (not_quote_of_mem_ofPrompt hmem).1 (by decide)
  refine ⟨?_, ?_, fun c hc => not_quote_of_mem_ofPrompt hc, escape_ofPrompt prompt, ?_, ?_⟩
  · obtain ⟨runs, hruns⟩ := exists_isRuns isAlphanumeric prompt.toList
    refine ⟨runs, fun l => ?_, hruns.eq_nil_iff, ofPrompt_of_isRuns hruns⟩
    rw [isRuns_iff, isRuns_iff.1 hruns]
  · intro hempty
    refine (mem_ofPrompt prompt).1 ?_
    rw [hempty]
    rfl
  · intro after
    rw [rest?_literal hquote, ← escape_ofPrompt]
    exact run_escape_of_no_backslash hbackslash
  · intro f p
    rw [isIntact_iff_run_prompt hbackslash, isIntact_iff_run_prompt (by simp : '\\' ∉ "".toList)]

/-- Quotes and a line break part words; what comes after the fifth one is left out. -/
theorem ofPrompt_quoted :
    ofPrompt "a \"sign-up\" form's\nlast page" = "A Sign Up Form S" ∧
      (∀ c ∈ "A Sign Up Form S".toList,
        c ∉ ['"', '\'', '\x60', '\\'] ∧ (isBlank c = true → c = ' ')) := by
  have htitle : ofPrompt "a \"sign-up\" form's\nlast page" = "A Sign Up Form S" := by
    decide +kernel
  refine ⟨htitle, ?_⟩
  rw [← htitle]
  exact (ofPrompt_eq_runs "a \"sign-up\" form's\nlast page").2.2.1

end StoryMend.Title
