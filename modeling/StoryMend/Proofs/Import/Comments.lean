import StoryMend.Diagnose
import StoryMend.Proofs.Import.Statement

/-!
Imports in comments.  Whether a text imports a module is asked of its lines, and nobody asks
whether a line is code.  The main statement is that a block comment imports what its body
imports, while a text whose lines are comments of their own imports nothing.
-/

namespace StoryMend.Import

open Text

variable {moduleName : List Char}

/-- A text in a block comment, on lines of its own. -/
def blockComment (body : List Char) : List Char :=
  ['/', '*', '\n'] ++ body ++ ['\n', '*', '/']

/-- A text with each of its lines turned into a comment. -/
def lineComments (body : List Char) : List Char := unlines ((lines body).map (['/', '/'] ++ ·))

theorem lines_blockComment (body : List Char) :
    lines (blockComment body) = ['/', '*'] :: (lines body ++ [['*', '/']]) := by
  have hsplit : blockComment body = ['/', '*'] ++ '\n' :: (body ++ '\n' :: ['*', '/']) := by
    simp [blockComment]
  rw [hsplit, lines_append_newline, lines_append_newline]
  rfl

/-- A line of a block comment is its first line, its last one, or a line of the body. -/
theorem lines_blockComment_cases {body line : List Char} {front rest : List (List Char)}
    (hlines : lines (blockComment body) = front ++ line :: rest) :
    line = ['/', '*'] ∨ line = ['*', '/'] ∨
      ∃ before after, lines body = before ++ line :: after ∧ rest = after ++ [['*', '/']] := by
  rw [lines_blockComment] at hlines
  cases front with
  | nil => exact Or.inl (List.cons.inj hlines).1.symm
  | cons first front =>
      rw [List.cons_append] at hlines
      obtain ⟨-, hlater⟩ := List.cons.inj hlines
      rcases List.eq_nil_or_concat rest with rfl | ⟨after, last, rfl⟩
      · obtain ⟨-, hline⟩ := List.append_inj' hlater rfl
        exact Or.inr (Or.inl (List.cons.inj hline).1.symm)
      · rw [List.concat_eq_append, ← List.cons_append, ← List.append_assoc] at hlater
        obtain ⟨hbody, hlast⟩ := List.append_inj' hlater rfl
        obtain ⟨rfl, -⟩ := List.cons.inj hlast
        exact Or.inr (Or.inr ⟨front, after, hbody, List.concat_eq_append⟩)

theorem lines_lineComments (body : List Char) :
    lines (lineComments body) = (lines body).map (['/', '/'] ++ ·) := by
  apply lines_unlines
  · simp [lines_ne_nil]
  · intro line hline
    obtain ⟨old, hold, rfl⟩ := List.mem_map.1 hline
    simpa using newline_not_mem_of_mem_lines hold

/-- No import starts on a line that starts with a slash or a star. -/
theorem not_startsImportOf_mark {mark : Char} (hmark : mark = '/' ∨ mark = '*')
    (line : List Char) (rest : List (List Char)) :
    startsImportOf moduleName (trimStart (unlines ((mark :: line) :: rest))) = false := by
  have hunlines : unlines ((mark :: line) :: rest) = mark :: unlines (line :: rest) :=
    unlines_append_cons [mark] line rest
  have hblank : isBlank mark = false := by
    rcases hmark with rfl | rfl <;> rfl
  by_contra himport
  rw [Bool.not_eq_false, hunlines, trimStart, List.dropWhile_cons_of_neg (by simp [hblank])]
    at himport
  have hhead := head?_of_startsImportOf himport
  rw [List.head?_cons, Option.some.injEq] at hhead
  rcases hmark with rfl | rfl <;> cases hhead

/-- The end of a comment does not end an import that starts before it. -/
theorem startsImportOf_commentEnd (line : List Char) (rest : List (List Char)) :
    startsImportOf moduleName (trimStart (unlines (line :: rest ++ [['*', '/']]))) =
      startsImportOf moduleName (trimStart (unlines (line :: rest))) := by
  have hend : ∀ c ∈ ['\n', '*', '/'], isQuote c = false := by simp [isQuote]
  have hsplit : unlines (line :: rest ++ [['*', '/']]) =
      unlines (line :: rest) ++ ['\n', '*', '/'] :=
    unlines_append_unlines (List.cons_ne_nil _ _) (List.cons_ne_nil _ _)
  rw [hsplit]
  cases hblank : isBlankText (unlines (line :: rest)) with
  | false => rw [trimStart_append_of_not_blank hblank, startsImportOf_append _ hend]
  | true =>
      -- Of the blanks nothing is left, and the mark of the comment starts no import.
      have hnone : trimStart (unlines (line :: rest)) = [] :=
        List.dropWhile_eq_nil_iff.2 (List.all_eq_true.1 hblank)
      have hmark : trimStart (unlines (line :: rest) ++ ['\n', '*', '/']) = ['*', '/'] :=
        List.dropWhile_append_of_pos (List.all_eq_true.1 hblank)
      rw [hnone, hmark]
      rfl

/-- A block comment imports what its body imports: the lines of the comment that are not lines
of the body start no import, and end none. -/
theorem importsModule_blockComment (moduleName body : List Char) :
    importsModule moduleName (blockComment body) = importsModule moduleName body := by
  rw [Bool.eq_iff_iff, importsModule_eq_true_iff, importsModule_eq_true_iff]
  constructor
  · rintro ⟨front, line, rest, hlines, himport⟩
    rcases lines_blockComment_cases hlines with rfl | rfl | ⟨before, after, hbody, rfl⟩
    · rw [not_startsImportOf_mark (Or.inl rfl)] at himport
      cases himport
    · rw [not_startsImportOf_mark (Or.inr rfl)] at himport
      cases himport
    · rw [← List.cons_append, startsImportOf_commentEnd] at himport
      exact ⟨before, line, after, hbody, himport⟩
  · rintro ⟨front, line, rest, hlines, himport⟩
    refine ⟨['/', '*'] :: front, line, rest ++ [['*', '/']], ?_, ?_⟩
    · rw [lines_blockComment, hlines]
      simp
    · rw [← List.cons_append, startsImportOf_commentEnd]
      exact himport

/-- Lines that are comments of their own import nothing. -/
theorem importsModule_lineComments (moduleName body : List Char) :
    importsModule moduleName (lineComments body) = false := by
  by_contra hfound
  rw [Bool.not_eq_false, importsModule_eq_true_iff, lines_lineComments] at hfound
  obtain ⟨front, line, rest, hlines, himport⟩ := hfound
  have hline : line ∈ (lines body).map (['/', '/'] ++ ·) :=
    hlines ▸ List.mem_append_right front List.mem_cons_self
  obtain ⟨old, -, rfl⟩ := List.mem_map.1 hline
  have hnone : startsImportOf moduleName (trimStart (unlines (('/' :: '/' :: old) :: rest))) =
      false := not_startsImportOf_mark (Or.inl rfl) _ _
  exact absurd himport (by simpa using hnone)

/-- Imports are looked for in comments as well: a text in a block comment imports what it
imports by itself.  Only a mark at the start of each line keeps imports out. -/
theorem importsModule_comments (moduleName body : List Char) :
    importsModule moduleName (blockComment body) = importsModule moduleName body ∧
      importsModule moduleName (lineComments body) = false := by
  constructor
  · exact importsModule_blockComment moduleName body
  · exact importsModule_lineComments moduleName body

/-- The import of a runtime, to be commented out. -/
def runtimeImport : List Char := "import React from 'react';".toList

/-- Commented out or not, it counts, and markup after the comment passes for markup with its
runtime. -/
theorem importsModule_commentedOut :
    ¬ ['*', '/'] <:+: runtimeImport ∧
      importsModule "react".toList (blockComment runtimeImport) = true ∧
      Diagnose.lacksRuntime none .react
        (String.ofList (blockComment runtimeImport ++ "\n<B />".toList)) = false := by
  decide +kernel

end StoryMend.Import
