import StoryMend.Proofs.Repair.Insertion
import StoryMend.Proofs.Text.Blank
import StoryMend.Repair.Truncation

/-!
What is left of a text that was cut off.  The pass drops exactly the last line that holds
something, with the blanks before it, or leaves the text alone.  What is left then has the
first lines of the text and fewer of them (`IsCutFrom`).
-/

namespace StoryMend.Repair

open Text

/-- All lines of a text before its last line that is not blank, without the blanks at their
end. -/
def textBeforeLast (s : List Char) : List Char :=
  trimEnd (unlines (dropWhileEnd isBlankText (lines s)).dropLast)

/-- The lines before the last one that holds something. -/
theorem dropLast_dropWhileEnd_lines {s : List Char} {init : List (List Char)}
    {line : List Char} {rest : List (List Char)} (hlines : lines s = init ++ line :: rest)
    (hline : isBlankText line = false) (hrest : ∀ l ∈ rest, isBlankText l = true) :
    (dropWhileEnd isBlankText (lines s)).dropLast = init := by
  have hsplit : init ++ line :: rest = (init ++ [line]) ++ rest := by simp
  rw [hlines, hsplit, dropWhileEnd_append _ hrest, dropWhileEnd_concat _ hline,
    List.dropLast_concat]

/-- A text is left alone, or its last line that is not blank is dropped. -/
theorem trimTruncated_cases (s : List Char) :
    trimTruncated s = s ∨ trimTruncated s = textBeforeLast s := by
  cases hs : trimEnd s with
  | nil => exact Or.inl (by simp [trimTruncated, hs])
  | cons c rest =>
      by_cases htruncated :
          (TruncationSignals.ofLine ((lines (c :: rest)).getLastD [])).isTruncated = true
      · have hne : trimEnd s ≠ [] := by simp [hs]
        obtain ⟨init, last, gap, more, hinit, hlast, hlines, -, hmore⟩ := lines_trimEnd hne
        have hwhole : isBlankText (last ++ gap) = false := by simp [isBlankText_append, hlast]
        right
        simp only [trimTruncated, hs, if_pos htruncated]
        rw [textBeforeLast, dropLast_dropWhileEnd_lines hlines hwhole hmore, ← hs, hinit,
          List.dropLast_concat]
      · exact Or.inl (by simp only [trimTruncated, hs, if_neg htruncated])

/-- Of the lines that hold something, only the last one is dropped. -/
theorem nonBlankLines_textBeforeLast (s : List Char) :
    nonBlankLines (textBeforeLast s) = (nonBlankLines s).dropLast := by
  rw [textBeforeLast, nonBlankLines_trimEnd]
  by_cases hs : trimEnd s = []
  · have hblank : ∀ line ∈ lines s, isBlankText line = true := fun line hline =>
      isBlankText_of_isInfix (infix_of_mem_lines hline) (isBlankText_of_trimEnd_eq_nil hs)
    have hnone : dropWhileEnd isBlankText (lines s) = [] := dropWhileEnd_append [] hblank
    rw [hnone, nonBlankLines_of_isBlankText (isBlankText_of_trimEnd_eq_nil hs)]
    rfl
  · obtain ⟨init, last, gap, rest, -, hlast, hlines, -, hrest⟩ := lines_trimEnd hs
    have hwhole : isBlankText (last ++ gap) = false := by simp [isBlankText_append, hlast]
    rw [dropLast_dropWhileEnd_lines hlines hwhole hrest, nonBlankLines, nonBlankLines, hlines,
      filter_nonBlank init hwhole hrest, List.map_append, List.map_singleton,
      List.dropLast_concat]
    rcases List.eq_nil_or_concat init with rfl | hinit
    · rfl
    · have hne : init ≠ [] := by
        obtain ⟨front, line, rfl⟩ := hinit
        simp
      rw [lines_unlines hne]
      intro line hline
      have hmem : line ∈ lines s := by simp [hlines, hline]
      exact newline_not_mem_of_mem_lines hmem

/-! ### Texts that are left alone, and texts that are not -/

/-- A text is left alone if its last line that is not blank was not cut off. -/
theorem trimTruncated_of_lastLine {front line blanks : List Char} {c : Char}
    (hfront : EndsLine front) (hline : '\n' ∉ line) (hlast : line.getLast? = some c)
    (hc : isBlank c = false) (hblanks : isBlankText blanks = true)
    (hwhole : (TruncationSignals.ofLine line).isTruncated = false) :
    trimTruncated (front ++ line ++ blanks) = front ++ line ++ blanks := by
  have htrim : trimEnd (front ++ line ++ blanks) = front ++ line := by
    obtain ⟨init, rfl⟩ := List.getLast?_eq_some_iff.1 hlast
    rw [trimEnd_append_blanks _ hblanks, ← List.append_assoc]
    exact dropWhileEnd_concat _ hc
  have hlines : lines (front ++ line) = (lines front).dropLast ++ [line] := by
    rw [hfront.lines_append, lines_of_not_mem hline]
  unfold trimTruncated
  split
  · rfl
  next d rest hrest =>
    rw [htrim] at hrest
    simp [← hrest, hlines, hwhole]

/-- The first lines of a text: each is a line of the text, only that blanks at its end do not
count, and the text has more lines. -/
structure IsCutFrom (t s : List Char) : Prop where
  trimEnd_eq : trimEnd t = t
  ne_nil : t ≠ []
  getElem?_lines : ∀ {i : Nat} {line : List Char}, (lines t)[i]? = some line →
    ((lines s)[i]?).map trimEnd = some (trimEnd line)
  count_lt : t.count '\n' < s.count '\n'

/-- Lines of a text, without the blanks at the end of the last one, are cut from it if there are
lines after them. -/
theorem IsCutFrom.of_lines {t s line tail : List Char} {front more : List (List Char)}
    (htrim : trimEnd t = t) (hne : t ≠ []) (ht : lines t = front ++ [line])
    (hs : lines s = front ++ (line ++ tail) :: more) (htail : isBlankText tail = true)
    (hmore : more ≠ []) : IsCutFrom t s := by
  refine ⟨htrim, hne, fun {i l} hl => ?_, ?_⟩
  · rw [ht] at hl
    rw [hs]
    rcases Nat.lt_trichotomy i front.length with hi | rfl | hi
    · rw [List.getElem?_append_left hi] at hl ⊢
      rw [hl, Option.map_some]
    · rw [List.getElem?_concat_length] at hl
      obtain rfl := Option.some.inj hl
      rw [List.getElem?_append_right le_rfl, Nat.sub_self, List.getElem?_cons_zero,
        Option.map_some, trimEnd_append_blanks _ htail]
    · rw [List.getElem?_eq_none (by simpa [Nat.succ_le_iff] using hi)] at hl
      cases hl
  · have hshort := length_lines t
    have hlong := length_lines s
    have hlater := List.length_pos_iff.2 hmore
    rw [ht] at hshort
    rw [hs] at hlong
    simp only [List.length_append, List.length_cons, List.length_nil] at hshort hlong
    omega

/-- What is left of a text that is not left alone is cut from it. -/
theorem isCutFrom_trimTruncated {s : List Char} (hchanged : trimTruncated s ≠ s)
    (hsome : trimTruncated s ≠ []) : IsCutFrom (trimTruncated s) s := by
  have hs : trimEnd s ≠ [] := fun hnil => hchanged (by simp [trimTruncated, hnil])
  obtain ⟨init, last, gap, blanks, -, hlast, hlines, -, hblanks⟩ := lines_trimEnd hs
  have hwhole : isBlankText (last ++ gap) = false := by simp [isBlankText_append, hlast]
  have hleft : trimTruncated s = trimEnd (unlines init) := by
    rw [(trimTruncated_cases s).resolve_left hchanged, textBeforeLast,
      dropLast_dropWhileEnd_lines hlines hwhole hblanks]
  rw [hleft] at hsome ⊢
  have hinit : lines (unlines init) = init := by
    refine lines_unlines ?_ fun line hline =>
      newline_not_mem_of_mem_lines (hlines ▸ List.mem_append_left _ hline)
    rintro rfl
    exact hsome rfl
  obtain ⟨front, line, tail, more, hfront, -, hsplit, htail, -⟩ := lines_trimEnd hsome
  refine .of_lines (trimEnd_trimEnd _) hsome hfront ?_ htail
    (List.append_ne_nil_of_right_ne_nil more (List.cons_ne_nil (last ++ gap) blanks))
  rw [hlines, ← hinit, hsplit, List.append_assoc, List.cons_append]

end StoryMend.Repair
