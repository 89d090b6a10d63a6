import StoryMend.Proofs.Repair.Balance
import StoryMend.Proofs.Repair.Tags
import StoryMend.Proofs.Repair.Truncation

/-!
What the passes that close braces, strings and tags come to, line by line.  Where they add a
line at the end, the last line of the text is one that was not cut off.  Where they add none
there, closing tags make the last line longer, or they get a line of their own before a line
that exports something or ends an object.  The main statement is `closeAll_cases`.
-/

namespace StoryMend.Repair

open Text

variable {s : List Char}

/-! ### Starts of lines -/

theorem endsLine_closeStrings {front : List Char} (hfront : EndsLine front) :
    EndsLine (closeStrings front) := by
  rcases hfront with rfl | ⟨init, rfl⟩
  · exact Or.inl rfl
  · exact Or.inr ⟨closeStrings init, closeStrings_append_newline init []⟩

/-- Strings are closed on both sides of the start of a line. -/
theorem closeStrings_append {front : List Char} (hfront : EndsLine front) (s : List Char) :
    closeStrings (front ++ s) = closeStrings front ++ closeStrings s := by
  rcases hfront with rfl | ⟨init, rfl⟩
  · rfl
  · have hend : closeStrings (init ++ ['\n']) = closeStrings init ++ ['\n'] :=
      closeStrings_append_newline init []
    rw [hend, List.append_assoc, List.append_assoc, List.singleton_append, List.singleton_append,
      closeStrings_append_newline]

theorem endsLine_braces (n : Nat) : EndsLine (List.replicate n ['}', '\n']).flatten := by
  have hbraces := endsLine_flatMap (List.replicate n ['}'])
  rwa [List.flatMap_replicate] at hbraces

/-! ### Lines at the end -/

/-- A text that does not end with a blank does not end with a line break. -/
theorem getLast?_ne_newline (hs : trimEnd s = s) : s.getLast? ≠ some '\n' := by
  intro hlast
  obtain ⟨front, rfl⟩ := List.getLast?_eq_some_iff.1 hlast
  exact absurd (eq_nil_of_trimEnd_append hs rfl) (List.cons_ne_nil _ _)

/-- Braces that are missing get lines after the text. -/
theorem balanceBraces_cases (hs : trimEnd s = s) :
    balanceBraces s = s ∨
      ∃ n, balanceBraces s = s ++ '\n' :: (List.replicate (n + 1) ['}', '\n']).flatten := by
  cases hn : braceDeficit s with
  | zero => exact Or.inl (by simp only [balanceBraces, hn])
  | succ n =>
      refine Or.inr ⟨n, ?_⟩
      simp only [balanceBraces, hn]
      rw [if_neg (getLast?_ne_newline hs), List.append_assoc, List.singleton_append]

theorem lines_prefix_balanceBraces (hs : trimEnd s = s) : lines s <+: lines (balanceBraces s) := by
  rcases balanceBraces_cases hs with hsame | ⟨n, hbraces⟩
  · rw [hsame]
  · rw [hbraces, lines_append_newline]
    exact List.prefix_append _ _

/-- Strings are closed in lines with braces alone. -/
theorem exists_closeStrings_braces (s : List Char) (n : Nat) :
    ∃ front, EndsLine front ∧
      closeStrings (s ++ '\n' :: (List.replicate (n + 1) ['}', '\n']).flatten) =
        front ++ ['}', '\n'] := by
  let front := s ++ ['\n'] ++ (List.replicate n ['}', '\n']).flatten
  have hfront : EndsLine front := EndsLine.append (Or.inr ⟨s, rfl⟩) (endsLine_braces n)
  have hsplit : s ++ '\n' :: (List.replicate (n + 1) ['}', '\n']).flatten =
      front ++ ['}', '\n'] := by
    simp [front, List.replicate_succ', -List.reduceReplicate]
  refine ⟨closeStrings front, endsLine_closeStrings hfront, ?_⟩
  rw [hsplit, closeStrings_append hfront]
  rfl

/-- A statement that is closed ends with a line of its own. -/
theorem statementEnd_cases (s : List Char) :
    statementEnd s = [] ∨
      ∃ front, EndsLine (s ++ front) ∧ statementEnd s = front ++ ['}', ';'] := by
  unfold statementEnd
  split
  · exact Or.inl rfl
  next hs =>
    obtain ⟨n, hn⟩ := Nat.exists_eq_succ_of_ne_zero hs
    have hlast : EndsLine (s ++ if s.getLast? = some '\n' then [] else ['\n']) := by
      split
      next hnewline =>
        rw [List.append_nil]
        exact Or.inr (List.getLast?_eq_some_iff.1 hnewline)
      next => exact Or.inr ⟨s, rfl⟩
    refine Or.inr ⟨(if s.getLast? = some '\n' then [] else ['\n']) ++
      (List.replicate n ['}', '\n']).flatten, ?_, ?_⟩
    · rw [← List.append_assoc]
      exact hlast.append (endsLine_braces n)
    · rw [hn, Nat.succ_eq_add_one, unlines_braces]
      simp only [List.append_assoc, List.cons_append, List.nil_append]

/-! ### Closing tags -/

theorem newline_not_mem_closers (s : List Char) : '\n' ∉ closers s :=
  fun hmem => ne_of_mem_closers hmem rfl (by decide) rfl

theorem getLast?_closers (hopen : (openTags s).names ≠ []) : (closers s).getLast? = some '>' := by
  obtain ⟨names, name, hnames⟩ := List.eq_nil_or_concat _ |>.resolve_left hopen
  rw [closers, hnames, List.concat_eq_append, List.flatMap_append, List.flatMap_singleton,
    closingTag, ← List.append_assoc, List.getLast?_concat]

/-- The last tag starts with a character of its text, and all that follows belongs to it. -/
theorem lastTagStart?_suffix {tag : List Char} {before : Option Char}
    (h : lastTagStart? before s = some tag) : tag <:+ s ∧ tag ≠ [] := by
  induction s generalizing before with
  | nil => exact absurd h (by simp [lastTagStart?])
  | cons c rest ih =>
      rw [lastTagStart?, Option.or_eq_some_iff] at h
      rcases h with h | ⟨-, h⟩
      · exact (ih h).imp_left fun hrest => hrest.trans (List.suffix_cons c rest)
      · split at h
        · obtain rfl := Option.some.inj h
          exact ⟨List.suffix_rfl, List.cons_ne_nil c rest⟩
        · cases h

/-- A line that ends with a tag has no tag without an end. -/
theorem hasOpenTag_of_getLast? {line : List Char} (hlast : line.getLast? = some '>') :
    hasOpenTag line = false := by
  cases htag : lastTagStart? none line with
  | none => simp only [hasOpenTag, htag]
  | some tag =>
      obtain ⟨⟨front, rfl⟩, hne⟩ := lastTagStart?_suffix htag
      rw [List.getLast?_append_of_ne_nil _ hne] at hlast
      have hmem : tag.contains '>' = true :=
        List.contains_iff_mem.2 (List.mem_of_getLast? hlast)
      simp only [hasOpenTag, htag, hmem, Bool.not_true]

/-- A closing brace with closing tags after it was not cut off. -/
theorem isTruncated_brace_closers (hopen : (openTags s).names ≠ []) :
    (TruncationSignals.ofLine ('}' :: closers s)).isTruncated = false := by
  have hlast : ('}' :: closers s).getLast? = some '>' := by
    rw [List.getLast?_cons, getLast?_closers hopen]
    rfl
  have htrim : trim ('}' :: closers s) = '}' :: closers s := by
    obtain ⟨init, hinit⟩ := List.getLast?_eq_some_iff.1 hlast
    have hstart : trimStart ('}' :: closers s) = '}' :: closers s := rfl
    rw [trim, hstart, hinit]
    exact dropWhileEnd_concat _ rfl
  have hparen : ('}' :: closers s).count '(' = 0 := by
    refine List.count_eq_zero.2 fun hmem => ?_
    rcases List.mem_cons.1 hmem with hbrace | hmem
    · exact absurd hbrace (by decide)
    · exact ne_of_mem_closers hmem rfl (by decide) rfl
  have hdangling : hasDanglingToken ('}' :: closers s) = false := by
    have hmem : ('}' :: closers s).contains '>' = true :=
      List.contains_iff_mem.2 (List.mem_of_getLast? hlast)
    rw [hasDanglingToken, hmem]
    simp
  simp [TruncationSignals.ofLine, TruncationSignals.isTruncated, htrim,
    hasOpenTag_of_getLast? hlast, hparen, hdangling]

/-! ### The lines that they go before -/

section Place

variable {line : List Char} (hline : isExportLine line = true ∨ isObjectEnd line = true)

include hline

/-- A line that closing tags go before holds a letter or a semicolon. -/
theorem exists_mem_of_isPlace : ∃ c ∈ ['e', ';'], c ∈ line := by
  have hexport : ∀ word, ('e' :: word).isPrefixOf (trim line) = true → 'e' ∈ line := fun word h =>
    mem_of_mem_trim ((List.isPrefixOf_iff_prefix.1 h).subset List.mem_cons_self)
  rcases hline with hline | hline
  · rw [isExportLine, Bool.or_eq_true] at hline
    exact ⟨'e', by simp, hline.elim (hexport _) (hexport _)⟩
  · refine ⟨';', by simp, mem_of_mem_trim ?_⟩
    rw [beq_iff_eq.1 hline]
    simp

theorem isBlankText_of_isPlace : isBlankText line = false := by
  by_contra hblank
  obtain ⟨c, hc, hmem⟩ := exists_mem_of_isPlace hline
  have hnone := List.all_eq_true.1 ((Bool.not_eq_false _).mp hblank) c hmem
  simp only [List.mem_cons, List.not_mem_nil, or_false] at hc
  rcases hc with rfl | rfl
  · cases hnone
  · cases hnone

theorem head?_of_isPlace : line.head? ≠ some '<' := by
  intro hhead
  obtain ⟨rest, rfl⟩ := List.head?_eq_some_iff.1 hhead
  have hplain := startsPlainly_of_line hline []
  cases hplain

end Place

/-- Closing tags go to the end of a text, or on a line of their own. -/
theorem beforeClosers_place (s : List Char) :
    (beforeClosers s = trimEnd s ∧ closersEnd s = []) ∨
      (EndsLine (beforeClosers s) ∧ closersEnd s = ['\n'] ∧
        ∃ line rest, lines (afterClosers s) = line :: rest ∧
          (isExportLine line = true ∨ isObjectEnd line = true)) := by
  rcases insertionPoint_spec s (openTags s).lastEnd with ⟨line, hmem, -, hline⟩ | hend
  · obtain ⟨rest, hrest⟩ := lines_drop_of_mem_placeLines hmem
    refine Or.inr ⟨endsLine_take hmem, if_pos ?_, line, rest, hrest, hline⟩
    by_contra hplace
    have hblank : isBlankText line = true :=
      isBlankText_of_isInfix (infix_of_mem_lines (hrest ▸ List.mem_cons_self))
        (isBlankText_afterClosers hplace)
    rw [isBlankText_of_isPlace hline] at hblank
    cases hblank
  · refine Or.inl ⟨?_, if_neg (by rw [hend]; exact lt_irrefl _)⟩
    rw [beforeClosers, hend]
    exact List.prefix_iff_eq_take.1 (trimEnd_isPrefix s) |>.symm

/-! ### All three passes -/

/-- What a cycle closes: braces, strings and tags, in this order. -/
def closeAll (s : List Char) : List Char := reconcileTags (closeStrings (balanceBraces s))

/-- The tags of a text are closed on a line of their own, before its line `i`. -/
structure ClosesBefore (s closed : List Char) (i : Nat) : Prop where
  exists_line : ∃ line, (lines s)[i]? = some line ∧
    (isExportLine (closeLine line) = true ∨ isObjectEnd (closeLine line) = true)
  exists_closing : ∃ closing, (lines closed)[i]? = some closing ∧
    closing.head? = some '<' ∧ trimEnd closing = closing
  getElem?_of_lt : ∀ j < i, (lines closed)[j]? = ((lines s)[j]?).map closeLine

/-- A line of the text with all its braces that closing tags go before is one of the text. -/
theorem getElem?_lines_of_isPlace (hs : trimEnd s = s) {i : Nat} {line : List Char}
    (hget : (lines (balanceBraces s))[i]? = some line)
    (hline : isExportLine (closeLine line) = true ∨ isObjectEnd (closeLine line) = true) :
    (lines s)[i]? = some line := by
  rcases balanceBraces_cases hs with hsame | ⟨n, hbraces⟩
  · rwa [hsame] at hget
  · rw [hbraces, lines_append_newline] at hget
    rcases lt_or_ge i (lines s).length with hi | hi
    · rwa [List.getElem?_append_left hi] at hget
    · exfalso
      rw [List.getElem?_append_right hi] at hget
      obtain ⟨c, hc, hmem⟩ := exists_mem_of_isPlace hline
      have hquote : c ∉ ['"', '\''] := by
        simp only [List.mem_cons, List.not_mem_nil, or_false] at hc
        rcases hc with rfl | rfl <;> decide
      rw [← List.count_pos_iff, count_closeLine hquote, List.count_pos_iff] at hmem
      have hbrace := (infix_of_mem_lines (List.mem_of_getElem? hget)).subset hmem
      obtain ⟨piece, hpiece, hmem⟩ := List.mem_flatten.1 hbrace
      rw [List.eq_of_mem_replicate hpiece] at hmem
      simp only [List.mem_cons, List.not_mem_nil, or_false] at hc hmem
      rcases hc with rfl | rfl <;> simp at hmem

/-- Closing tags before a line keep the lines before it. -/
theorem closesBefore_of_place (hs : trimEnd s = s) {z : List Char}
    (hz : z = closeStrings (balanceBraces s)) (hopen : (openTags z).names ≠ [])
    (hplace : EndsLine (beforeClosers z)) (hend : closersEnd z = ['\n']) {line : List Char}
    {rest : List (List Char)} (hrest : lines (afterClosers z) = line :: rest)
    (hline : isExportLine line = true ∨ isObjectEnd line = true) :
    ∃ i, ClosesBefore s (reconcileTags z) i := by
  let front := (lines (beforeClosers z)).dropLast
  have hbefore : (lines (balanceBraces s)).map closeLine = front ++ line :: rest := by
    rw [← lines_closeStrings, ← hz, ← hrest, ← hplace.lines_append,
      beforeClosers_append_afterClosers]
  obtain ⟨more, hafter⟩ : ∃ more, lines (reconcileTags z) = front ++ closers z :: more := by
    rw [reconcileTags_of_open hopen, closeStatement_eq, List.append_assoc, hplace.lines_append,
      hend, List.append_assoc, List.append_assoc, List.singleton_append, lines_append_newline,
      lines_of_not_mem (newline_not_mem_closers z)]
    exact ⟨_, rfl⟩
  have hget : ((lines (balanceBraces s))[front.length]?).map closeLine = some line := by
    rw [← List.getElem?_map, hbefore, List.getElem?_append_right le_rfl, Nat.sub_self,
      List.getElem?_cons_zero]
  obtain ⟨l, hl, rfl⟩ := Option.map_eq_some_iff.1 hget
  have hfound := getElem?_lines_of_isPlace hs hl hline
  refine ⟨front.length, ⟨l, hfound, hline⟩, ⟨closers z, ?_, ?_, ?_⟩, fun j hj => ?_⟩
  · rw [hafter, List.getElem?_append_right le_rfl, Nat.sub_self, List.getElem?_cons_zero]
  · simpa using closers_head? hopen []
  · obtain ⟨init, hinit⟩ := List.getLast?_eq_some_iff.1 (getLast?_closers hopen)
    rw [hinit]
    exact dropWhileEnd_concat _ rfl
  · have hshort : j < (lines s).length := hj.trans (List.getElem?_eq_some_iff.1 hfound).1
    obtain ⟨braces, hbraces⟩ := lines_prefix_balanceBraces hs
    rw [hafter, List.getElem?_append_left hj, ← List.getElem?_append_left hj, ← hbefore,
      List.getElem?_map, ← hbraces, List.getElem?_append_left hshort]

/-- Closing tags at the end of a text make its last line longer, or the text ends with a line
of its own. -/
theorem reconcileTags_atEnd {z : List Char} (hopen : (openTags z).names ≠ [])
    (hplace : beforeClosers z = trimEnd z) (hend : closersEnd z = []) :
    trimTruncated (reconcileTags z) = reconcileTags z ∨
      (reconcileTags z = trimEnd z ++ closers z ++ afterClosers z ∧
        isBlankText (afterClosers z) = true) := by
  have hz := reconcileTags_of_open hopen
  rw [hplace, hend, List.nil_append, closeStatement_eq] at hz
  rw [hz]
  rcases statementEnd_cases (trimEnd z ++ (closers z ++ afterClosers z)) with
    hnone | ⟨front, hfront, hstatement⟩
  · refine Or.inr ⟨?_, ?_⟩
    · rw [hnone, List.append_nil, List.append_assoc]
    · rw [closersEnd_eq] at hend
      by_contra hblank
      rw [if_neg hblank] at hend
      cases hend
  · refine Or.inl ?_
    rw [hstatement, ← List.append_assoc,
      ← List.append_nil (trimEnd z ++ (closers z ++ afterClosers z) ++ front ++ ['}', ';'])]
    exact trimTruncated_of_lastLine hfront (by decide) rfl rfl rfl (by decide)

/-- A text whose last line is a brace still ends so when its tags are closed at its end. -/
theorem trimTruncated_reconcileTags_of_brace {z front : List Char} (hfront : EndsLine front)
    (hz : z = front ++ ['}', '\n']) (hends : (openTags z).names = [] ∨
      reconcileTags z = trimEnd z ++ closers z ++ afterClosers z ∧
        isBlankText (afterClosers z) = true) :
    trimTruncated (reconcileTags z) = reconcileTags z := by
  by_cases hopen : (openTags z).names = []
  · have hsame : reconcileTags z = front ++ ['}'] ++ ['\n'] := by
      rw [reconcileTags_of_closed hopen, hz]
      simp
    rw [hsame]
    exact trimTruncated_of_lastLine hfront (by decide) rfl rfl rfl (by decide)
  · obtain ⟨hclosed, hblank⟩ := hends.resolve_left hopen
    have htrim : trimEnd z = front ++ ['}'] := by
      have hsplit : z = front ++ ['}'] ++ ['\n'] := by simp [hz]
      rw [hsplit, trimEnd_append_blanks _ rfl]
      exact dropWhileEnd_concat _ rfl
    rw [hclosed, htrim, List.append_assoc front, List.singleton_append]
    refine trimTruncated_of_lastLine (c := '>') hfront ?_ ?_ rfl hblank
      (isTruncated_brace_closers hopen)
    · simpa using newline_not_mem_closers z
    · rw [List.getLast?_cons, getLast?_closers hopen]
      rfl

/-- What closing everything comes to: the last line of the text was not cut off, or the text
has no new line and its last line may be longer, or closing tags have a line of their own. -/
theorem closeAll_cases (hs : trimEnd s = s) :
    trimTruncated (closeAll s) = closeAll s ∨
      (∃ w, closeAll s = trimEnd (closeStrings s) ++ w ∧
        (closeAll s).count '\n' = s.count '\n') ∨
      ∃ i, ClosesBefore s (closeAll s) i := by
  rw [closeAll]
  generalize hz : closeStrings (balanceBraces s) = z
  have hnewline : (closeStrings s).count '\n' = s.count '\n' := count_closeStrings (by decide) s
  by_cases hopen : (openTags z).names = []
  · rcases balanceBraces_cases hs with hsame | ⟨n, hbraces⟩
    · obtain ⟨blanks, -, hblanks⟩ := exists_trimEnd_append z
      have hclosed := reconcileTags_of_closed hopen
      rw [hsame] at hz
      refine Or.inr (Or.inl ⟨blanks, ?_, ?_⟩)
      · rw [hclosed, hz, ← hblanks]
      · rw [hclosed, ← hz, hnewline]
    · obtain ⟨front, hfront, hlast⟩ := exists_closeStrings_braces s n
      rw [hbraces, hlast] at hz
      exact Or.inl (trimTruncated_reconcileTags_of_brace hfront hz.symm (Or.inl hopen))
  · rcases beforeClosers_place z with ⟨hplace, hend⟩ | ⟨hplace, hend, line, rest, hrest, hline⟩
    · rcases reconcileTags_atEnd hopen hplace hend with hwhole | hclosed
      · exact Or.inl hwhole
      · rcases balanceBraces_cases hs with hsame | ⟨n, hbraces⟩
        · rw [hsame] at hz
          refine Or.inr (Or.inl ⟨closers z ++ afterClosers z, ?_, ?_⟩)
          · rw [hclosed.1, hz, List.append_assoc]
          · -- Closing tags hold no line break.
            have hparts := congrArg (List.count '\n') (beforeClosers_append_afterClosers z)
            rw [hplace, List.count_append] at hparts
            rw [hclosed.1, List.count_append, List.count_append,
              List.count_eq_zero.2 (newline_not_mem_closers z), Nat.add_zero, hparts, ← hz,
              hnewline]
        · obtain ⟨front, hfront, hlast⟩ := exists_closeStrings_braces s n
          rw [hbraces, hlast] at hz
          exact Or.inl (trimTruncated_reconcileTags_of_brace hfront hz.symm (Or.inr hclosed))
    · exact Or.inr (Or.inr (closesBefore_of_place hs hz.symm hopen hplace hend hrest hline))

/-! ### Lines that stay -/

theorem isBlankText_closeLine {line : List Char} (hline : isBlankText line = false) :
    isBlankText (closeLine line) = false := by
  have hsub : line.Sublist (closeLine line) := by
    have hextends : Extends none (fun _ => False) ([] ++ line ++ []) ([] ++ closeLine line ++ []) :=
      closeLine_extends [] line []
    simpa using hextends.sublist
  by_contra hblank
  rw [Bool.not_eq_false] at hblank
  have hall : isBlankText line = true :=
    List.all_eq_true.2 fun c hc => List.all_eq_true.1 hblank c (hsub.subset hc)
  rw [hline] at hall
  cases hall

/-- All lines before the last one stay when strings are closed and text comes after. -/
theorem getElem?_lines_closeStrings (hs : trimEnd s = s) (hne : s ≠ []) (w : List Char) {i : Nat}
    (hi : i + 1 < (lines s).length) :
    (lines (trimEnd (closeStrings s) ++ w))[i]? = ((lines s)[i]?).map closeLine := by
  obtain ⟨init, last, hlines⟩ := exists_lines_eq_concat s
  let front := (init.map closeLine).flatMap (· ++ ['\n'])
  have hfront : EndsLine front := endsLine_flatMap _
  have hlast : isBlankText (closeLine last) = false :=
    isBlankText_closeLine (isBlankText_last_of_trimEnd hs hne hlines)
  have hclosed : closeStrings s = front ++ closeLine last := by
    rw [closeStrings, hlines, List.map_append, unlines_append _ (by simp)]
    rfl
  have hinit : (lines front).dropLast = init.map closeLine := by
    have hsplit := lines_closeStrings s
    rw [hclosed, hfront.lines_append, hlines, List.map_append] at hsplit
    refine (List.append_inj' hsplit ?_).1
    rw [lines_of_not_mem]
    · rfl
    · refine newline_not_mem_of_mem_lines (s := closeStrings s) ?_
      rw [lines_closeStrings, hlines]
      exact List.mem_map_of_mem (List.mem_append_right init (List.mem_singleton_self last))
  rw [hlines, List.length_append, List.length_singleton] at hi
  have hshort : i < init.length := by omega
  rw [hclosed, trimEnd_append_of_not_blank front hlast, List.append_assoc, hfront.lines_append,
    hinit, List.getElem?_append_left (by simpa using hshort), List.getElem?_map, hlines,
    List.getElem?_append_left hshort]

/-- A line that is not the last one stays when everything is closed, or closing tags have a
line of their own up to there, or the last line of the text was not cut off. -/
theorem getElem?_lines_closeAll (hs : trimEnd s = s) {i : Nat} {line : List Char}
    (hline : (lines s)[i]? = some line) (hi : i + 1 < (lines s).length) :
    trimTruncated (closeAll s) = closeAll s ∨
      (lines (closeAll s))[i]? = some (closeLine line) ∨
      ∃ j ≤ i, ClosesBefore s (closeAll s) j := by
  have hne : s ≠ [] := by
    rintro rfl
    simp at hi
  rcases closeAll_cases hs with hwhole | ⟨w, hw, -⟩ | ⟨j, hcloses⟩
  · exact Or.inl hwhole
  · refine Or.inr (Or.inl ?_)
    rw [hw, getElem?_lines_closeStrings hs hne w hi, hline, Option.map_some]
  · rcases le_or_gt j i with hj | hj
    · exact Or.inr (Or.inr ⟨j, hj, hcloses⟩)
    · refine Or.inr (Or.inl ?_)
      rw [hcloses.getElem?_of_lt i hj, hline, Option.map_some]

end StoryMend.Repair
