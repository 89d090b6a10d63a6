import StoryMend.Import.Statement
import StoryMend.Proofs.Text.Blank

/-!
Imports as the text alone shows them.  What is looked for at the starts of lines is found
on some line (`anyLineStart_eq_true_iff`), a text is split before its first line with the
keyword (`splitAtFirst?_eq`), and an import of a module is the keyword, a clause and a quoted
name (`startsImportOf_eq_true_iff`), whatever comes after it.
-/

namespace StoryMend.Import

open Text

/-! ### The starts of lines -/

section LineStarts

variable {p : List Char → Bool}

/-- What is found at the start of a line is found in the text from some line on; the first
line counts only if the text stands at the start of a line. -/
theorem anyLineStart_iff_suffix (atStart : Bool) (s : List Char) :
    anyLineStart p atStart s = true ↔
      ∃ front line rest, lines s = front ++ line :: rest ∧ (front = [] → atStart = true) ∧
        p (trimStart (unlines (line :: rest))) = true := by
  induction s generalizing atStart with
  | nil =>
      rw [anyLineStart, Bool.and_eq_true, lines_nil]
      constructor
      · rintro ⟨hstart, hp⟩
        exact ⟨[], [], [], rfl, fun _ => hstart, hp⟩
      · rintro ⟨front, line, rest, hlines, hstart, hp⟩
        obtain ⟨rfl, hone⟩ : front = [] ∧ line :: rest = [[]] := by
          cases front with
          | nil => exact ⟨rfl, hlines.symm⟩
          | cons first front => simp at hlines
        rw [hone] at hp
        exact ⟨hstart rfl, hp⟩
  | cons c s ih =>
      obtain ⟨first, more, hfirst⟩ := exists_lines_eq_cons (c :: s)
      have hwhole : unlines (first :: more) = c :: s := by rw [← hfirst, unlines_lines]
      simp only [anyLineStart, Bool.or_eq_true, Bool.and_eq_true, ih, hfirst, beq_iff_eq]
      constructor
      · rintro (⟨hstart, hp⟩ | ⟨front, line, rest, hlines, hstart, hp⟩)
        · exact ⟨[], first, more, rfl, fun _ => hstart, hwhole ▸ hp⟩
        · have hlater := (exists_later_lines_iff hfirst line rest).2 ⟨front, hlines, hstart⟩
          obtain ⟨before, rfl⟩ := hlater
          exact ⟨first :: before, line, rest, rfl, (absurd · (List.cons_ne_nil _ _)), hp⟩
      · rintro ⟨front, line, rest, hlines, hstart, hp⟩
        cases front with
        | nil =>
            obtain ⟨rfl, rfl⟩ := List.cons.inj hlines
            exact Or.inl ⟨hstart rfl, hwhole ▸ hp⟩
        | cons head front =>
            have hlater := (exists_later_lines_iff hfirst line rest).1
              ⟨front, (List.cons.inj hlines).2⟩
            obtain ⟨before, hbefore, hfront⟩ := hlater
            exact Or.inr ⟨before, line, rest, hbefore, hfront, hp⟩

/-- What is found at the start of a line is found in the text from some line on. -/
theorem anyLineStart_eq_true_iff (s : List Char) :
    anyLineStart p true s = true ↔
      ∃ front line rest, lines s = front ++ line :: rest ∧
        p (trimStart (unlines (line :: rest))) = true := by
  simp [anyLineStart_iff_suffix]

end LineStarts

/-! ### The first line with the keyword -/

theorem splitAtFirst?_go_eq (before : List Char) (ls : List (List Char)) :
    splitAtFirst?.go before ls =
      (Option.guard (· ≠ []) (ls.dropWhile (!startsLine ·))).map fun rest =>
        (before ++ (ls.takeWhile (!startsLine ·)).flatMap (· ++ ['\n']), unlines rest) := by
  induction ls generalizing before with
  | nil => rfl
  | cons line rest ih =>
      unfold splitAtFirst?.go
      by_cases hstarts : startsLine line = true
      · simp [hstarts]
      · simp [hstarts, ih]

/-- A text is split between the lines that do not start with the keyword, from the first line
on, and the rest, if there is a rest. -/
theorem splitAtFirst?_eq (s : List Char) :
    splitAtFirst? s =
      (Option.guard (· ≠ []) ((lines s).dropWhile (!startsLine ·))).map fun rest =>
        (((lines s).takeWhile (!startsLine ·)).flatMap (· ++ ['\n']), unlines rest) := by
  rw [splitAtFirst?, splitAtFirst?_go_eq]
  simp only [List.nil_append]

/-- A line that starts with the keyword is made of spaces, the keyword and what ends it. -/
theorem exists_of_startsLine {line : List Char} (h : startsLine line = true) :
    ∃ spaces rest, line = spaces ++ (keyword ++ rest) ∧ (∀ c ∈ spaces, isSpace c = true) ∧
      startsWord rest = false := by
  unfold startsLine at h
  cases hafter : after? keyword (line.dropWhile isSpace) with
  | none => simp [hafter] at h
  | some rest =>
      rw [hafter] at h
      refine ⟨line.takeWhile isSpace, rest, ?_, ?_, by simpa using h⟩
      · rw [← after?_eq_some_iff.1 hafter, List.takeWhile_append_dropWhile]
      · intro c hc
        exact List.mem_takeWhile_imp hc

/-- The lines of a text before the first one that starts with the keyword, that line, and the
lines after it. -/
structure FirstKeyword (s : List Char) (front : List (List Char)) (line : List Char)
    (more : List (List Char)) : Prop where
  lines_eq : lines s = front ++ line :: more
  front_free : ∀ l ∈ front, startsLine l = false
  starts : startsLine line = true

/-- No line of a text starts with the keyword, or there is a first one that does. -/
theorem forall_or_exists_firstKeyword (s : List Char) :
    (∀ l ∈ lines s, startsLine l = false) ∨ ∃ front line more, FirstKeyword s front line more := by
  cases hrest : (lines s).dropWhile (!startsLine ·) with
  | nil =>
      left
      intro l hl
      simpa using List.dropWhile_eq_nil_iff.1 hrest l hl
  | cons line more =>
      right
      refine ⟨(lines s).takeWhile (!startsLine ·), line, more, ?_, ?_, ?_⟩
      · rw [← hrest, List.takeWhile_append_dropWhile]
      · intro l hl
        simpa using List.mem_takeWhile_imp hl
      · have hhead := List.head?_dropWhile_not (!startsLine ·) (lines s)
        simpa [hrest] using hhead

theorem splitAtFirst?_eq_none {s : List Char} (hlines : ∀ l ∈ lines s, startsLine l = false) :
    splitAtFirst? s = none := by
  have hrest : (lines s).dropWhile (!startsLine ·) = [] := by simpa using hlines
  rw [splitAtFirst?_eq, hrest]
  rfl

theorem FirstKeyword.splitAtFirst?_eq_some {s line : List Char} {front more : List (List Char)}
    (h : FirstKeyword s front line more) :
    splitAtFirst? s = some (front.flatMap (· ++ ['\n']), unlines (line :: more)) := by
  have hfront : ∀ l ∈ front, (!startsLine l) = true := by simpa using h.front_free
  have hline : ¬ (!startsLine line) = true := by simp [h.starts]
  rw [splitAtFirst?_eq, h.lines_eq, List.dropWhile_append_of_pos hfront,
    List.takeWhile_append_of_pos hfront, List.dropWhile_cons_of_neg (p := (!startsLine ·)) hline,
    List.takeWhile_cons_of_neg (p := (!startsLine ·)) hline, List.append_nil]
  rfl

/-! ### The import of a module -/

/-- Whether a character is a quote of either kind. -/
def isQuote (c : Char) : Bool := c == '\'' || c == '"'

/-- Whether a character may stand between the keyword and the name of the module. -/
def isClauseChar (c : Char) : Bool := !(isQuote c || c == ';')

variable {moduleName s : List Char}

theorem isClauseChar_of_isQuote {c : Char} (hc : isQuote c = true) : isClauseChar c = false := by
  simp [isClauseChar, hc]

theorem startsQuoted_eq_true_iff :
    startsQuoted moduleName s = true ↔
      ∃ q close rest, isQuote q = true ∧ isQuote close = true ∧
        s = q :: (moduleName ++ close :: rest) := by
  cases s with
  | nil => simp [startsQuoted]
  | cons q s =>
      rw [startsQuoted, Bool.and_eq_true]
      constructor
      · rintro ⟨hq, hname⟩
        cases hafter : after? moduleName s with
        | none => simp [hafter] at hname
        | some tail =>
            cases tail with
            | nil => simp [hafter] at hname
            | cons close rest =>
                rw [hafter] at hname
                exact ⟨q, close, rest, hq, hname, by rw [after?_eq_some_iff.1 hafter]⟩
      · rintro ⟨q, close, rest, hq, hclose, heq⟩
        obtain ⟨rfl, rfl⟩ := List.cons.inj heq
        rw [after?_eq_some_iff.2 rfl]
        exact ⟨hq, hclose⟩

theorem startsImportOf_keyword (tail : List Char) :
    startsImportOf moduleName (keyword ++ tail) =
      (isClause (tail.takeWhile isClauseChar) &&
        startsQuoted moduleName (tail.dropWhile isClauseChar)) := by
  rw [startsImportOf, after?_eq_some_iff.2 rfl]
  rfl

/-- An import of a module is the keyword, a clause without quotes and semicolons, and the
quoted name. -/
theorem startsImportOf_eq_true_iff :
    startsImportOf moduleName s = true ↔
      ∃ clause q close rest, isClause clause = true ∧ (∀ c ∈ clause, isClauseChar c = true) ∧
        isQuote q = true ∧ isQuote close = true ∧
        s = keyword ++ (clause ++ q :: (moduleName ++ close :: rest)) := by
  constructor
  · intro himport
    cases hafter : after? keyword s with
    | none => simp [startsImportOf, hafter] at himport
    | some tail =>
        obtain rfl := after?_eq_some_iff.1 hafter
        rw [startsImportOf_keyword, Bool.and_eq_true, startsQuoted_eq_true_iff] at himport
        obtain ⟨hclause, q, close, rest, hq, hclose, hquoted⟩ := himport
        refine ⟨_, q, close, rest, hclause, fun c hc => List.mem_takeWhile_imp hc, hq, hclose, ?_⟩
        rw [← hquoted, List.takeWhile_append_dropWhile]
  · rintro ⟨clause, q, close, rest, hclause, hchars, hq, hclose, rfl⟩
    have hstop : ¬ isClauseChar q = true := by simp [isClauseChar_of_isQuote hq]
    rw [startsImportOf_keyword, List.takeWhile_append_of_pos hchars,
      List.dropWhile_append_of_pos hchars, List.takeWhile_cons_of_neg hstop,
      List.dropWhile_cons_of_neg hstop, List.append_nil, Bool.and_eq_true,
      startsQuoted_eq_true_iff]
    exact ⟨hclause, q, close, rest, hq, hclose, rfl⟩

/-- An import starts with the first letter of its keyword. -/
theorem head?_of_startsImportOf (h : startsImportOf moduleName s = true) : s.head? = some 'i' := by
  obtain ⟨clause, q, close, rest, -, -, -, -, rfl⟩ := startsImportOf_eq_true_iff.1 h
  rfl

/-- What ends in a character that does not occur later has ended before. -/
theorem isPrefix_of_not_mem {a tail : List Char} {last : Char} (hlast : last ∉ tail)
    (h : a ++ [last] <+: s ++ tail) : a ++ [last] <+: s := by
  rcases List.prefix_or_prefix_of_prefix h (List.prefix_append s tail) with hshort | ⟨left, hleft⟩
  · exact hshort
  · rcases List.eq_nil_or_concat left with rfl | ⟨init, other, rfl⟩
    · rw [List.append_nil] at hleft
      exact ⟨[], by rw [List.append_nil, hleft]⟩
    · rw [List.concat_eq_append] at hleft
      have hinto : init ++ [other] <+: tail := by
        rwa [← hleft, List.prefix_append_right_inj] at h
      rw [← List.append_assoc] at hleft
      obtain ⟨-, hsame⟩ := List.append_inj' hleft rfl
      obtain ⟨rfl, -⟩ := List.cons.inj hsame
      exact absurd (hinto.subset (List.mem_append_right init (List.mem_singleton_self _))) hlast

/-- An import ends with a quote, so text without quotes that comes later does not matter. -/
theorem startsImportOf_append (s : List Char) {tail : List Char}
    (htail : ∀ c ∈ tail, isQuote c = false) :
    startsImportOf moduleName (s ++ tail) = startsImportOf moduleName s := by
  rw [Bool.eq_iff_iff, startsImportOf_eq_true_iff, startsImportOf_eq_true_iff]
  constructor
  · rintro ⟨clause, q, close, rest, hclause, hchars, hq, hclose, heq⟩
    have hnot : close ∉ tail := by
      intro hmem
      rw [htail close hmem] at hclose
      cases hclose
    have hprefix : keyword ++ (clause ++ q :: moduleName) ++ [close] <+: s ++ tail := by
      refine ⟨rest, ?_⟩
      rw [heq]
      simp
    obtain ⟨more, rfl⟩ := isPrefix_of_not_mem hnot hprefix
    exact ⟨clause, q, close, more, hclause, hchars, hq, hclose, by simp⟩
  · rintro ⟨clause, q, close, rest, hclause, hchars, hq, hclose, rfl⟩
    exact ⟨clause, q, close, rest ++ tail, hclause, hchars, hq, hclose, by simp⟩

/-- A text imports a module exactly if some line of it starts an import of the module. -/
theorem importsModule_eq_true_iff :
    importsModule moduleName s = true ↔
      ∃ front line rest, lines s = front ++ line :: rest ∧
        startsImportOf moduleName (trimStart (unlines (line :: rest))) = true :=
  anyLineStart_eq_true_iff s

end StoryMend.Import
