import Mathlib.Algebra.Group.Even
import Mathlib.Algebra.Group.Nat.Even
import StoryMend.Proofs.Text.Lines
import StoryMend.Repair.Strings

/-!
How often the strings of a text have to be closed.  A quote that is added after a backslash is
escaped and does not count, so a line that lacks quotes and ends in a backslash lacks one still.
All other lines are done with after one time, and a line that ends in an added quote ends in
no backslash, so every line is done with after two (`closeStrings_settles_iff`).
-/

namespace StoryMend.Repair

open Text

/-- Whether the quotes of a line that count come in pairs. -/
def QuotesPaired (line : List Char) : Prop :=
  ∀ quote ∈ ['"', '\''], Even (countedQuotes quote none 0 line).length

/-- A line without a carriage return at its end. -/
def lineBody (line : List Char) : List Char :=
  if line.getLast? = some '\r' then line.dropLast else line

/-- The carriage return at the end of a line. -/
def lineReturn (line : List Char) : List Char := if line.getLast? = some '\r' then ['\r'] else []

/-- A line that lacks quotes and ends in a backslash. -/
def EndsEscaped (line : List Char) : Prop :=
  ¬ QuotesPaired line ∧ (lineBody line).getLast? = some '\\'

/-! ### The number of quotes that count -/

/-- How many quotes of a kind count in a text, told the character before it. -/
def quoteCount (quote : Char) (before : Option Char) (s : List Char) : Nat :=
  (countedQuotes quote before 0 s).length

/-- Whether a character is a quote that counts, told those next to it. -/
def counts (quote : Char) (before : Option Char) (c : Char) (next : Option Char) : Bool :=
  c == quote && before != some '\\' &&
    !(quote == '\'' && before.any isAlphanumeric && next.any isAlphanumeric)

section Counting

variable {quote : Char} {before : Option Char}

theorem length_countedQuotes (quote : Char) (before : Option Char) (place : Nat)
    (s : List Char) : (countedQuotes quote before place s).length = quoteCount quote before s := by
  have hplaces : ∀ place place', (countedQuotes quote before place s).length =
      (countedQuotes quote before place' s).length := by
    induction s generalizing before with
    | nil => exact fun _ _ => rfl
    | cons c s ih =>
        intro place place'
        have hlater := ih (some c) (place + 1) (place' + 1)
        simp only [countedQuotes]
        split
        · rw [List.length_append, List.length_append, hlater]
          rfl
        · exact hlater
  exact hplaces place 0

theorem quoteCount_cons (quote : Char) (before : Option Char) (c : Char) (s : List Char) :
    quoteCount quote before (c :: s) =
      (if counts quote before c s.head? then 1 else 0) + quoteCount quote (some c) s := by
  rw [quoteCount, countedQuotes, counts]
  split
  · rw [List.length_append, length_countedQuotes, List.length_singleton, Nat.add_comm]
  · rw [length_countedQuotes, Nat.zero_add]

/-- A text is counted in two parts unless a word goes over from one to the other. -/
theorem quoteCount_append {b : List Char} (hb : b.head?.any isAlphanumeric = false)
    (a : List Char) : quoteCount quote before (a ++ b) =
      quoteCount quote before a + quoteCount quote (a.getLast?.or before) b := by
  induction a generalizing before with
  | nil => exact (Nat.zero_add _).symm
  | cons c a ih =>
      have hcounts : counts quote before c (a ++ b).head? = counts quote before c a.head? := by
        cases a with
        | nil => simp [counts, hb]
        | cons d a => rfl
      have hlast : (c :: a).getLast?.or before = a.getLast?.or (some c) := by
        rw [List.getLast?_cons]
        cases a.getLast? <;> rfl
      rw [List.cons_append, quoteCount_cons, quoteCount_cons, hcounts, ih, hlast, Nat.add_assoc]

/-- Quotes one after another count, except that a backslash before them escapes the first. -/
theorem quoteCount_quotes {w : List Char} (hw : ∀ c ∈ w, c = '"' ∨ c = '\'') :
    quoteCount quote before w = if before = some '\\' then w.tail.count quote
      else w.count quote := by
  induction w generalizing before with
  | nil => simp [quoteCount, countedQuotes]
  | cons c w ih =>
      obtain ⟨hc, hw⟩ := List.forall_mem_cons.1 hw
      have hnext : w.head?.any isAlphanumeric = false := by
        cases w with
        | nil => rfl
        | cons d w => rcases (List.forall_mem_cons.1 hw).1 with rfl | rfl <;> rfl
      have hslash : some c ≠ some '\\' := by
        rcases hc with rfl | rfl <;> decide
      rw [quoteCount_cons, ih hw, if_neg hslash, counts, hnext]
      split_ifs with hcounts hbefore hbefore
      · simp [hbefore] at hcounts
      · obtain rfl : c = quote := by simpa [hbefore] using hcounts
        rw [List.count_cons_self, Nat.add_comm]
      · rw [List.tail_cons, Nat.zero_add]
      · have hne : c ≠ quote := by simpa [hbefore] using hcounts
        rw [List.count_cons_of_ne hne, Nat.zero_add]

end Counting

/-! ### The quotes that a line lacks -/

section Lines

variable {line : List Char}

theorem length_openQuote? (quote : Char) (line : List Char) :
    (openQuote? quote line).toList.length = quoteCount quote none line % 2 := by
  rw [openQuote?, quoteCount]
  cases countedQuotes quote none 0 line with
  | nil => rfl
  | cons place rest =>
      rw [List.length_cons]
      dsimp only
      split
      · rw [Option.toList_some, List.length_singleton]
        omega
      · rw [Option.toList_none, List.length_nil]
        omega

/-- A quote is missing where an odd number of its kind counts. -/
theorem count_missingQuotes {quote : Char} (hquote : quote ∈ ['"', '\'']) (line : List Char) :
    (missingQuotes line).count quote = quoteCount quote none line % 2 := by
  have hopen : ∀ q ∈ ['"', '\''],
      (missingQuotes line).count q = (openQuote? q line).toList.length := by
    simp only [List.forall_mem_cons, missingQuotes]
    cases openQuote? '"' line with
    | none => cases openQuote? '\'' line <;> simp
    | some double =>
        cases openQuote? '\'' line with
        | none => simp
        | some single => simp only; split <;> simp
  rw [hopen quote hquote, length_openQuote?]

theorem mem_missingQuotes {c : Char} (hc : c ∈ missingQuotes line) : c = '"' ∨ c = '\'' := by
  unfold missingQuotes at hc
  split at hc
  · cases hc
  · exact Or.inl (List.mem_singleton.1 hc)
  · exact Or.inr (List.mem_singleton.1 hc)
  · split at hc
    · simpa [or_comm] using hc
    · simpa using hc

theorem missingQuotes_eq_nil_iff : missingQuotes line = [] ↔ QuotesPaired line := by
  have hpaired : QuotesPaired line ↔
      ∀ quote ∈ ['"', '\''], (missingQuotes line).count quote = 0 := by
    refine forall₂_congr fun quote hquote => ?_
    rw [Nat.even_iff, count_missingQuotes hquote]
    rfl
  rw [hpaired, List.eq_nil_iff_forall_not_mem]
  constructor
  · exact fun hnone quote _ => List.count_eq_zero.2 (hnone quote)
  · intro hcount c hc
    exact List.count_eq_zero.1 (hcount c (by simpa using mem_missingQuotes hc)) hc

/-! ### Lines with and without a carriage return -/

theorem lineBody_append_lineReturn (line : List Char) :
    lineBody line ++ lineReturn line = line := by
  unfold lineBody lineReturn
  split
  · next hlast => exact List.dropLast_append_getLast? _ hlast
  · exact List.append_nil line

/-- The missing quotes go to the end of a line, before its carriage return. -/
theorem closeLine_eq (line : List Char) :
    closeLine line = lineBody line ++ missingQuotes (lineBody line) ++ lineReturn line := by
  unfold closeLine lineBody lineReturn
  split
  · next hlast => rw [if_pos hlast, if_pos hlast]
  · next hlast => rw [if_neg hlast, if_neg hlast, List.append_nil]

/-- A line starts the same when it is closed. -/
theorem head?_closeLine {c : Char} (hc : c ≠ '\r') (hline : line.head? = some c) :
    (closeLine line).head? = some c := by
  have hsplit := lineBody_append_lineReturn line
  rw [closeLine_eq, List.append_assoc]
  cases hbody : lineBody line with
  | nil =>
      rw [hbody, List.nil_append] at hsplit
      rw [← hsplit, lineReturn] at hline
      split at hline
      · exact absurd (Option.some.inj hline).symm hc
      · cases hline
  | cons d rest =>
      rw [hbody] at hsplit
      rwa [← hsplit] at hline

/-- A carriage return bears on no quote. -/
theorem quotesPaired_lineBody : QuotesPaired (lineBody line) ↔ QuotesPaired line := by
  have hreturn : ∀ quote ∈ ['"', '\''],
      quoteCount quote none line = quoteCount quote none (lineBody line) := by
    intro quote hquote
    conv_lhs => rw [← lineBody_append_lineReturn line]
    unfold lineReturn
    split
    · have hne : ('\r' == quote) = false := by
        simp only [List.mem_cons, List.not_mem_nil, or_false] at hquote
        rcases hquote with rfl | rfl <;> rfl
      rw [quoteCount_append rfl, quoteCount_cons, counts, hne]
      rfl
    · rw [List.append_nil]
  exact forall₂_congr fun quote hquote => by
    rw [← quoteCount, ← quoteCount, hreturn quote hquote]

theorem lineBody_closeLine (line : List Char) :
    lineBody (closeLine line) = lineBody line ++ missingQuotes (lineBody line) := by
  rw [closeLine_eq]
  by_cases hlast : line.getLast? = some '\r'
  · have hreturn : lineReturn line = ['\r'] := if_pos hlast
    rw [hreturn, lineBody, if_pos List.getLast?_concat, List.dropLast_concat]
  · have hreturn : lineReturn line = [] := if_neg hlast
    have hbody : lineBody line = line := if_neg hlast
    rw [hreturn, hbody, List.append_nil, lineBody, if_neg]
    rw [List.getLast?_append]
    cases hmissing : (missingQuotes line).getLast? with
    | none => exact hlast
    | some c =>
        rw [Option.some_or]
        rcases mem_missingQuotes (List.mem_of_getLast? hmissing) with rfl | rfl <;> decide

/-! ### What closing a line comes to -/

theorem closeLine_eq_self_iff : closeLine line = line ↔ QuotesPaired line := by
  rw [closeLine_eq, ← quotesPaired_lineBody, ← missingQuotes_eq_nil_iff]
  conv_lhs => rhs; rw [← lineBody_append_lineReturn line]
  rw [List.append_left_inj, List.append_right_eq_self]

/-- Quotes come in pairs once the missing ones are added, unless the first of these is
escaped. -/
theorem quotesPaired_append_missingQuotes_iff (body : List Char) :
    QuotesPaired (body ++ missingQuotes body) ↔
      ¬ (¬ QuotesPaired body ∧ body.getLast? = some '\\') := by
  rw [← @missingQuotes_eq_nil_iff body]
  have hquotes : ∀ c ∈ missingQuotes body, c = '"' ∨ c = '\'' := fun c => mem_missingQuotes
  have hword : (missingQuotes body).head?.any isAlphanumeric = false := by
    cases hmissing : missingQuotes body with
    | nil => rfl
    | cons c rest => rcases hquotes c (by simp [hmissing]) with rfl | rfl <;> rfl
  have hcount : ∀ quote ∈ ['"', '\''], quoteCount quote none (body ++ missingQuotes body) =
      quoteCount quote none body + if body.getLast? = some '\\' then
        (missingQuotes body).tail.count quote else quoteCount quote none body % 2 := by
    intro quote hquote
    rw [quoteCount_append hword, quoteCount_quotes hquotes, Option.or_none,
      count_missingQuotes hquote]
  have hpaired : QuotesPaired (body ++ missingQuotes body) ↔
      ∀ quote ∈ ['"', '\''], quoteCount quote none (body ++ missingQuotes body) % 2 = 0 :=
    forall₂_congr fun _ _ => Nat.even_iff
  rw [hpaired]
  constructor
  · rintro heven ⟨hmissing, hslash⟩
    obtain ⟨c, rest, hrest⟩ := List.exists_cons_of_ne_nil hmissing
    -- The first added quote is the one that does not count.
    have hmem : c ∈ ['"', '\''] := by simpa using hquotes c (by simp [hrest])
    have hodd := count_missingQuotes hmem body
    have hsum := heven c hmem
    rw [hcount c hmem, if_pos hslash, hrest, List.tail_cons] at hsum
    rw [hrest, List.count_cons_self] at hodd
    omega
  · intro hnot quote hquote
    rw [hcount quote hquote]
    split
    · next hslash =>
        have hnone : missingQuotes body = [] := by
          by_contra hmissing
          exact hnot ⟨hmissing, hslash⟩
        have hodd := count_missingQuotes hquote body
        rw [hnone, List.count_nil] at hodd
        rw [hnone, List.tail_nil, List.count_nil]
        omega
    · omega

theorem quotesPaired_closeLine_iff : QuotesPaired (closeLine line) ↔ ¬ EndsEscaped line := by
  rw [← quotesPaired_lineBody, lineBody_closeLine, quotesPaired_append_missingQuotes_iff,
    quotesPaired_lineBody, EndsEscaped]

/-- A line that has been closed lacks no quote or ends in one. -/
theorem not_endsEscaped_closeLine (line : List Char) : ¬ EndsEscaped (closeLine line) := by
  rintro ⟨hpaired, hslash⟩
  rw [lineBody_closeLine, List.getLast?_append] at hslash
  cases hmissing : (missingQuotes (lineBody line)).getLast? with
  | none =>
      rw [List.getLast?_eq_none_iff, missingQuotes_eq_nil_iff, quotesPaired_lineBody] at hmissing
      rw [closeLine_eq_self_iff.2 hmissing] at hpaired
      exact hpaired hmissing
  | some c =>
      rw [hmissing, Option.some_or] at hslash
      rcases mem_missingQuotes (List.mem_of_getLast? hmissing) with rfl | rfl <;> cases hslash

end Lines

/-! ### What closing the strings of a text comes to -/

section Texts

variable {s : List Char}

/-- Lines are closed each on its own. -/
theorem lines_closeStrings (s : List Char) : lines (closeStrings s) = (lines s).map closeLine := by
  refine lines_unlines (by simpa using lines_ne_nil s) fun line hline => ?_
  obtain ⟨line, hmem, rfl⟩ := List.mem_map.1 hline
  have hbody := newline_not_mem_of_mem_lines hmem
  rw [← lineBody_append_lineReturn line, List.mem_append, not_or] at hbody
  rw [closeLine_eq, List.mem_append, List.mem_append, not_or, not_or]
  refine ⟨⟨hbody.1, fun hquote => ?_⟩, hbody.2⟩
  rcases mem_missingQuotes hquote with hc | hc <;> cases hc

/-- Strings are closed on both sides of a line feed. -/
theorem closeStrings_append_newline (s t : List Char) :
    closeStrings (s ++ '\n' :: t) = closeStrings s ++ '\n' :: closeStrings t := by
  rw [closeStrings, closeStrings, closeStrings, lines_append_newline, List.map_append,
    unlines_append_unlines (by simpa using lines_ne_nil s) (by simpa using lines_ne_nil t)]

theorem closeStrings_eq_self_iff :
    closeStrings s = s ↔ ∀ line ∈ lines s, QuotesPaired line := by
  have hlines : closeStrings s = s ↔ (lines s).map closeLine = (lines s).map id := by
    rw [← lines_closeStrings, List.map_id]
    constructor
    · exact congrArg lines
    · intro hsame
      rw [← unlines_lines (closeStrings s), hsame, unlines_lines]
  rw [hlines, List.map_inj_left]
  exact forall₂_congr fun _ _ => closeLine_eq_self_iff

theorem quotesPaired_closeStrings_iff :
    (∀ line ∈ lines (closeStrings s), QuotesPaired line) ↔
      ∀ line ∈ lines s, ¬ EndsEscaped line := by
  rw [lines_closeStrings, List.forall_mem_map]
  exact forall₂_congr fun _ _ => quotesPaired_closeLine_iff

theorem not_endsEscaped_closeStrings (s : List Char) :
    ∀ line ∈ lines (closeStrings s), ¬ EndsEscaped line := by
  rw [lines_closeStrings, List.forall_mem_map]
  exact fun line _ => not_endsEscaped_closeLine line

/-- The quotes on every line of a text come in pairs once its strings have been closed, and
closing them once more changes nothing, exactly if no line that lacks quotes ends in a
backslash.  In every text they are closed after the second time. -/
theorem closeStrings_settles_iff (s : List Char) :
    ((∀ line ∈ lines (closeStrings s), QuotesPaired line) ↔
        ∀ line ∈ lines s, ¬ EndsEscaped line) ∧
      (closeStrings (closeStrings s) = closeStrings s ↔
        ∀ line ∈ lines s, ¬ EndsEscaped line) ∧
      closeStrings (closeStrings (closeStrings s)) = closeStrings (closeStrings s) := by
  refine ⟨quotesPaired_closeStrings_iff, ?_, ?_⟩
  · rw [closeStrings_eq_self_iff, quotesPaired_closeStrings_iff]
  · rw [closeStrings_eq_self_iff, quotesPaired_closeStrings_iff]
    exact not_endsEscaped_closeStrings s

/-- A string that is cut off after a backslash. -/
def escapedEnd : List Char := ['"', 'a', '\\']

/-- The quote that is added to it is escaped, and the next time another one is added. -/
theorem not_settled_escapedEnd :
    ¬ ((∀ line ∈ lines (closeStrings escapedEnd), QuotesPaired line) ∧
      closeStrings (closeStrings escapedEnd) = closeStrings escapedEnd) := by
  rintro ⟨-, hsame⟩
  exact absurd hsame (by decide)

end Texts

end StoryMend.Repair
