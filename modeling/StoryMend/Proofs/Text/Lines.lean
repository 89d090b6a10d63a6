import Mathlib.Data.List.Basic
import StoryMend.Text.Line

/-!
Texts that are put together.  Line feeds end lines and occur in none, so the lines of a
joined text are the given ones; where two texts meet, the last line of the first and the
first line of the second become one.  What follows a known start is the rest of the text.
-/

namespace StoryMend.Text

theorem lines_ne_nil (s : List Char) : lines s ≠ [] := splitWhere_ne_nil _ s

/-- A text has a first line. -/
theorem exists_lines_eq_cons (s : List Char) : ∃ first rest, lines s = first :: rest :=
  List.exists_cons_of_ne_nil (lines_ne_nil s)

/-- A text has a last line. -/
theorem exists_lines_eq_concat (s : List Char) : ∃ init last, lines s = init ++ [last] :=
  ⟨_, _, (List.dropLast_concat_getLast (lines_ne_nil s)).symm⟩

@[simp]
theorem lines_nil : lines [] = [[]] := rfl

@[simp]
theorem lines_newline_cons (s : List Char) : lines ('\n' :: s) = [] :: lines s := by
  simp [lines, splitWhere]

/-- A character other than a line feed goes to the front of the first line. -/
theorem lines_cons {c : Char} (hc : c ≠ '\n') {s first : List Char} {rest : List (List Char)}
    (hs : lines s = first :: rest) : lines (c :: s) = (c :: first) :: rest := by
  simp only [lines] at hs
  simp [lines, splitWhere, hc, hs]

/-- A text without line feeds is one line. -/
theorem lines_of_not_mem {s : List Char} (hs : '\n' ∉ s) : lines s = [s] := by
  induction s with
  | nil => rfl
  | cons c s ih =>
      simp only [List.mem_cons, not_or] at hs
      exact lines_cons (Ne.symm hs.1) (ih hs.2)

/-- A line feed parts the lines before it from those after it. -/
theorem lines_append_newline (a b : List Char) :
    lines (a ++ '\n' :: b) = lines a ++ lines b := by
  induction a with
  | nil => simp
  | cons c a ih =>
      by_cases hc : c = '\n'
      · subst hc
        simp [ih]
      · obtain ⟨first, rest, ha⟩ := exists_lines_eq_cons a
        rw [ha, List.cons_append] at ih
        rw [List.cons_append, lines_cons hc ih, lines_cons hc ha, List.cons_append]

/-- A text has one line more than line feeds. -/
theorem length_lines (s : List Char) : (lines s).length = s.count '\n' + 1 := by
  induction s with
  | nil => rfl
  | cons c s ih =>
      by_cases hc : c = '\n'
      · subst hc
        rw [lines_newline_cons, List.length_cons, ih, List.count_cons_self]
      · obtain ⟨first, rest, hs⟩ := exists_lines_eq_cons s
        rw [lines_cons hc hs, List.count_cons_of_ne hc, ← ih, hs, List.length_cons,
          List.length_cons]

/-- The later lines of a text are lines of what follows its first character, without the line
that this character belongs to. -/
theorem exists_later_lines_iff {c : Char} {s first : List Char} {more : List (List Char)}
    (hlines : lines (c :: s) = first :: more) (line : List Char) (rest : List (List Char)) :
    (∃ front, more = front ++ line :: rest) ↔
      ∃ front, lines s = front ++ line :: rest ∧ (front = [] → c = '\n') := by
  by_cases hc : c = '\n'
  · subst hc
    rw [lines_newline_cons] at hlines
    obtain ⟨-, rfl⟩ := List.cons.inj hlines
    simp
  · obtain ⟨start, others, hs⟩ := exists_lines_eq_cons s
    rw [lines_cons hc hs] at hlines
    obtain ⟨-, rfl⟩ := List.cons.inj hlines
    constructor
    · rintro ⟨front, rfl⟩
      exact ⟨start :: front, hs, (absurd · (List.cons_ne_nil _ _))⟩
    · rintro ⟨front, hfront, hstart⟩
      cases front with
      | nil => exact absurd (hstart rfl) hc
      | cons head front =>
          rw [hs] at hfront
          exact ⟨front, (List.cons.inj hfront).2⟩

/-- The pieces of a split hold elements of the list, and none that the list was split at. -/
theorem mem_of_mem_splitWhere {α : Type} {p : α → Bool} {l piece : List α}
    (hpiece : piece ∈ splitWhere p l) {c : α} (hc : c ∈ piece) : c ∈ l ∧ p c = false := by
  induction l generalizing piece with
  | nil => simp_all [splitWhere]
  | cons d l ih =>
      unfold splitWhere at hpiece
      have hlater : ∀ more ∈ splitWhere p l, c ∈ more → c ∈ d :: l ∧ p c = false :=
        fun more hmore hmem => (ih hmore hmem).imp_left (List.mem_cons_of_mem d)
      by_cases hd : p d = true
      · rw [if_pos hd, List.mem_cons] at hpiece
        rcases hpiece with rfl | hpiece
        · cases hc
        · exact hlater piece hpiece hc
      · obtain ⟨first, rest, hsplit⟩ := List.exists_cons_of_ne_nil (splitWhere_ne_nil p l)
        simp only [if_neg hd, hsplit, List.mem_cons] at hpiece
        rcases hpiece with rfl | hpiece
        · rcases List.mem_cons.1 hc with rfl | hc
          · exact ⟨List.mem_cons_self, by simpa using hd⟩
          · exact hlater first (by simp [hsplit]) hc
        · exact hlater piece (by simp [hsplit, hpiece]) hc

/-- No line holds a line feed. -/
theorem newline_not_mem_of_mem_lines {s line : List Char} (hline : line ∈ lines s) :
    '\n' ∉ line := fun hmem => by
  simpa using (mem_of_mem_splitWhere hline hmem).2

theorem unlines_cons (line : List Char) {rest : List (List Char)} (hrest : rest ≠ []) :
    unlines (line :: rest) = line ++ '\n' :: unlines rest := by
  cases rest with
  | nil => exact absurd rfl hrest
  | cons next rest => simp [unlines, join]

/-- A character of joined pieces is one of the separator or of a piece. -/
theorem mem_join {c : Char} {separator : List Char} {pieces : List (List Char)}
    (hc : c ∈ join separator pieces) : c ∈ separator ∨ ∃ piece ∈ pieces, c ∈ piece := by
  induction pieces with
  | nil => cases hc
  | cons piece rest ih =>
      cases rest with
      | nil => exact Or.inr ⟨piece, List.mem_singleton_self piece, hc⟩
      | cons next rest =>
          rw [join, List.mem_append, List.mem_append] at hc
          · rcases hc with (hc | hc) | hc
            · exact Or.inr ⟨piece, List.mem_cons_self, hc⟩
            · exact Or.inl hc
            · refine (ih hc).imp_right fun hlater => ?_
              obtain ⟨p, hp, hmem⟩ := hlater
              exact ⟨p, List.mem_cons_of_mem piece hp, hmem⟩
          · simp

theorem join_eq_intercalate (separator : List Char) (pieces : List (List Char)) :
    join separator pieces = separator.intercalate pieces := by
  induction pieces with
  | nil => rfl
  | cons piece rest ih =>
      cases rest with
      | nil => simp [join]
      | cons next rest => simp [join, ih]

/-- Words joined by something are not nothing. -/
theorem join_ne_nil {separator : List Char} {words : List (List Char)} (hne : words ≠ [])
    (hwords : ∀ w ∈ words, w ≠ []) : join separator words ≠ [] := by
  cases words with
  | nil => exact absurd rfl hne
  | cons w rest =>
      have hw : w ≠ [] := hwords w List.mem_cons_self
      cases rest with
      | nil => exact hw
      | cons next rest => simp [join, hw]

/-- What the first line starts with, the joined text starts with. -/
theorem unlines_append_cons (a line : List Char) (rest : List (List Char)) :
    unlines ((a ++ line) :: rest) = a ++ unlines (line :: rest) := by
  cases rest with
  | nil => rfl
  | cons next rest => simp [unlines_cons]

/-- Each line before others is followed by a line feed. -/
theorem unlines_append (front : List (List Char)) {rest : List (List Char)} (hrest : rest ≠ []) :
    unlines (front ++ rest) = front.flatMap (· ++ ['\n']) ++ unlines rest := by
  induction front with
  | nil => rfl
  | cons line front ih =>
      rw [List.cons_append, unlines_cons line (by simp [hrest]), ih]
      simp

/-- Lines before others are joined on their own. -/
theorem unlines_append_unlines {a b : List (List Char)} (ha : a ≠ []) (hb : b ≠ []) :
    unlines (a ++ b) = unlines a ++ '\n' :: unlines b := by
  induction a with
  | nil => exact absurd rfl ha
  | cons line rest ih =>
      cases rest with
      | nil => exact unlines_cons line hb
      | cons next rest =>
          rw [List.cons_append, unlines_cons line (by simp), ih (List.cons_ne_nil _ _),
            unlines_cons line (List.cons_ne_nil _ _), List.append_assoc, List.cons_append]

/-- Neighbouring lines are a stretch of the text. -/
theorem unlines_isInfix {s : List Char} {front middle rest : List (List Char)}
    (hlines : lines s = front ++ (middle ++ rest)) : unlines middle <:+: s := by
  have hmiddle : unlines middle <+: unlines (middle ++ rest) := by
    by_cases hne : middle = []
    · rw [hne]
      exact List.nil_prefix
    by_cases hrest : rest = []
    · simp [hrest]
    · rw [unlines_append_unlines hne hrest]
      exact List.prefix_append _ _
  have hsuffix : unlines (middle ++ rest) <:+ s := by
    by_cases hne : middle ++ rest = []
    · rw [hne]
      exact List.nil_suffix
    · rw [← unlines_lines s, hlines, unlines_append front hne]
      exact List.suffix_append _ _
  exact hmiddle.isInfix.trans hsuffix.isInfix

/-- A line is a stretch of its text. -/
theorem infix_of_mem_lines {s line : List Char} (hline : line ∈ lines s) : line <:+: s := by
  obtain ⟨front, rest, hlines⟩ := List.append_of_mem hline
  have hone : lines s = front ++ ([line] ++ rest) := hlines
  exact unlines_isInfix hone

/-- Lines that are joined are the lines of the text. -/
theorem lines_unlines {ls : List (List Char)} (hne : ls ≠ []) (hls : ∀ line ∈ ls, '\n' ∉ line) :
    lines (unlines ls) = ls := by
  induction ls with
  | nil => exact absurd rfl hne
  | cons line rest ih =>
      rw [List.forall_mem_cons] at hls
      cases rest with
      | nil => exact lines_of_not_mem hls.1
      | cons next rest =>
          rw [unlines_cons line (List.cons_ne_nil _ _), lines_append_newline,
            lines_of_not_mem hls.1, ih (List.cons_ne_nil _ _) hls.2]
          rfl

/-- Where two texts meet, the last line of the one and the first of the other become one. -/
theorem lines_append {a b last first : List Char} {init rest : List (List Char)}
    (ha : lines a = init ++ [last]) (hb : lines b = first :: rest) :
    lines (a ++ b) = init ++ (last ++ first) :: rest := by
  have hjoined : a ++ b = unlines (init ++ (last ++ first) :: rest) := by
    rw [unlines_append init (List.cons_ne_nil _ _), unlines_append_cons, ← hb, unlines_lines b,
      ← unlines_lines a, ha, unlines_append init (List.cons_ne_nil _ _)]
    simp [unlines, join]
  rw [hjoined]
  apply lines_unlines (by simp)
  intro line hline
  have hinit : ∀ l ∈ init ++ [last], '\n' ∉ l :=
    fun l hl => newline_not_mem_of_mem_lines (ha ▸ hl)
  have hrest : ∀ l ∈ first :: rest, '\n' ∉ l :=
    fun l hl => newline_not_mem_of_mem_lines (hb ▸ hl)
  simp only [List.mem_append, List.mem_cons] at hline hinit hrest
  rcases hline with hline | rfl | hline
  · exact hinit line (Or.inl hline)
  · rw [List.mem_append, not_or]
    exact ⟨hinit last (by simp), hrest first (by simp)⟩
  · exact hrest line (Or.inr hline)

/-- What follows a start is what is put after it. -/
theorem after?_eq_some_iff {start s rest : List Char} :
    after? start s = some rest ↔ s = start ++ rest := by
  induction start generalizing s with
  | nil => simp [after?]
  | cons a start ih =>
      cases s with
      | nil => simp [after?]
      | cons c s =>
          by_cases hc : a = c
          · subst hc
            simp [after?, ih]
          · simp [after?, hc, Ne.symm hc]

end StoryMend.Text
