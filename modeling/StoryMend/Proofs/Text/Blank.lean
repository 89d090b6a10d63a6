import Mathlib.Data.List.DropRight
import StoryMend.Proofs.Text.Lines

/-!
Texts without the blanks at their ends, and blank lines.  The blanks at the end of a text
may hold line feeds, so taking them away also takes away the blank lines there; the lines
that hold something stay, and only the last of them may lose blanks (`lines_trimEnd`).
-/

namespace StoryMend.Text

section

variable {α : Type} {p : α → Bool}

/-- Elements that are dropped at the end do not matter. -/
theorem dropWhileEnd_append (front : List α) {rest : List α} (hrest : ∀ a ∈ rest, p a = true) :
    dropWhileEnd p (front ++ rest) = dropWhileEnd p front := by
  have hreverse : ∀ a ∈ rest.reverse, p a = true := by simpa using hrest
  rw [dropWhileEnd, List.reverse_append, List.dropWhile_append_of_pos hreverse]
  rfl

theorem dropWhileEnd_isPrefix (p : α → Bool) (l : List α) : dropWhileEnd p l <+: l :=
  List.rdropWhile_prefix p l

theorem exists_dropWhileEnd_append (p : α → Bool) (l : List α) :
    ∃ rest, (∀ a ∈ rest, p a = true) ∧ l = dropWhileEnd p l ++ rest :=
  ⟨l.rtakeWhile p, fun _ ha => List.mem_rtakeWhile_imp ha,
    List.rdropWhile_append_rtakeWhile.symm⟩

/-- An element that is not dropped keeps all before it. -/
theorem dropWhileEnd_concat (front : List α) {a : α} (ha : p a = false) :
    dropWhileEnd p (front ++ [a]) = front ++ [a] :=
  List.rdropWhile_concat_neg p front a (by simp [ha])

/-- Only what comes after an element that is not dropped is dropped. -/
theorem dropWhileEnd_append_cons (front : List α) {a : α} (ha : p a = false) (rest : List α) :
    dropWhileEnd p (front ++ a :: rest) = front ++ a :: dropWhileEnd p rest := by
  induction rest using List.reverseRecOn with
  | nil => exact dropWhileEnd_concat front ha
  | append_singleton rest b ih =>
      cases hb : p b with
      | true =>
          have hone : ∀ c ∈ [b], p c = true := by simpa using hb
          rw [← List.cons_append, ← List.append_assoc, dropWhileEnd_append _ hone, ih,
            dropWhileEnd_append _ hone]
      | false =>
          rw [← List.cons_append, ← List.append_assoc, dropWhileEnd_concat _ hb,
            dropWhileEnd_concat _ hb, List.append_assoc, List.cons_append]

end

theorem isBlank_of_isPlainBlank {c : Char} (hc : isPlainBlank c = true) : isBlank c = true := by
  simp only [isPlainBlank, Bool.or_eq_true, beq_iff_eq] at hc
  rcases hc with (((rfl | rfl) | rfl) | rfl) | hc
  · rfl
  · rfl
  · rfl
  · rfl
  · simp [isBlank, hc]

theorem isBlank_of_isSpace {c : Char} (hc : isSpace c = true) : isBlank c = true := by
  simp only [isSpace, Bool.or_eq_true, beq_iff_eq] at hc
  rcases hc with rfl | rfl
  · rfl
  · rfl

/-- A blank is neither a letter nor a digit. -/
theorem isAlphanum_of_isBlank {c : Char} (hc : isBlank c = true) : c.isAlphanum = false := by
  have hchar : c.isAlphanum = ((decide ('A'.val ≤ c.val ∧ c.val ≤ 'Z'.val) ||
      decide ('a'.val ≤ c.val) && decide (c.val ≤ 'z'.val)) ||
        decide ('0'.val ≤ c.val) && decide (c.val ≤ '9'.val)) := rfl
  have hval : c.val.toNat = c.toNat := rfl
  have hspace : ' '.val.toNat = 32 := rfl
  have hupper : 'A'.val.toNat = 65 ∧ 'Z'.val.toNat = 90 := ⟨rfl, rfl⟩
  have hlower : 'a'.val.toNat = 97 ∧ 'z'.val.toNat = 122 := ⟨rfl, rfl⟩
  have hdigit : '0'.val.toNat = 48 ∧ '9'.val.toNat = 57 := ⟨rfl, rfl⟩
  by_contra halphanum
  simp only [hchar, Bool.not_eq_false, Bool.or_eq_true, Bool.and_eq_true, decide_eq_true_eq,
    UInt32.le_iff_toNat_le, hval] at halphanum
  simp only [isBlank, Bool.or_eq_true, Bool.and_eq_true, beq_iff_eq, decide_eq_true_eq,
    Char.ext_iff, UInt32.ext_iff, hval] at hc
  omega

theorem isAlpha_of_isBlank {c : Char} (hc : isBlank c = true) : c.isAlpha = false := by
  have halphanum := isAlphanum_of_isBlank hc
  rw [Char.isAlphanum, Bool.or_eq_false_iff] at halphanum
  exact halphanum.1

/-- What is taken from the end of a text is blank. -/
theorem exists_trimEnd_append (s : List Char) :
    ∃ blanks, isBlankText blanks = true ∧ s = trimEnd s ++ blanks := by
  obtain ⟨blanks, hblanks, hsplit⟩ := exists_dropWhileEnd_append isBlank s
  exact ⟨blanks, List.all_eq_true.2 hblanks, hsplit⟩

theorem trimEnd_isPrefix (s : List Char) : trimEnd s <+: s := dropWhileEnd_isPrefix isBlank s

theorem trimEnd_append_blanks (s : List Char) {blanks : List Char}
    (hblanks : isBlankText blanks = true) : trimEnd (s ++ blanks) = trimEnd s :=
  dropWhileEnd_append s (List.all_eq_true.1 hblanks)

theorem trimEnd_trimEnd (s : List Char) : trimEnd (trimEnd s) = trimEnd s := by
  obtain ⟨blanks, hblanks, hs⟩ := exists_trimEnd_append s
  conv_rhs => rw [hs]
  exact (trimEnd_append_blanks _ hblanks).symm

/-- A text that loses no blanks at its end has none there. -/
theorem eq_nil_of_trimEnd_append {a b : List Char} (h : trimEnd (a ++ b) = a ++ b)
    (hb : isBlankText b = true) : b = [] := by
  have hlength := congrArg List.length ((trimEnd_append_blanks a hb).symm.trans h)
  have hle := (trimEnd_isPrefix a).length_le
  rw [List.length_append] at hlength
  exact List.eq_nil_of_length_eq_zero (by omega)

/-- Only the second of two texts loses blanks at its end, if it holds something. -/
theorem trimEnd_append_of_not_blank (a : List Char) {b : List Char}
    (hb : isBlankText b = false) : trimEnd (a ++ b) = a ++ trimEnd b := by
  have hrest : (b.reverse.dropWhile isBlank).isEmpty = false := by
    by_contra hnil
    rw [Bool.not_eq_false, List.isEmpty_iff, List.dropWhile_eq_nil_iff] at hnil
    have hblank : isBlankText b = true :=
      List.all_eq_true.2 fun c hc => hnil c (List.mem_reverse.2 hc)
    rw [hblank] at hb
    cases hb
  rw [trimEnd, trimEnd, dropWhileEnd, dropWhileEnd, List.reverse_append, List.dropWhile_append,
    hrest]
  simp

/-- A text that does not end with a blank is not touched when another one comes after it. -/
theorem isPrefix_trimEnd_append {a : List Char} (ha : trimEnd a = a) (b : List Char) :
    a <+: trimEnd (a ++ b) := by
  cases hb : isBlankText b with
  | true =>
      have htrim : trimEnd (a ++ b) = a := (trimEnd_append_blanks a hb).trans ha
      exact ⟨[], by rw [htrim, List.append_nil]⟩
  | false =>
      rw [trimEnd_append_of_not_blank a hb]
      exact List.prefix_append a _

/-- Only the first of two texts loses blanks at its start, if it holds something. -/
theorem trimStart_append_of_not_blank {a : List Char} (ha : isBlankText a = false)
    (b : List Char) : trimStart (a ++ b) = trimStart a ++ b := by
  have hrest : (a.dropWhile isBlank).isEmpty = false := by
    by_contra hnil
    rw [Bool.not_eq_false, List.isEmpty_iff, List.dropWhile_eq_nil_iff] at hnil
    rw [isBlankText, List.all_eq_true.2 hnil] at ha
    cases ha
  rw [trimStart, trimStart, List.dropWhile_append, hrest]
  rfl

/-- A text that does not start with a blank stays as it is, and so does every start of it. -/
theorem trimStart_of_isPrefix {s t : List Char} (h : t <+: trimStart s) : trimStart t = t := by
  cases t with
  | nil => rfl
  | cons c t =>
      obtain ⟨rest, hs⟩ := h
      have hc : isBlank c = false := by
        have hhead := List.head?_dropWhile_not isBlank s
        rw [← trimStart, ← hs] at hhead
        simpa using hhead
      exact List.dropWhile_cons_of_neg (by simp [hc])

theorem trim_trim (s : List Char) : trim (trim s) = trim s := by
  have hstart : trimStart (trim s) = trim s := trimStart_of_isPrefix (trimEnd_isPrefix _)
  rw [trim, hstart]
  exact trimEnd_trimEnd _

/-- The texts that lose nothing are those with no blank at either end. -/
theorem trim_eq_self_iff {s : List Char} :
    trim s = s ↔ (∀ c ∈ s.head?, isBlank c = false) ∧ ∀ c ∈ s.getLast?, isBlank c = false := by
  constructor
  · intro htrim
    have hstart : trimStart s = s := by
      rw [← htrim]
      exact trimStart_of_isPrefix (trimEnd_isPrefix _)
    have hend : trimEnd s = s := by rwa [trim, hstart] at htrim
    constructor
    · intro c hc
      have hhead := List.head?_dropWhile_not isBlank s
      rwa [← trimStart, hstart, Option.mem_def.1 hc] at hhead
    · intro c hc
      obtain ⟨front, rfl⟩ := List.getLast?_eq_some_iff.1 hc
      by_contra hblank
      have hnone := eq_nil_of_trimEnd_append hend (by simpa [isBlankText] using hblank)
      exact List.cons_ne_nil _ _ hnone
  · rintro ⟨hhead, hlast⟩
    have hstart : trimStart s = s := by
      cases s with
      | nil => rfl
      | cons c s => exact List.dropWhile_cons_of_neg (by simp [hhead c rfl])
    have hend : trimEnd s = s := by
      rcases List.eq_nil_or_concat s with rfl | ⟨front, c, rfl⟩
      · rfl
      · rw [List.concat_eq_append] at hlast ⊢
        exact dropWhileEnd_concat front (hlast c (by simp))
    rw [trim, hstart, hend]

/-- Words without blanks that are joined by spaces have no blanks at their ends. -/
theorem trim_join_space {words : List (List Char)}
    (hwords : ∀ w ∈ words, w ≠ [] ∧ ∀ c ∈ w, isBlank c = false) :
    trim (join [' '] words) = join [' '] words := by
  rw [trim_eq_self_iff]
  induction words with
  | nil => exact ⟨by simp [join], by simp [join]⟩
  | cons w rest ih =>
      rw [List.forall_mem_cons] at hwords
      obtain ⟨⟨hne, hw⟩, hrest⟩ := hwords
      have hhead : ∀ c ∈ w.head?, isBlank c = false := fun c hc => hw c (List.mem_of_mem_head? hc)
      cases rest with
      | nil => exact ⟨hhead, fun c hc => hw c (List.mem_of_mem_getLast? hc)⟩
      | cons next rest =>
          obtain ⟨-, hlast⟩ := ih hrest
          have hnext : join [' '] (next :: rest) ≠ [] :=
            join_ne_nil (List.cons_ne_nil next rest) fun v hv => (hrest v hv).1
          have hjoin : join [' '] (w :: next :: rest) = w ++ [' '] ++ join [' '] (next :: rest) := rfl
          rw [hjoin, List.getLast?_append_of_ne_nil _ hnext, List.append_assoc,
            List.head?_append_of_ne_nil _ hne]
          exact ⟨hhead, hlast⟩

/-- What is left of a text is a stretch of it. -/
theorem trim_isInfix (s : List Char) : trim s <:+: s :=
  (trimEnd_isPrefix (trimStart s)).isInfix.trans (List.dropWhile_suffix isBlank).isInfix

theorem mem_of_mem_trim {c : Char} {s : List Char} (hc : c ∈ trim s) : c ∈ s :=
  (trim_isInfix s).subset hc

/-- What is no blank is left. -/
theorem mem_trim_of_mem {c : Char} {s : List Char} (hc : c ∈ s) (hblank : isBlank c = false) :
    c ∈ trim s := by
  have hnot : ∀ blanks, isBlankText blanks = true → c ∉ blanks := by
    intro blanks hblanks hmem
    rw [List.all_eq_true.1 hblanks c hmem] at hblank
    cases hblank
  have hstart : c ∈ trimStart s := by
    rw [← List.takeWhile_append_dropWhile (p := isBlank) (l := s), List.mem_append] at hc
    exact hc.resolve_left (hnot _ (List.all_takeWhile))
  obtain ⟨blanks, hblanks, hsplit⟩ := exists_trimEnd_append (trimStart s)
  rw [hsplit, List.mem_append] at hstart
  exact hstart.resolve_right (hnot blanks hblanks)

/-- Blanks at the end of a text are left out with those that were there. -/
theorem trim_append_blanks (s : List Char) {blanks : List Char}
    (hblanks : isBlankText blanks = true) : trim (s ++ blanks) = trim s := by
  cases hs : isBlankText s with
  | true =>
      have hall : ∀ c ∈ s, isBlank c = true := List.all_eq_true.1 hs
      have hnone : trimStart blanks = [] := List.dropWhile_eq_nil_iff.2 (List.all_eq_true.1 hblanks)
      rw [trim, trim, trimStart, List.dropWhile_append_of_pos hall, ← trimStart, hnone, trimStart,
        List.dropWhile_eq_nil_iff.2 hall]
  | false => rw [trim, trimStart_append_of_not_blank hs, trimEnd_append_blanks _ hblanks, ← trim]

/-- Nothing is left exactly of texts that are blank. -/
theorem trim_eq_nil_iff {s : List Char} : trim s = [] ↔ isBlankText s = true := by
  constructor
  · intro hs
    refine List.all_eq_true.2 fun c hc => ?_
    by_contra hblank
    have hmem := mem_trim_of_mem hc (Bool.eq_false_iff.2 hblank)
    rw [hs] at hmem
    exact List.not_mem_nil hmem
  · intro hs
    rw [trim, trimStart, List.dropWhile_eq_nil_iff.2 (List.all_eq_true.1 hs)]
    rfl

theorem isBlankText_append (a b : List Char) :
    isBlankText (a ++ b) = (isBlankText a && isBlankText b) :=
  List.all_append

/-- A text of which nothing is left is blank. -/
theorem isBlankText_of_trimEnd_eq_nil {s : List Char} (hs : trimEnd s = []) :
    isBlankText s = true := by
  obtain ⟨blanks, hblanks, hsplit⟩ := exists_trimEnd_append s
  rw [hsplit, hs]
  exact hblanks

theorem isBlankText_of_isInfix {s t : List Char} (h : s <:+: t) (ht : isBlankText t = true) :
    isBlankText s = true :=
  List.all_eq_true.2 fun c hc => List.all_eq_true.1 ht c (h.subset hc)

/-- The last line of a text that does not end with a blank holds something. -/
theorem isBlankText_last_of_trimEnd {s last : List Char} {init : List (List Char)}
    (hs : trimEnd s = s) (hne : s ≠ []) (hlines : lines s = init ++ [last]) :
    isBlankText last = false := by
  by_contra hblank
  rw [Bool.not_eq_false] at hblank
  have hsplit : s = init.flatMap (· ++ ['\n']) ++ last := by
    rw [← unlines_lines s, hlines, unlines_append init (List.cons_ne_nil _ _)]
    rfl
  rw [hsplit] at hs hne
  obtain rfl := eq_nil_of_trimEnd_append hs hblank
  rw [List.append_nil] at hs hne
  rcases List.eq_nil_or_concat init with rfl | ⟨front, line, rfl⟩
  · exact hne rfl
  · -- The text would end with the line feed before its last line.
    have hbreak : (front.concat line).flatMap (· ++ ['\n']) =
        front.flatMap (· ++ ['\n']) ++ line ++ ['\n'] := by simp
    rw [hbreak] at hs
    exact absurd (eq_nil_of_trimEnd_append hs rfl) (List.cons_ne_nil _ _)

/-- The lines of a text without the blanks at its end: those of the text up to the last one
that holds something, of which a part is left. -/
theorem lines_trimEnd {s : List Char} (hs : trimEnd s ≠ []) :
    ∃ init last gap rest, lines (trimEnd s) = init ++ [last] ∧ isBlankText last = false ∧
      lines s = init ++ (last ++ gap) :: rest ∧ isBlankText gap = true ∧
      ∀ line ∈ rest, isBlankText line = true := by
  obtain ⟨blanks, hblanks, hsplit⟩ := exists_trimEnd_append s
  obtain ⟨init, last, hinit⟩ := exists_lines_eq_concat (trimEnd s)
  obtain ⟨gap, rest, hrest⟩ := exists_lines_eq_cons blanks
  have hblank : ∀ line ∈ gap :: rest, isBlankText line = true := fun line hline =>
    isBlankText_of_isInfix (infix_of_mem_lines (hrest ▸ hline)) hblanks
  rw [List.forall_mem_cons] at hblank
  refine ⟨init, last, gap, rest, hinit, ?_, ?_, hblank⟩
  · exact isBlankText_last_of_trimEnd (trimEnd_trimEnd s) hs hinit
  · conv_lhs => rw [hsplit]
    exact lines_append hinit hrest

/-- The lines of a text that hold something, each without the blanks at its end. -/
def nonBlankLines (s : List Char) : List (List Char) :=
  ((lines s).filter (!isBlankText ·)).map trimEnd

theorem nonBlankLines_of_isBlankText {s : List Char} (hs : isBlankText s = true) :
    nonBlankLines s = [] := by
  rw [nonBlankLines, List.map_eq_nil_iff, List.filter_eq_nil_iff]
  intro line hline
  simp [isBlankText_of_isInfix (infix_of_mem_lines hline) hs]

/-- Lines that hold something and those after the last of them. -/
theorem filter_nonBlank (init : List (List Char)) {line : List Char} {rest : List (List Char)}
    (hline : isBlankText line = false) (hrest : ∀ l ∈ rest, isBlankText l = true) :
    (init ++ line :: rest).filter (!isBlankText ·) =
      init.filter (!isBlankText ·) ++ [line] := by
  have hnone : rest.filter (!isBlankText ·) = [] := by
    rw [List.filter_eq_nil_iff]
    intro l hl
    simp [hrest l hl]
  simp [hline, hnone]

@[simp]
theorem nonBlankLines_trimEnd (s : List Char) : nonBlankLines (trimEnd s) = nonBlankLines s := by
  by_cases hs : trimEnd s = []
  · rw [hs, nonBlankLines_of_isBlankText (isBlankText_of_trimEnd_eq_nil hs)]
    rfl
  · obtain ⟨init, last, gap, rest, hinit, hlast, hlines, hgap, hrest⟩ := lines_trimEnd hs
    have hwhole : isBlankText (last ++ gap) = false := by simp [isBlankText_append, hlast]
    rw [nonBlankLines, nonBlankLines, hinit, hlines, filter_nonBlank init hlast (by simp),
      filter_nonBlank init hwhole hrest]
    simp [trimEnd_append_blanks last hgap]

/-- A string that is not blank is taken without the blanks at its ends. -/
theorem trimmed?_eq (s : String) :
    trimmed? s = if trimmed s = "" then none else some (trimmed s) := by
  unfold trimmed? trimmed
  cases htrim : trim s.toList with
  | nil => rfl
  | cons c rest =>
      have hne : String.ofList (c :: rest) ≠ "" := by
        intro hempty
        have hchars := congrArg String.toList hempty
        simp at hchars
      rw [if_neg hne]

end StoryMend.Text
