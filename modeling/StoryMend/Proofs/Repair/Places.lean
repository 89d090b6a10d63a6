import StoryMend.Proofs.Repair.Literals
import StoryMend.Proofs.Repair.TagEnds

/-!
What a scan finds at a place.  It is told by the text from there on, by the last character
before it and by whether a string may start there.  So it is the same whatever follows a text,
unless a comment, a string or a tag that starts there has no end yet (`Finding.at_append`), and
the same whatever stands before its line, once something stands in the line
(`Finding.at_newline`).
-/

namespace StoryMend.Repair

open Text

/-! ### What stands at a place -/

/-- Whether a tag starts is told by the two characters after its `<`. -/
theorem isTagStart_append {before : Option Char} {rest w : List Char}
    (hmeets : Meets ('<' :: rest) w) :
    isTagStart before (rest ++ w) = isTagStart before rest := by
  -- A text that stops where the answer is still open must not go on with it.
  have hstart : '\n' ≠ ('<' :: rest).getLast (List.cons_ne_nil _ _) →
      ∀ c more, w = c :: more → c.isAlpha = false ∧ c ∉ ['/', '*', '>'] := by
    intro hlast c more hw
    refine hmeets.elim (fun h => ?_) fun h => h c (by rw [hw]; rfl)
    rw [List.getLast?_eq_some_getLast (List.cons_ne_nil _ _)] at h
    exact absurd (Option.some.inj h).symm hlast
  rcases rest with _ | ⟨c, more⟩
  · rcases w with _ | ⟨d, w⟩
    · rfl
    · obtain ⟨halpha, hmark⟩ := hstart (by simp) d w rfl
      have hslash : d ≠ '/' := fun hd => hmark (by simp [hd])
      have hbracket : d ≠ '>' := fun hd => hmark (by simp [hd])
      rw [List.nil_append, isTagStart, isTagStart]
      · simp [halpha, hbracket]
      · exact fun _ _ hd _ => hslash hd
  · by_cases hc : c = '/'
    · subst hc
      rcases more, w with ⟨_ | ⟨e, more⟩, _ | ⟨d, w⟩⟩
      · rfl
      · obtain ⟨halpha, hmark⟩ := hstart (by simp) d w rfl
        have hbracket : d ≠ '>' := fun hd => hmark (by simp [hd])
        have hnot : isTagStart before ['/'] = false := by
          rw [isTagStart]
          · rfl
          · exact fun _ _ _ h => List.cons_ne_nil _ _ h.symm
        rw [List.singleton_append, hnot, isTagStart]
        simp [halpha, hbracket]
      · rfl
      · rfl
    · rw [List.cons_append, isTagStart, isTagStart]
      · exact fun _ _ h _ => hc h
      · exact fun _ _ h _ => hc h

theorem literalLength?_lt (before rest : List Char) : literalLength? before ('<' :: rest) = none :=
  rfl

theorem Finding.at_of_ne_lt (before : List Char) {c : Char} (hc : c ≠ '<') (rest : List Char) :
    Finding.at before (c :: rest) =
      ((literalLength? before (c :: rest)).map Finding.literal).getD .plain := by
  unfold Finding.at
  split
  · next hlength => rw [hlength, Option.map_some, Option.getD_some]
  · next hlength =>
      rw [hlength, Option.map_none, Option.getD_none]
      split
      · next h => exact absurd (List.cons.inj h).1 hc
      · rfl

/-- What stands at a place is there whatever follows the text, unless a comment or a string
has no end yet, or a tag has none. -/
theorem Finding.at_append {before s w : List Char} (hs : s ≠ []) (hmeets : Meets s w)
    (hopen : isOpenLiteral before s = false)
    (htag : ∀ rest, s = '<' :: rest → isTagStart before.head? rest = true →
      Tag.read? rest = none → Tag.read? (rest ++ w) = none) :
    Finding.at before (s ++ w) = Finding.at before s ∧
      (Finding.at before s).length ≤ s.length := by
  obtain ⟨hsame, hle⟩ := literalLength?_append hs hmeets hopen
  obtain ⟨c, rest, rfl⟩ := List.exists_cons_of_ne_nil hs
  by_cases hc : c = '<'
  · subst hc
    rw [List.cons_append, Finding.at, Finding.at, literalLength?_lt, literalLength?_lt]
    simp only [isTagStart_append hmeets]
    split
    · next hstart =>
        cases hread : Tag.read? rest with
        | some t =>
            obtain ⟨front, back, rfl, hlength⟩ := Tag.exists_end_of_read? hread
            rw [Tag.read?_append_of_some hread]
            refine ⟨rfl, ?_⟩
            simp only [Finding.length, List.length_cons, List.length_append]
            omega
        | none =>
            rw [htag rest rfl hstart hread]
            exact ⟨rfl, by simp [Finding.length]⟩
    · exact ⟨rfl, by simp [Finding.length]⟩
  · rw [List.cons_append, at_of_ne_lt before hc, at_of_ne_lt before hc, ← List.cons_append, hsame]
    cases hlength : literalLength? before (c :: rest) with
    | some n => exact ⟨rfl, hle n hlength⟩
    | none => exact ⟨rfl, by simp [Finding.length]⟩

theorem Finding.at_of_literalLength? {before s : List Char} {n : Nat}
    (h : literalLength? before s = some n) : Finding.at before s = .literal n := by
  unfold Finding.at
  rw [h]

/-- Whether a character starts neither a tag nor a comment nor a string. -/
def startsNothing (c : Char) : Bool :=
  c != '<' && c != '/' && c != '"' && c != '\'' && c != '\x60'

theorem Finding.at_of_startsNothing (before : List Char) {c : Char} (hc : startsNothing c = true)
    (rest : List Char) : Finding.at before (c :: rest) = .plain := by
  simp only [startsNothing, Bool.and_eq_true, bne_iff_ne] at hc
  obtain ⟨⟨⟨⟨hlt, hslash⟩, hquote⟩, hapostrophe⟩, htemplate⟩ := hc
  have hlength : literalLength? before (c :: rest) = none := by
    rw [literalLength?_cons before (fun _ h => absurd h hslash) (fun _ h => absurd h hslash)]
    simp [hquote, hapostrophe, htemplate]
  rw [Finding.at_of_ne_lt before hlt, hlength]
  rfl

/-- A finding takes at least one character. -/
theorem Finding.length_pos (before : List Char) {s : List Char} (hs : s ≠ []) :
    0 < (Finding.at before s).length := by
  unfold Finding.at
  split
  · next n hlength =>
      unfold literalLength? at hlength
      split at hlength
      · split at hlength
        · cases hlength
        · obtain rfl := Option.some.inj hlength
          simp only [Finding.length]
          omega
      · obtain rfl := Option.some.inj hlength
        simp only [Finding.length]
        omega
      · split at hlength
        · obtain rfl := Option.some.inj hlength
          simp only [Finding.length]
          omega
        · cases hlength
      · cases hlength
  · split
    · split
      · split
        · next t hread =>
            obtain ⟨front, back, -, hlength⟩ := Tag.exists_end_of_read? hread
            simp only [Finding.length]
            omega
        · exact Nat.one_pos
      · exact Nat.one_pos
    · exact Nat.one_pos

/-- What is found at a place of a text does not go beyond its end. -/
theorem Finding.length_le (before : List Char) {s : List Char} (hs : s ≠ []) :
    (Finding.at before s).length ≤ s.length := by
  have hpos := List.length_pos_iff.2 hs
  unfold Finding.at
  split
  · next n hn => exact literalLength?_le hn
  · split
    · next rest _ =>
        split
        · split
          · next t ht =>
              obtain ⟨front, back, rfl, hlength⟩ := Tag.exists_end_of_read? ht
              rw [Finding.length, hlength, List.length_cons, List.length_append, List.length_cons]
              omega
          · exact hpos
        · exact hpos
    · exact hpos

/-! ### What stands before a line -/

/-- What comes after a start is told by the text up to a character that is not in it. -/
theorem head?_after?_concat {start : List Char} {d : Char} (hd : d ∉ start)
    (x y y' : List Char) :
    (after? start (x ++ d :: y)).map List.head? = (after? start (x ++ d :: y')).map List.head? := by
  induction start generalizing x with
  | nil =>
      cases x with
      | nil => rfl
      | cons c x => rfl
  | cons e start ih =>
      rw [List.mem_cons, not_or] at hd
      cases x with
      | nil => simp only [List.nil_append, after?, if_neg (Ne.symm hd.1)]
      | cons c x =>
          simp only [List.cons_append, after?]
          split
          · exact ih hd.2 x
          · rfl

/-- Whether a string may start is told by the text up to a character that is not in `return`,
once something stands there. -/
theorem inExpression_concat {d : Char} (hd : d ∉ "nruter".toList) {x : List Char}
    (hx : ∃ c ∈ x ++ [d], isPlainBlank c = false) (y y' : List Char) :
    inExpression (x ++ d :: y) = inExpression (x ++ d :: y') := by
  have hstops : (x ++ [d]).dropWhile isPlainBlank ≠ [] := by
    obtain ⟨c, hc, hblank⟩ := hx
    intro hnil
    rw [List.dropWhile_eq_nil_iff.1 hnil c hc] at hblank
    cases hblank
  obtain ⟨z, hz⟩ : ∃ z, (x ++ [d]).dropWhile isPlainBlank = z ++ [d] := by
    obtain ⟨front, hfront⟩ := List.dropWhile_suffix (l := x ++ [d]) isPlainBlank
    have hlast := congrArg List.getLast? hfront
    rw [List.getLast?_append_of_ne_nil _ hstops, List.getLast?_concat] at hlast
    exact List.getLast?_eq_some_iff.1 hlast
  obtain ⟨c, more, hmore⟩ := List.exists_cons_of_ne_nil (l := z ++ [d]) (by simp)
  have hread : ∀ v, inExpression (x ++ d :: v) =
      (expectsValue c || (((after? "nruter".toList (z ++ d :: v)).map List.head?).map
        fun e => !e.any fun c => c.isAlphanum || c == '_' || c == '$').getD false) := by
    intro v
    have hsplit : ∀ w, w ++ d :: v = w ++ [d] ++ v := fun w => by simp
    unfold inExpression
    rw [hsplit, hsplit, (takeWhile_append_of_stops hstops _).2, hz, hmore, List.cons_append]
    dsimp only
    cases after? "nruter".toList (c :: (more ++ v)) <;> rfl
  rw [hread, hread, head?_after?_concat hd]

/-- What stands at a place is told by the last character before it and by whether a string
may start there. -/
theorem Finding.at_congr {before before' : List Char} (hhead : before.head? = before'.head?)
    (hexpression : inExpression before = inExpression before') (s : List Char) :
    Finding.at before s = Finding.at before' s := by
  unfold Finding.at literalLength?
  rw [hhead, hexpression]

/-- Whether what a text starts with, blanks apart, starts nothing. -/
def startsPlainly (s : List Char) : Bool := (s.dropWhile isPlainBlank).head?.any startsNothing

theorem startsNothing_of_isPlainBlank {c : Char} (hc : isPlainBlank c = true) :
    startsNothing c = true := by
  by_contra hnot
  rw [Bool.not_eq_true] at hnot
  simp only [startsNothing, Bool.and_eq_false_iff, bne_eq_false_iff_eq] at hnot
  rcases hnot with (((rfl | rfl) | rfl) | rfl) | rfl <;> cases hc

/-- What a line starts with is the same whatever stands before the line. -/
theorem Finding.at_newline {x s : List Char}
    (hx : (∃ c ∈ x, isPlainBlank c = false) ∨ startsPlainly s = true) (y y' : List Char) :
    Finding.at (x ++ '\n' :: y) s = Finding.at (x ++ '\n' :: y') s := by
  rcases hx with hx | hs
  · obtain ⟨c, hc, hblank⟩ := hx
    refine Finding.at_congr ?_
      (inExpression_concat (by decide) ⟨c, List.mem_append_left _ hc, hblank⟩ y y') s
    rw [List.head?_append, List.head?_append]
    rfl
  · cases s with
    | nil => cases hs
    | cons c s =>
        have hc : startsNothing c = true := by
          by_cases hblank : isPlainBlank c = true
          · exact startsNothing_of_isPlainBlank hblank
          · rwa [startsPlainly, List.dropWhile_cons_of_neg hblank] at hs
        rw [Finding.at_of_startsNothing _ hc, Finding.at_of_startsNothing _ hc]

/-- Some way into such a text something stands before the place, or it is still to come. -/
theorem startsPlainly_drop {s : List Char} (hs : startsPlainly s = true) (n : Nat) :
    (∃ c ∈ s.take n, isPlainBlank c = false) ∨ startsPlainly (s.drop n) = true := by
  by_cases hblank : ∀ c ∈ s.take n, isPlainBlank c = true
  · refine Or.inr ?_
    rwa [← List.take_append_drop n s, startsPlainly, List.dropWhile_append_of_pos hblank] at hs
  · refine Or.inl ?_
    simpa using hblank

end StoryMend.Repair
