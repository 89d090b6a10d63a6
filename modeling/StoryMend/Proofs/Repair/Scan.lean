import StoryMend.Proofs.Repair.Places

/-!
How a scan for tags goes over texts that are put together.  Scans of two texts that start
alike go on alike until the common start ends or a comment or string without an end starts
in it (`exists_scanTags_stop`).  If none does, a scan of a text and something after it is a
scan of the text and then of what comes after (`scanTags_append`).  If one does, tags that
come after are not seen (`scanTags_append_of_endsInLiteral`, `scanTags_insert_of_endsLine`).
-/

namespace StoryMend.Repair

open Text

/-- The text before the place that a scan goes on from, last character first. -/
def passed (before s : List Char) : List Char :=
  (s.take (Finding.at before s).length).reverse ++ before

/-- The text from the place on that a scan goes on from. -/
def ahead (before s : List Char) : List Char := s.drop (Finding.at before s).length

/-- What is known of the tags with a finding that ends at the given place. -/
def Finding.addTo (o : OpenTags) (place : Nat) : Finding → OpenTags
  | .tag t => o.add t place
  | _ => o

/-- Whether a scan comes to the end of a text within a comment or a string. -/
def endsInLiteral (before : List Char) (s : List Char) : Bool :=
  match s with
  | [] => false
  | c :: rest =>
    let taken := (Finding.at before (c :: rest)).length - 1
    isOpenLiteral before (c :: rest) ||
      endsInLiteral ((rest.take taken).reverse ++ c :: before) (rest.drop taken)
termination_by s.length
decreasing_by simp only [List.length_drop, List.length_cons]; omega

section Steps

variable {before s : List Char} {o : OpenTags}

/-- The text before a place and from there on, told without the first character. -/
theorem passed_ahead_cons (before : List Char) (c : Char) (rest : List Char) :
    passed before (c :: rest) =
        (rest.take ((Finding.at before (c :: rest)).length - 1)).reverse ++ c :: before ∧
      ahead before (c :: rest) = rest.drop ((Finding.at before (c :: rest)).length - 1) := by
  unfold passed ahead
  obtain ⟨n, hn⟩ := Nat.exists_eq_succ_of_ne_zero
    (Finding.length_pos before (List.cons_ne_nil c rest)).ne'
  rw [hn]
  simp

/-- A scan goes on after what it finds. -/
theorem scanTags_step (before : List Char) (o : OpenTags) (hs : s ≠ []) :
    scanTags before o s =
      scanTags (passed before s) ((Finding.at before s).addTo o (passed before s).length)
        (ahead before s) := by
  obtain ⟨c, rest, rfl⟩ := List.exists_cons_of_ne_nil hs
  obtain ⟨hpassed, hahead⟩ := passed_ahead_cons before c rest
  rw [scanTags, hpassed, hahead]
  rfl

theorem endsInLiteral_step (before : List Char) (hs : s ≠ []) :
    endsInLiteral before s =
      (isOpenLiteral before s || endsInLiteral (passed before s) (ahead before s)) := by
  obtain ⟨c, rest, rfl⟩ := List.exists_cons_of_ne_nil hs
  obtain ⟨hpassed, hahead⟩ := passed_ahead_cons before c rest
  rw [endsInLiteral, hpassed, hahead]

/-- What holds at the end of a text, and before each finding if it holds after it. -/
@[elab_as_elim]
theorem scan_induction {motive : List Char → List Char → Prop}
    (nil : ∀ before, motive before [])
    (step : ∀ before s, s ≠ [] → motive (passed before s) (ahead before s) → motive before s)
    (before s : List Char) : motive before s := by
  by_cases hs : s = []
  · rw [hs]
    exact nil before
  · exact step before s hs (scan_induction nil step (passed before s) (ahead before s))
termination_by s.length
decreasing_by
  have hpos := Finding.length_pos before hs
  have hlength := List.length_pos_iff.2 hs
  rw [ahead, List.length_drop]
  omega

/-- No text is lost. -/
theorem reverse_ahead_append_passed (before s : List Char) :
    (ahead before s).reverse ++ passed before s = s.reverse ++ before := by
  rw [ahead, passed, ← List.append_assoc, ← List.reverse_append, List.take_append_drop]

theorem length_passed_add_ahead (before s : List Char) :
    (passed before s).length + (ahead before s).length = before.length + s.length := by
  have hlength := congrArg List.length (reverse_ahead_append_passed before s)
  simp only [List.length_append, List.length_reverse] at hlength
  omega

theorem length_lt_passed (before : List Char) (hs : s ≠ []) :
    before.length < (passed before s).length := by
  have hpos := Finding.length_pos before hs
  have hlength := List.length_pos_iff.2 hs
  rw [passed, List.length_append, List.length_reverse, List.length_take]
  omega

/-- A scan finds no tag, or the last one ends after its start. -/
theorem scanTags_cases (before : List Char) (o : OpenTags) (s : List Char) :
    scanTags before o s = o ∨ before.length < (scanTags before o s).lastEnd := by
  induction before, s using scan_induction generalizing o with
  | nil before => exact Or.inl (by rw [scanTags])
  | step before s hs ih =>
      have hlt := length_lt_passed before hs
      rw [scanTags_step before o hs]
      rcases ih ((Finding.at before s).addTo o (passed before s).length) with hnone | hfound
      · rw [hnone]
        cases Finding.at before s with
        | tag t => exact Or.inr hlt
        | literal n => exact Or.inl rfl
        | plain => exact Or.inl rfl
      · exact Or.inr (hlt.trans hfound)

/-- A tag that is found ends no later than the last one. -/
theorem le_lastEnd_of_tag {t : Tag} (h : Finding.at before s = .tag t) (o : OpenTags) :
    before.length + t.length ≤ (scanTags before o s).lastEnd := by
  obtain ⟨rest, rfl, hread⟩ := Finding.at_eq_tag h
  obtain ⟨front, back, rfl, hlength⟩ := Tag.exists_end_of_read? hread
  have hpassed : (passed before ('<' :: (front ++ '>' :: back))).length =
      before.length + t.length := by
    rw [passed, h, List.length_append, List.length_reverse, List.length_take, Finding.length]
    simp only [List.length_cons, List.length_append]
    omega
  rw [scanTags_step before o (List.cons_ne_nil _ _), h, ← hpassed]
  rcases scanTags_cases (passed before ('<' :: (front ++ '>' :: back)))
      (Finding.addTo o (passed before ('<' :: (front ++ '>' :: back))).length (.tag t))
      (ahead before ('<' :: (front ++ '>' :: back))) with hnone | hfound
  · rw [hnone]
    exact Nat.le_refl _
  · exact hfound.le

/-- A comment or a string is passed over. -/
theorem scanTags_of_literal {n : Nat} (o : OpenTags) (hs : s ≠ [])
    (h : literalLength? before s = some n) :
    scanTags before o s = scanTags ((s.take n).reverse ++ before) o (s.drop n) := by
  rw [scanTags_step before o hs, passed, ahead, Finding.at_of_literalLength? h]
  rfl

/-- Where no tag is found in a line and those after it, none is found if other lines come
before them. -/
theorem scanTags_newline {x y : List Char}
    (hx : (∃ c ∈ x, isPlainBlank c = false) ∨ startsPlainly s = true)
    (hnone : (scanTags (x ++ '\n' :: y) o s).lastEnd ≤ (x ++ '\n' :: y).length)
    (y' : List Char) (o' : OpenTags) : scanTags (x ++ '\n' :: y') o' s = o' := by
  -- Each step takes some of the line along, so `x` grows with it.
  generalize hbefore : x ++ '\n' :: y = before at hnone
  induction before, s using scan_induction generalizing x o o' with
  | nil before => rw [scanTags]
  | step before s hs ih =>
      subst hbefore
      have hfinding := Finding.at_newline hx y y'
      have hpassed : ∀ z, (s.take (Finding.at (x ++ '\n' :: y) s).length).reverse ++
          (x ++ '\n' :: z) =
          ((s.take (Finding.at (x ++ '\n' :: y) s).length).reverse ++ x) ++ '\n' :: z :=
        fun z => (List.append_assoc _ _ _).symm
      have hmore : (∃ c ∈ (s.take (Finding.at (x ++ '\n' :: y) s).length).reverse ++ x,
          isPlainBlank c = false) ∨ startsPlainly (ahead (x ++ '\n' :: y) s) = true := by
        rcases hx with ⟨c, hc, hblank⟩ | hs
        · exact Or.inl ⟨c, List.mem_append_right _ hc, hblank⟩
        · refine (startsPlainly_drop hs _).imp_left ?_
          rintro ⟨c, hc, hblank⟩
          exact ⟨c, List.mem_append_left _ (List.mem_reverse.2 hc), hblank⟩
      have hsame : ∀ before' o₁, (Finding.at (x ++ '\n' :: y) s).addTo o₁ before' = o₁ := by
        intro place o₁
        cases hf : Finding.at (x ++ '\n' :: y) s with
        | tag t =>
            have hle := (le_lastEnd_of_tag hf o).trans hnone
            have hpos := Finding.length_pos (x ++ '\n' :: y) hs
            rw [hf, Finding.length] at hpos
            omega
        | literal n => rfl
        | plain => rfl
      rw [scanTags_step _ o' hs, passed, ahead, ← hfinding, hsame, hpassed]
      rw [scanTags_step _ o hs, hsame] at hnone
      exact ih hmore o' (hpassed y).symm (hnone.trans (length_lt_passed _ hs).le)

/-- A character that means nothing is passed over. -/
theorem scanTags_of_plain {c : Char} (h : Finding.at before (c :: s) = .plain) (o : OpenTags) :
    scanTags before o (c :: s) = scanTags (c :: before) o s := by
  rw [scanTags_step before o (List.cons_ne_nil c s), passed, ahead, h]
  rfl

/-- Where nothing starts no tag is found. -/
theorem scanTags_append_of_startsNothing (hs : ∀ c ∈ s, startsNothing c = true)
    (before : List Char) (o : OpenTags) (x : List Char) :
    scanTags before o (s ++ x) = scanTags (s.reverse ++ before) o x := by
  induction s generalizing before with
  | nil => rfl
  | cons c s ih =>
      obtain ⟨hc, hs⟩ := List.forall_mem_cons.1 hs
      rw [List.cons_append, scanTags_of_plain (Finding.at_of_startsNothing before hc (s ++ x)),
        ih hs, List.reverse_cons, List.append_assoc, List.singleton_append]

theorem scanTags_of_startsNothing (hs : ∀ c ∈ s, startsNothing c = true) (before : List Char)
    (o : OpenTags) : scanTags before o s = o := by
  rw [← List.append_nil s, scanTags_append_of_startsNothing hs, scanTags]

/-- A tag that is read is taken into account and passed over. -/
theorem scanTags_of_tag {rest x : List Char} {t : Tag} (o : OpenTags)
    (hstart : isTagStart before.head? (rest ++ x) = true)
    (hread : Tag.read? (rest ++ x) = some t) (hlength : t.length = rest.length + 1) :
    scanTags before o ('<' :: rest ++ x) =
      scanTags (('<' :: rest).reverse ++ before)
        (o.add t (('<' :: rest).reverse ++ before).length) x := by
  have hfinding : Finding.at before ('<' :: rest ++ x) = .tag t := by
    rw [List.cons_append, Finding.at, literalLength?_lt]
    simp only [hstart, hread, ↓reduceIte]
  have hwhole : t.length = ('<' :: rest).length := by rw [hlength, List.length_cons]
  rw [scanTags_step before o (List.append_ne_nil_of_left_ne_nil (List.cons_ne_nil _ _) x), passed,
    ahead, hfinding, Finding.length, hwhole, List.take_left, List.drop_left]
  rfl

end Steps

section Appended

variable {before front back w : List Char}

/-- A finding within a text and what follows the text. -/
theorem passed_ahead_append (hfinding : Finding.at before (front ++ w) = Finding.at before front)
    (hle : (Finding.at before front).length ≤ front.length) :
    passed before (front ++ w) = passed before front ∧
      ahead before (front ++ w) = ahead before front ++ w := by
  rw [passed, passed, ahead, ahead, hfinding, List.take_append_of_le_length hle,
    List.drop_append_of_le_length hle]
  exact ⟨rfl, rfl⟩

theorem scanTags_step_append (o : OpenTags) (hne : front ≠ [])
    (hfinding : Finding.at before (front ++ w) = Finding.at before front)
    (hle : (Finding.at before front).length ≤ front.length) :
    scanTags before o (front ++ w) =
      scanTags (passed before front)
        ((Finding.at before front).addTo o (passed before front).length)
        (ahead before front ++ w) := by
  obtain ⟨hpassed, hahead⟩ := passed_ahead_append hfinding hle
  rw [scanTags_step before o (List.append_ne_nil_of_left_ne_nil hne w), hfinding, hpassed, hahead]

theorem Meets.ahead (hmeets : front ≠ [] → Meets front w) (hne : ahead before front ≠ []) :
    Meets (ahead before front) w := by
  have hfront : front ≠ [] := by
    rintro rfl
    exact hne List.drop_nil
  refine (hmeets hfront).imp_left fun hlast => ?_
  rw [← hlast]
  exact List.getLast?_drop ▸ if_neg (by simpa [Repair.ahead] using hne)

/-- A scan leaves the place of the last tag within the text. -/
theorem lastEnd_scanTags_le {o : OpenTags} (ho : o.lastEnd ≤ before.length) (s : List Char) :
    (scanTags before o s).lastEnd ≤ before.length + s.length := by
  induction before, s using scan_induction generalizing o with
  | nil before =>
      rw [scanTags]
      exact ho
  | step before s hs ih =>
      rw [scanTags_step before o hs, ← length_passed_add_ahead]
      refine ih ?_
      have hle := ho.trans (length_lt_passed before hs).le
      cases Finding.at before s with
      | tag t => exact Nat.le_refl _
      | literal n => exact hle
      | plain => exact hle

variable (hw : front ≠ [] → Meets front w) (hback : front ≠ [] → Meets front back)

include hw hback

/-- Scans of two texts that start alike come together to the end of what they have in common,
or to a comment or a string that has no end there.  No tag may start in the common part and
end in the rest of either text; for one of them it is told by where its last tag ends. -/
theorem exists_scanTags_stop (o : OpenTags)
    (hlast : (scanTags before o (front ++ back)).lastEnd ≤ before.length + front.length)
    (htag : ∀ rest, '<' :: rest <:+ front → Tag.read? rest = none →
      Tag.read? (rest ++ back) = none → Tag.read? (rest ++ w) = none) :
    ∃ before' rest o', rest.reverse ++ before' = front.reverse ++ before ∧ rest <:+ front ∧
      scanTags before o (front ++ back) = scanTags before' o' (rest ++ back) ∧
      scanTags before o (front ++ w) = scanTags before' o' (rest ++ w) ∧
      if endsInLiteral before front then isOpenLiteral before' rest = true else rest = [] := by
  induction before, front using scan_induction generalizing o with
  | nil before =>
      refine ⟨before, [], o, rfl, List.suffix_rfl, rfl, rfl, ?_⟩
      rw [endsInLiteral]
      rfl
  | step before front hne ih =>
      cases hopen : isOpenLiteral before front with
      | true =>
          refine ⟨before, front, o, rfl, List.suffix_rfl, rfl, rfl, ?_⟩
          rw [endsInLiteral_step before hne, hopen, Bool.true_or, if_pos rfl]
      | false =>
          -- A tag that ends in what comes after would be found there.
          have hunread : ∀ rest, front = '<' :: rest → isTagStart before.head? rest = true →
              Tag.read? rest = none → Tag.read? (rest ++ back) = none := by
            rintro rest rfl hstart hnone
            cases hread : Tag.read? (rest ++ back) with
            | none => rfl
            | some t =>
                have hfound : Finding.at before ('<' :: rest ++ back) = .tag t := by
                  rw [List.cons_append, Finding.at, literalLength?_lt]
                  simp only [isTagStart_append (hback hne), hstart, hread, ↓reduceIte]
                have hle := (le_lastEnd_of_tag hfound o).trans hlast
                rw [List.length_cons] at hle
                rw [Tag.read?_of_append hread (by omega)] at hnone
                cases hnone
          -- The finding is the same in both texts, and the rest of the common start is shorter.
          obtain ⟨hfinding, hle⟩ := Finding.at_append hne (hback hne) hopen hunread
          obtain ⟨hfinding', -⟩ := Finding.at_append hne (hw hne) hopen
            fun rest hrest hstart hnone =>
              htag rest (hrest ▸ List.suffix_rfl) hnone (hunread rest hrest hstart hnone)
          rw [scanTags_step_append o hne hfinding hle, ← length_passed_add_ahead] at hlast
          obtain ⟨before', rest, o', hplace, hrest, hscan, hscan', hstop⟩ :=
            ih (Meets.ahead hw) (Meets.ahead hback) _ hlast fun rest hrest =>
              htag rest (hrest.trans (List.drop_suffix _ _))
          refine ⟨before', rest, o', ?_, hrest.trans (List.drop_suffix _ _), ?_, ?_, ?_⟩
          · rw [hplace, reverse_ahead_append_passed]
          · rw [scanTags_step_append o hne hfinding hle, hscan]
          · rw [scanTags_step_append o hne hfinding' hle, hscan']
          · rwa [endsInLiteral_step before hne, hopen, Bool.false_or]

/-- A scan of a text and something after it is a scan of the text and then of what comes
after, if the text does not end in a comment or a string. -/
theorem scanTags_append (o : OpenTags) (hopen : endsInLiteral before front = false)
    (hlast : (scanTags before o (front ++ back)).lastEnd ≤ before.length + front.length)
    (htag : ∀ rest, '<' :: rest <:+ front → Tag.read? rest = none →
      Tag.read? (rest ++ back) = none → Tag.read? (rest ++ w) = none) :
    scanTags before o (front ++ w) =
      scanTags (front.reverse ++ before) (scanTags before o (front ++ back)) w := by
  obtain ⟨before', rest, o', hplace, -, hscan, hscan', hstop⟩ :=
    exists_scanTags_stop hw hback o hlast htag
  obtain rfl : rest = [] := by
    rwa [hopen] at hstop
  rw [List.reverse_nil, List.nil_append] at hplace
  subst hplace
  rw [hscan', hscan, List.nil_append, List.nil_append]
  rcases scanTags_cases (front.reverse ++ before) o' back with hnone | hfound
  · rw [hnone]
  · rw [hscan, List.nil_append] at hlast
    rw [List.length_append, List.length_reverse] at hfound
    omega

omit hw hback

/-- A comment or a string that has no end takes in the tags after it. -/
theorem scanTags_of_isOpenLiteral {x : List Char} (o : OpenTags)
    (hopen : isOpenLiteral before front = true) (hw : ∀ c ∈ w, isQuiet c = true)
    (hhead : w.head? ≠ some '/') (hx : ∀ c ∈ x, startsNothing c = true) :
    scanTags before o (front ++ (w ++ x)) = o := by
  have hne : front ≠ [] := by
    rintro rfl
    cases hopen
  obtain ⟨n, hlength, hle⟩ := exists_literalLength?_of_isOpenLiteral hopen hw hhead x
  have hfinding := Finding.at_of_literalLength? hlength
  rw [scanTags_step before o (List.append_ne_nil_of_left_ne_nil hne _), hfinding]
  refine scanTags_of_startsNothing (fun c hc => hx c ?_) _ _
  rw [ahead, hfinding, Finding.length, ← List.append_assoc, List.drop_append,
    List.drop_eq_nil_of_le (by rwa [List.length_append]), List.nil_append] at hc
  exact List.mem_of_mem_drop hc

theorem meets_nil (s : List Char) : Meets s [] := Or.inr fun _ h => nomatch h

/-- Tags that are added where a text ends in a comment or a string are not seen. -/
theorem scanTags_append_of_endsInLiteral {x : List Char} {o : OpenTags}
    (ho : o.lastEnd ≤ before.length) (hopen : endsInLiteral before front = true)
    (hmeets : Meets front (w ++ x)) (hw : ∀ c ∈ w, isQuiet c = true)
    (hhead : w.head? ≠ some '/') (hx : ∀ c ∈ x, startsNothing c = true)
    (htag : ∀ rest, '<' :: rest <:+ front → Tag.read? rest = none →
      Tag.read? (rest ++ (w ++ x)) = none) :
    scanTags before o (front ++ (w ++ x)) = scanTags before o front := by
  have hlast := lastEnd_scanTags_le ho front
  rw [← List.append_nil front] at hlast
  obtain ⟨before', rest, o', -, -, hscan, hscan', hstop⟩ :=
    exists_scanTags_stop (fun _ => hmeets) (fun _ => meets_nil front) o (by simpa using hlast)
      fun rest hrest hnone _ => htag rest hrest hnone
  rw [hopen, if_pos rfl] at hstop
  have halone := scanTags_of_isOpenLiteral (w := []) (x := []) o' hstop (by simp) (by simp)
    (by simp)
  rw [List.append_nil] at hscan halone
  rw [hscan', scanTags_of_isOpenLiteral o' hstop hw hhead hx, hscan, halone]

/-- Lines that are added where a line starts within a comment or a template are not seen,
nor do they change what is seen after it. -/
theorem scanTags_insert_of_endsLine (o : OpenTags) (hopen : endsInLiteral before front = true)
    (hfront : front.getLast? = some '\n') (hescape : ¬ ['\\', '\n'] <:+ front)
    (hlast : (scanTags before o (front ++ back)).lastEnd ≤ before.length + front.length)
    (hback : startsPlainly back = true) (hmeets : Meets front (w ++ back))
    (hw : ∀ c ∈ w, isKept c = true) (hend : w.getLast? = some '\n')
    (htag : ∀ rest, '<' :: rest <:+ front → Tag.read? rest = none →
      Tag.read? (rest ++ back) = none → Tag.read? (rest ++ (w ++ back)) = none) :
    scanTags before o (front ++ (w ++ back)) = scanTags before o (front ++ back) := by
  obtain ⟨before', rest, o', hplace, hrest, hscan, hscan', hstop⟩ :=
    exists_scanTags_stop (fun _ => hmeets) (fun _ => Or.inl hfront) o hlast htag
  rw [hopen, if_pos rfl] at hstop
  have hne : rest ≠ [] := by
    rintro rfl
    cases hstop
  have hline : rest.getLast? = some '\n' := by
    obtain ⟨pre, rfl⟩ := hrest
    rwa [List.getLast?_append_of_ne_nil _ hne] at hfront
  obtain ⟨more, hlength, hmore⟩ := exists_literalLength?_of_endsLine hstop hline
    fun h => hescape (h.trans hrest)
  have hshort : (scanTags before' o' (rest ++ back)).lastEnd ≤
      before'.length + rest.length := by
    have hlengths := congrArg List.length hplace
    simp only [List.length_append, List.length_reverse] at hlengths
    rw [← hscan]
    omega
  obtain ⟨r, rfl⟩ := List.getLast?_eq_some_iff.1 hline
  obtain ⟨v, rfl⟩ := List.getLast?_eq_some_iff.1 hend
  -- The comment or template is passed over, with the added lines and without them.
  have hwithout : scanTags before' o' (r ++ ['\n'] ++ back) =
      scanTags ((back.take (more back)).reverse ++ '\n' :: (r.reverse ++ before')) o'
        (back.drop (more back)) := by
    rw [scanTags_of_literal o' (by simp) (hlength back), List.take_length_add_append,
      List.drop_length_add_append]
    simp
  have hwith : scanTags before' o' (r ++ ['\n'] ++ (v ++ ['\n'] ++ back)) =
      scanTags ((back.take (more back)).reverse ++
        '\n' :: (v.reverse ++ '\n' :: (r.reverse ++ before'))) o' (back.drop (more back)) := by
    rw [scanTags_of_literal o' (by simp) (hlength _), List.take_length_add_append,
      List.drop_length_add_append, hmore _ back hw, List.take_length_add_append,
      List.drop_length_add_append]
    simp
  have hseen : (∃ c ∈ (back.take (more back)).reverse, isPlainBlank c = false) ∨
      startsPlainly (back.drop (more back)) = true := by
    simpa using startsPlainly_drop hback (more back)
  rw [hwithout] at hshort hscan
  rw [hscan', hscan, hwith]
  have hnone := hshort.trans (show _ ≤ ((back.take (more back)).reverse ++
      '\n' :: (r.reverse ++ before')).length by simp; omega)
  rw [scanTags_newline hseen hnone, scanTags_newline hseen hnone]

/-- Whether a character starts nothing and makes no mark with the one before it. -/
def isFiller (c : Char) : Bool := startsNothing c && !c.isAlpha && c != '*' && c != '>'

theorem startsNothing_of_isFiller {c : Char} (hc : isFiller c = true) : startsNothing c = true := by
  simp only [isFiller, Bool.and_eq_true] at hc
  exact hc.1.1.1

theorem not_mem_of_isFiller (hw : ∀ c ∈ w, isFiller c = true) : '>' ∉ w :=
  fun hmem => absurd (hw _ hmem) (by decide)

theorem Meets.of_isFiller (hw : ∀ c ∈ w, isFiller c = true) (front : List Char) :
    Meets front w := by
  refine Or.inr fun c hc => ?_
  have hfiller := hw c (List.mem_of_head? hc)
  have hslash : c ≠ '/' := by
    rintro rfl
    cases hfiller
  simp only [isFiller, Bool.and_eq_true, Bool.not_eq_true', bne_iff_ne] at hfiller
  obtain ⟨⟨⟨-, halpha⟩, hstar⟩, hbracket⟩ := hfiller
  exact ⟨halpha, by simp [hslash, hstar, hbracket]⟩

/-- What is filled in after a text changes nothing. -/
theorem scanTags_append_fillers {o : OpenTags} (ho : o.lastEnd ≤ before.length)
    (hw : ∀ c ∈ w, isFiller c = true) :
    scanTags before o (front ++ w) = scanTags before o front := by
  have hmeets : Meets front w := Meets.of_isFiller hw front
  have hnothing : ∀ c ∈ w, startsNothing c = true :=
    fun c hc => startsNothing_of_isFiller (hw c hc)
  have htag : ∀ rest, '<' :: rest <:+ front → Tag.read? rest = none →
      Tag.read? (rest ++ w) = none :=
    fun _ _ hnone => Tag.read?_append_of_not_mem hnone (not_mem_of_isFiller hw)
  cases hopen : endsInLiteral before front with
  | true =>
      exact scanTags_append_of_endsInLiteral (w := []) ho hopen hmeets (by simp) (by simp)
        hnothing htag
  | false =>
      have hlast := lastEnd_scanTags_le ho front
      rw [← List.append_nil front] at hlast
      rw [scanTags_append (fun _ => hmeets) (fun _ => meets_nil front) o hopen
        (by simpa using hlast) fun rest hrest hnone _ => htag rest hrest hnone,
        scanTags_of_startsNothing hnothing, List.append_nil]

end Appended

end StoryMend.Repair
