import StoryMend.Proofs.Repair.Passes

/-!
Tags and what follows them.  A tag that ends is the same whatever follows
(`Tag.read?_append_of_some`); one that has no end has none either once other tags follow
(`Tag.read?_append_plain`), because it meets a `<`, or is in a string or in braces that tags do
not end.
-/

namespace StoryMend.Repair

open Text

/-! ### Attributes -/

section Tags

variable {st : AttributeState} {n m : Nat} {kind : TagKind} {s : List Char}

/-- A tag ends with its bracket. -/
theorem readAttributes_eq_some (h : readAttributes st n s = some (kind, m)) :
    ∃ front back, s = front ++ '>' :: back ∧ m = n + front.length + 1 := by
  induction s generalizing st n with
  | nil => cases h
  | cons c s ih =>
      rw [readAttributes] at h
      split at h
      · next hend =>
          simp only [Bool.and_eq_true, beq_iff_eq] at hend
          obtain ⟨-, rfl⟩ := Prod.mk.inj (Option.some.inj h)
          exact ⟨[], s, by rw [hend.2]; rfl, rfl⟩
      · split at h
        · cases h
        · obtain ⟨front, back, rfl, rfl⟩ := ih h
          exact ⟨c :: front, back, rfl, by rw [List.length_cons]; omega⟩

theorem readAttributes_append_of_some (h : readAttributes st n s = some (kind, m))
    (w : List Char) : readAttributes st n (s ++ w) = some (kind, m) := by
  induction s generalizing st n with
  | nil => cases h
  | cons c s ih =>
      rw [List.cons_append]
      rw [readAttributes] at h ⊢
      split at h
      · next hend => rw [if_pos hend, h]
      · next hend =>
          rw [if_neg hend]
          split at h
          · cases h
          · next hstart => rw [if_neg hstart, ih h]

/-- A tag that ends within a text is read from the text alone. -/
theorem readAttributes_of_append {w : List Char}
    (h : readAttributes st n (s ++ w) = some (kind, m)) (hm : m ≤ n + s.length) :
    readAttributes st n s = some (kind, m) := by
  induction s generalizing st n with
  | nil =>
      obtain ⟨front, back, -, rfl⟩ := readAttributes_eq_some h
      simp only [List.length_nil] at hm
      omega
  | cons c s ih =>
      rw [List.cons_append] at h
      rw [readAttributes] at h ⊢
      split at h
      · next hend => rw [if_pos hend, h]
      · next hend =>
          rw [if_neg hend]
          split at h
          · cases h
          · next hstart =>
              rw [if_neg hstart]
              exact ih h (by rw [List.length_cons] at hm; omega)

/-- Without a bracket no tag ends. -/
theorem readAttributes_of_not_mem (h : '>' ∉ s) : readAttributes st n s = none := by
  cases hread : readAttributes st n s with
  | none => rfl
  | some found =>
      obtain ⟨kind, m⟩ := found
      obtain ⟨front, back, rfl, -⟩ := readAttributes_eq_some hread
      exact absurd (by simp) h

/-- A tag that does not end within a text has met another one, or is read on. -/
theorem readAttributes_append_of_none (h : readAttributes st n s = none) :
    (∀ w, readAttributes st n (s ++ w) = none) ∨
      ∀ w, readAttributes st n (s ++ w) =
        readAttributes (s.foldl AttributeState.step st) (n + s.length) w := by
  induction s generalizing st n with
  | nil => exact Or.inr fun w => rfl
  | cons c s ih =>
      rw [readAttributes] at h
      split at h
      · cases h
      · next hend =>
          split at h
          · next hstart =>
              refine Or.inl fun w => ?_
              rw [List.cons_append, readAttributes, if_neg hend, if_pos hstart]
          · next hstart =>
              have hnext : ∀ w, readAttributes st n (c :: s ++ w) =
                  readAttributes (st.step c) (n + 1) (s ++ w) := by
                intro w
                rw [List.cons_append, readAttributes, if_neg hend, if_neg hstart]
              rcases ih h with hnone | hmore
              · exact Or.inl fun w => (hnext w).trans (hnone w)
              · refine Or.inr fun w => ?_
                rw [hnext, hmore, List.foldl_cons, List.length_cons, Nat.add_assoc,
                  Nat.add_comm 1]

/-- Whether a character opens or ends no string within a tag and is no brace. -/
def isAttributePlain (c : Char) : Bool :=
  c != '"' && c != '\'' && c != '\x60' && c != '{' && c != '}'

namespace AttributeState

theorem step_quote (st : AttributeState) (c : Char) :
    (st.step c).quote =
      match st.quote with
      | some q => if c == q && st.previous != some '\\' then none else some q
      | none => if c == '"' || c == '\'' || c == '\x60' then some c else none := by
  rw [step]
  cases hquote : st.quote with
  | some q => simp only; split <;> simp [hquote]
  | none => simp only; split_ifs <;> simp [hquote]

theorem step_depth (st : AttributeState) (c : Char) :
    (st.step c).depth =
      if st.quote.isSome || c == '"' || c == '\'' || c == '\x60' then st.depth
      else if c == '{' then st.depth + 1
      else if c == '}' then st.depth - 1
      else st.depth := by
  rw [step]
  cases hquote : st.quote with
  | some q => simp only; split <;> simp
  | none => simp only; split_ifs <;> simp_all

/-- The quote of a string within a tag is one of the three. -/
def IsProper (st : AttributeState) : Prop := ∀ q ∈ st.quote, q = '"' ∨ q = '\'' ∨ q = '\x60'

theorem IsProper.step {st : AttributeState} (h : st.IsProper) (c : Char) :
    (st.step c).IsProper := by
  intro q hq
  rw [step_quote] at hq
  cases hquote : st.quote with
  | some q' =>
      simp only [hquote] at hq
      split at hq
      · cases hq
      · exact h q (hquote.trans hq)
  | none =>
      simp only [hquote] at hq
      split at hq
      · next hmark =>
          obtain rfl := Option.some.inj hq
          simpa only [Bool.or_eq_true, beq_iff_eq, or_assoc] using hmark
      · cases hq

theorem IsProper.foldl {st : AttributeState} (h : st.IsProper) (s : List Char) :
    (s.foldl AttributeState.step st).IsProper := by
  induction s generalizing st with
  | nil => exact h
  | cons c s ih => exact ih (h.step c)

/-- The last character that was read is known. -/
theorem foldl_previous (st : AttributeState) {s : List Char} (hs : s ≠ []) :
    (s.foldl AttributeState.step st).previous = s.getLast? := by
  obtain ⟨front, c, rfl⟩ := List.eq_nil_or_concat s |>.resolve_left hs
  rw [List.concat_eq_append, List.foldl_append, List.getLast?_concat]
  rfl

/-- What is no quote and no brace changes neither the string nor the braces that are open. -/
theorem step_of_isAttributePlain {st : AttributeState} (hst : st.IsProper) {c : Char}
    (hc : isAttributePlain c = true) :
    (st.step c).quote = st.quote ∧ (st.step c).depth = st.depth := by
  simp only [isAttributePlain, Bool.and_eq_true, bne_iff_ne] at hc
  obtain ⟨⟨⟨⟨hquote, hapostrophe⟩, htemplate⟩, hopening⟩, hclosing⟩ := hc
  constructor
  · rw [step_quote]
    cases hopen : st.quote with
    | some q =>
        have hne : c ≠ q := by
          rintro rfl
          rcases hst _ hopen with h | h | h
          · exact hquote h
          · exact hapostrophe h
          · exact htemplate h
        simp [hne]
    | none => simp [hquote, hapostrophe, htemplate]
  · rw [step_depth]
    simp [hquote, hapostrophe, htemplate, hopening, hclosing]

end AttributeState

/-- Readings that differ in what they remember of the text before end alike. -/
theorem readAttributes_congr {st' : AttributeState} {n' : Nat} (hquote : st.quote = st'.quote)
    (hdepth : st.depth = st'.depth) (hprevious : st.previous = st'.previous)
    (h : readAttributes st n s = none) : readAttributes st' n' s = none := by
  -- What was significant last only tells of which kind a tag is that ends.
  induction s generalizing st st' n n' with
  | nil => rfl
  | cons c s ih =>
      rw [readAttributes] at h ⊢
      rw [← hquote, ← hdepth]
      split at h
      · cases h
      · next hend =>
          rw [if_neg hend]
          split
          · rfl
          · next hstart =>
              rw [if_neg hstart] at h
              refine ih ?_ ?_ ?_ h
              · rw [AttributeState.step_quote, AttributeState.step_quote, hquote, hprevious]
              · rw [AttributeState.step_depth, AttributeState.step_depth, hquote, hdepth]
              · rfl

/-- Within a string or braces, what changes neither is read on. -/
theorem readAttributes_plain {w : List Char} (hst : st.IsProper)
    (hin : st.quote.isSome ∨ st.depth ≠ 0) (hw : ∀ c ∈ w, isAttributePlain c = true) :
    (w.foldl AttributeState.step st).quote = st.quote ∧
      (w.foldl AttributeState.step st).depth = st.depth ∧
      ∀ n x, readAttributes st n (w ++ x) =
        readAttributes (w.foldl AttributeState.step st) (n + w.length) x := by
  induction w generalizing st with
  | nil => exact ⟨rfl, rfl, fun n x => rfl⟩
  | cons c w ih =>
      obtain ⟨hc, hw⟩ := List.forall_mem_cons.1 hw
      obtain ⟨hquote, hdepth⟩ := AttributeState.step_of_isAttributePlain hst hc
      have hinside : (st.step c).quote.isSome ∨ (st.step c).depth ≠ 0 := by
        rwa [hquote, hdepth]
      obtain ⟨hquote', hdepth', hread⟩ := ih (hst.step c) hinside hw
      refine ⟨hquote'.trans hquote, hdepth'.trans hdepth, fun n x => ?_⟩
      have hnot : (st.quote.isNone && st.depth == 0) = false := by
        rcases hin with hin | hin
        · rw [Option.isSome_iff_exists] at hin
          obtain ⟨q, hq⟩ := hin
          simp [hq]
        · simp [hin]
      rw [List.cons_append, readAttributes]
      simp only [hnot, Bool.false_and, Bool.false_eq_true, ↓reduceIte, List.foldl_cons,
        List.length_cons]
      rw [hread, Nat.add_assoc, Nat.add_comm 1]

/-- A stretch that stops within a text is the same whatever follows. -/
theorem takeWhile_append_of_stops {p : Char → Bool} (hstops : s.dropWhile p ≠ [])
    (w : List Char) :
    (s ++ w).takeWhile p = s.takeWhile p ∧ (s ++ w).dropWhile p = s.dropWhile p ++ w := by
  have hshort : (s.takeWhile p).length ≠ s.length := by
    intro hlength
    have hsplit := congrArg List.length (List.takeWhile_append_dropWhile (p := p) (l := s))
    rw [List.length_append, hlength] at hsplit
    exact hstops (List.length_eq_zero_iff.1 (by omega))
  have hmore : (s.dropWhile p).isEmpty = false := by simpa using hstops
  rw [List.takeWhile_append, if_neg hshort, List.dropWhile_append, hmore]
  exact ⟨rfl, rfl⟩

/-! ### Whole tags -/

/-- How the attributes of a tag with the given text start to be read. -/
def attributeStart (s : List Char) : AttributeState :=
  { previous := ((s.takeWhile isNameChar).getLast?).or (some '<') }

namespace Tag

variable {t : Tag} {w : List Char}

theorem isNameChar_of_isPlainBlank {c : Char} (hc : isPlainBlank c = true) :
    isNameChar c = false := by
  by_contra hchar
  rw [Bool.not_eq_false] at hchar
  simp only [isPlainBlank, Bool.or_eq_true, beq_iff_eq] at hc
  rcases hc with (((rfl | rfl) | rfl) | rfl) | hc
  · cases hchar
  · cases hchar
  · cases hchar
  · cases hchar
  · obtain rfl : c = Char.ofNat 12 := by rw [← hc, Char.ofNat_toNat]
    cases hchar

theorem read?_slash (rest : List Char) :
    read? ('/' :: rest) =
      if ((rest.dropWhile isNameChar).dropWhile isPlainBlank).head? = some '>' then
        some ⟨rest.takeWhile isNameChar, .closing, 3 + (rest.takeWhile isNameChar).length +
          ((rest.dropWhile isNameChar).takeWhile isPlainBlank).length⟩
      else none := by
  rw [read?]
  split
  · next hback => rw [hback, List.head?_cons, if_pos rfl]
  · next hnone =>
      rw [if_neg]
      intro hhead
      obtain ⟨back, hback⟩ := List.head?_eq_some_iff.1 hhead
      exact hnone back hback

/-- A closing tag is a name, blanks and a bracket. -/
theorem read?_slash_eq_some_iff {rest : List Char} :
    read? ('/' :: rest) = some t ↔
      ∃ name blanks back, rest = name ++ (blanks ++ '>' :: back) ∧
        (∀ c ∈ name, isNameChar c = true) ∧ (∀ c ∈ blanks, isPlainBlank c = true) ∧
        t = { name := name, kind := .closing, length := 3 + name.length + blanks.length } := by
  rw [read?]
  constructor
  · intro h
    split at h
    · next back hend =>
        refine ⟨rest.takeWhile isNameChar, (rest.dropWhile isNameChar).takeWhile isPlainBlank,
          back, ?_, fun c => List.mem_takeWhile_imp, fun c => List.mem_takeWhile_imp,
          (Option.some.inj h).symm⟩
        rw [← hend, List.takeWhile_append_dropWhile, List.takeWhile_append_dropWhile]
    · cases h
  · rintro ⟨name, blanks, back, rfl, hname, hblanks, rfl⟩
    have hstop : ((blanks ++ '>' :: back).takeWhile isNameChar) = [] ∧
        (blanks ++ '>' :: back).dropWhile isNameChar = blanks ++ '>' :: back := by
      cases blanks with
      | nil => exact ⟨rfl, rfl⟩
      | cons c blanks =>
          have hc := isNameChar_of_isPlainBlank (hblanks c List.mem_cons_self)
          simp [hc]
    have hbracket : ('>' :: back).takeWhile isPlainBlank = [] := rfl
    have hbracket' : ('>' :: back).dropWhile isPlainBlank = '>' :: back := rfl
    rw [List.takeWhile_append_of_pos hname, List.dropWhile_append_of_pos hname, hstop.1, hstop.2,
      List.takeWhile_append_of_pos hblanks, List.dropWhile_append_of_pos hblanks, hbracket,
      hbracket', List.append_nil, List.append_nil]
    rfl

/-- A tag that does not close another one is a name and attributes. -/
theorem read?_of_ne_slash (hs : ∀ rest, s ≠ '/' :: rest) :
    read? s = (readAttributes (attributeStart s) (1 + (s.takeWhile isNameChar).length)
      (s.dropWhile isNameChar)).map
        fun found => { name := s.takeWhile isNameChar, kind := found.1, length := found.2 } := by
  rw [read?]
  · rfl
  · exact hs

/-- What follows a text in which the name of a tag ends belongs to its attributes. -/
theorem read?_append_of_ne_slash (hs : ∀ rest, s ≠ '/' :: rest)
    (hname : s.dropWhile isNameChar ≠ []) (w : List Char) :
    read? (s ++ w) =
      (readAttributes (attributeStart s) (1 + (s.takeWhile isNameChar).length)
        (s.dropWhile isNameChar ++ w)).map
          fun found => { name := s.takeWhile isNameChar, kind := found.1, length := found.2 } := by
  have hslash : ∀ rest, s ++ w ≠ '/' :: rest := by
    intro rest heq
    cases s with
    | nil => exact hname rfl
    | cons c s =>
        cases heq
        exact hs s rfl
  obtain ⟨htake, hdrop⟩ := takeWhile_append_of_stops hname w
  rw [read?_of_ne_slash hslash, attributeStart, htake, hdrop, ← attributeStart]

/-- A tag ends with its bracket. -/
theorem exists_end_of_read? (h : read? s = some t) :
    ∃ front back, s = front ++ '>' :: back ∧ t.length = front.length + 2 := by
  by_cases hslash : ∃ rest, s = '/' :: rest
  · obtain ⟨rest, rfl⟩ := hslash
    obtain ⟨name, blanks, back, rfl, -, -, rfl⟩ := read?_slash_eq_some_iff.1 h
    refine ⟨'/' :: (name ++ blanks), back, by simp, ?_⟩
    simp only [List.length_cons, List.length_append]
    omega
  · rw [read?_of_ne_slash (fun rest hs => hslash ⟨rest, hs⟩), Option.map_eq_some_iff] at h
    obtain ⟨⟨kind, m⟩, hread, rfl⟩ := h
    obtain ⟨front, back, hafter, rfl⟩ := readAttributes_eq_some hread
    refine ⟨s.takeWhile isNameChar ++ front, back, ?_, ?_⟩
    · rw [List.append_assoc, ← hafter, List.takeWhile_append_dropWhile]
    · simp only [List.length_append]
      omega

/-- A tag is the same whatever follows it. -/
theorem read?_append_of_some (h : read? s = some t) (w : List Char) :
    read? (s ++ w) = some t := by
  by_cases hslash : ∃ rest, s = '/' :: rest
  · obtain ⟨rest, rfl⟩ := hslash
    obtain ⟨name, blanks, back, rfl, hname, hblanks, rfl⟩ := read?_slash_eq_some_iff.1 h
    exact read?_slash_eq_some_iff.2 ⟨name, blanks, back ++ w, by simp, hname, hblanks, rfl⟩
  · have hs : ∀ rest, s ≠ '/' :: rest := fun rest hs => hslash ⟨rest, hs⟩
    rw [read?_of_ne_slash hs] at h
    obtain ⟨⟨kind, m⟩, hread, ht⟩ := Option.map_eq_some_iff.1 h
    have hname : s.dropWhile isNameChar ≠ [] := by
      intro hnil
      rw [hnil] at hread
      cases hread
    rw [read?_append_of_ne_slash hs hname, readAttributes_append_of_some hread w]
    exact congrArg some ht

/-- A tag that ends within a text is read from the text alone. -/
theorem read?_of_append (h : read? (s ++ w) = some t) (hlength : t.length ≤ s.length + 1) :
    read? s = some t := by
  have hne : s ≠ [] := by
    rintro rfl
    obtain ⟨front, back, -, hfront⟩ := exists_end_of_read? h
    simp only [List.length_nil] at hlength
    omega
  by_cases hslash : ∃ rest, s = '/' :: rest
  · obtain ⟨rest, rfl⟩ := hslash
    obtain ⟨name, blanks, back, hrest, hname, hblanks, rfl⟩ := read?_slash_eq_some_iff.1 h
    have hwhole : (name ++ blanks ++ ['>']) ++ back = rest ++ w := by
      rw [List.cons_append] at h
      simpa using hrest.symm
    obtain ⟨back', rfl⟩ : name ++ blanks ++ ['>'] <+: rest := by
      refine List.prefix_of_prefix_length_le ⟨back, hwhole⟩ (List.prefix_append rest w) ?_
      simp only [List.length_cons, List.length_append, List.length_nil] at hlength ⊢
      omega
    exact read?_slash_eq_some_iff.2 ⟨name, blanks, back', by simp, hname, hblanks, rfl⟩
  · have hs : ∀ rest, s ≠ '/' :: rest := fun rest hs => hslash ⟨rest, hs⟩
    have hname : s.dropWhile isNameChar ≠ [] := by
      intro hall
      -- The bracket would be part of the name.
      obtain ⟨front, back, hends, hfront⟩ := exists_end_of_read? h
      have hwhole : (front ++ ['>']) ++ back = s ++ w := by simpa using hends.symm
      have hinit : front ++ ['>'] <+: s := by
        refine List.prefix_of_prefix_length_le ⟨back, hwhole⟩ (List.prefix_append s w) ?_
        simp only [List.length_append, List.length_singleton]
        omega
      have hchar := List.dropWhile_eq_nil_iff.1 hall '>' (hinit.subset (by simp))
      cases hchar
    rw [read?_append_of_ne_slash hs hname, Option.map_eq_some_iff] at h
    obtain ⟨⟨kind, m⟩, hread, rfl⟩ := h
    have hsplit := congrArg List.length (List.takeWhile_append_dropWhile (p := isNameChar) (l := s))
    rw [List.length_append] at hsplit
    rw [read?_of_ne_slash hs, readAttributes_of_append hread (by simp only at hlength; omega)]
    rfl

/-- Without a bracket in what follows no tag ends there. -/
theorem read?_append_of_not_mem (h : read? s = none) (hw : '>' ∉ w) : read? (s ++ w) = none := by
  cases hread : read? (s ++ w) with
  | none => rfl
  | some t =>
      obtain ⟨front, back, hsplit, hlength⟩ := exists_end_of_read? hread
      by_cases hshort : t.length ≤ s.length + 1
      · rw [read?_of_append hread hshort] at h
        cases h
      · have hmem : '>' ∈ w := by
          have hdrop := congrArg (List.drop s.length) hsplit
          rw [List.drop_left, List.drop_append_of_le_length (by omega)] at hdrop
          rw [hdrop]
          simp
        exact absurd hmem hw

/-- A closing tag that has no end in a text has none where another tag follows. -/
theorem read?_slash_append_of_none {rest : List Char} (h : read? ('/' :: rest) = none)
    (hw : w.head? = some '<') : read? ('/' :: (rest ++ w)) = none := by
  obtain ⟨more, rfl⟩ : ∃ more, w = '<' :: more := List.head?_eq_some_iff.1 hw
  cases hread : read? ('/' :: (rest ++ '<' :: more)) with
  | none => rfl
  | some t =>
      by_cases hshort : t.length ≤ ('/' :: rest).length + 1
      · rw [← List.cons_append] at hread
        rw [read?_of_append hread hshort] at h
        cases h
      · -- The other tag would start within the name or the blanks.
        obtain ⟨name, blanks, back, hrest, hname, hblanks, rfl⟩ := read?_slash_eq_some_iff.1 hread
        have hother : (rest ++ ['<']) ++ more = name ++ blanks ++ ['>'] ++ back := by
          simpa using hrest
        have hinit : rest ++ ['<'] <+: name ++ blanks ++ ['>'] := by
          refine List.prefix_of_prefix_length_le ⟨more, hother⟩ (List.prefix_append _ back) ?_
          simp only [List.length_cons, List.length_append, List.length_nil] at hshort ⊢
          omega
        have hmem : '<' ∈ name ++ blanks ++ ['>'] := hinit.subset (by simp)
        simp only [List.mem_append, List.mem_singleton] at hmem
        rcases hmem with (hmem | hmem) | hmem
        · exact absurd (hname _ hmem) (by decide)
        · exact absurd (hblanks _ hmem) (by decide)
        · exact absurd hmem (by decide)

/-- A tag that has no end in a text has met another one at the latest where one follows, or
the text ends within a string or braces of it. -/
theorem read?_append_of_none (h : read? s = none) :
    (∀ w, w.head? = some '<' → read? (s ++ w) = none) ∨
      ∃ (st : AttributeState) (n : Nat), st.IsProper ∧ (st.quote.isSome ∨ st.depth ≠ 0) ∧
        (s.getLast? = some '\n' → st.previous = some '\n') ∧
        ∀ w, read? (s ++ w) = none ↔ readAttributes st n w = none := by
  by_cases hslash : ∃ rest, s = '/' :: rest
  · obtain ⟨rest, rfl⟩ := hslash
    exact Or.inl fun w hw => read?_slash_append_of_none h hw
  · have hs : ∀ rest, s ≠ '/' :: rest := fun rest hs => hslash ⟨rest, hs⟩
    by_cases hname : s.dropWhile isNameChar = []
    · -- The name is all there is, and another tag stands where attributes could.
      refine Or.inl fun w hw => ?_
      obtain ⟨more, rfl⟩ : ∃ more, w = '<' :: more := List.head?_eq_some_iff.1 hw
      have hslash' : ∀ rest, s ++ '<' :: more ≠ '/' :: rest := by
        intro rest heq
        cases s with
        | nil => cases heq
        | cons c s =>
            cases heq
            exact hs s rfl
      have hdrop : (s ++ '<' :: more).dropWhile isNameChar = '<' :: more := by
        rw [List.dropWhile_append, hname]
        rfl
      rw [read?_of_ne_slash hslash', hdrop]
      rfl
    · have hnone : readAttributes (attributeStart s) (1 + (s.takeWhile isNameChar).length)
          (s.dropWhile isNameChar) = none := by
        rw [read?_of_ne_slash hs] at h
        exact Option.map_eq_none_iff.1 h
      have hiff : ∀ w, read? (s ++ w) = none ↔
          readAttributes (attributeStart s) (1 + (s.takeWhile isNameChar).length)
            (s.dropWhile isNameChar ++ w) = none := by
        intro w
        rw [read?_append_of_ne_slash hs hname, Option.map_eq_none_iff]
      rcases readAttributes_append_of_none hnone with hnever | hmore
      · exact Or.inl fun w _ => (hiff w).2 (hnever w)
      · let st := (s.dropWhile isNameChar).foldl AttributeState.step (attributeStart s)
        by_cases hin : st.quote.isSome ∨ st.depth ≠ 0
        · refine Or.inr ⟨st, _, AttributeState.IsProper.foldl ?_ _, hin, fun hlast => ?_,
            fun w => (hiff w).trans (by rw [hmore])⟩
          · rintro q ⟨⟩
          · rw [AttributeState.foldl_previous _ hname, ← hlast]
            conv_rhs => rw [← List.takeWhile_append_dropWhile (p := isNameChar) (l := s)]
            exact (List.getLast?_append_of_ne_nil _ hname).symm
        · refine Or.inl fun w hw => ?_
          obtain ⟨more, rfl⟩ : ∃ more, w = '<' :: more := List.head?_eq_some_iff.1 hw
          have hout : st.quote = none ∧ st.depth = 0 := by
            simpa using hin
          rw [hiff, hmore]
          show readAttributes st _ ('<' :: more) = none
          rw [readAttributes, hout.1, hout.2]
          rfl

/-- A tag that has no end in a text has none after other tags either, if what comes then
cannot end it or did not do so before. -/
theorem read?_append_plain {x : List Char} (h : read? s = none)
    (hw : ∀ c ∈ w, isAttributePlain c = true) (hhead : w.head? = some '<')
    (hx : '>' ∉ x ∨ (s.getLast? = some '\n' ∧ w.getLast? = some '\n' ∧ read? (s ++ x) = none)) :
    read? (s ++ (w ++ x)) = none := by
  rcases read?_append_of_none h with hnever | ⟨st, n, hproper, hin, hlast, hmore⟩
  · exact hnever (w ++ x) (by rw [List.head?_append, hhead]; rfl)
  · obtain ⟨hquote, hdepth, hread⟩ := readAttributes_plain hproper hin hw
    rw [hmore, hread]
    rcases hx with hx | ⟨hs, hend, hx⟩
    · exact readAttributes_of_not_mem hx
    · have hne : w ≠ [] := by
        rintro rfl
        cases hhead
      have hprevious : st.previous = (w.foldl AttributeState.step st).previous := by
        rw [AttributeState.foldl_previous st hne, hend, hlast hs]
      exact readAttributes_congr hquote.symm hdepth.symm hprevious ((hmore x).1 hx)

end Tag

end Tags

end StoryMend.Repair
