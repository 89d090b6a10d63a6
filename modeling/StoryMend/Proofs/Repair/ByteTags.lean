import StoryMend.Proofs.Repair.ByteScan

/-!
Tags in the bytes of a text.  All that a scan for tags looks for are characters of the first 128,
and each of these is one byte, so what stands at a place of a text also stands there in its bytes,
with its length counted in bytes (`at_bytes`).  A scan passes over the bytes of any other character
one by one, and so finds in the bytes of a text the tags of the text (`openTags_bytes`).
-/

namespace StoryMend.Repair

open Text

variable {before s w x : List Char} {quote : Char}

/-! ### Comments and strings -/

/-- A string goes over characters beyond the first 128 one by one. -/
theorem stringLength_append_wide (hquote : quote.toNat < 128) (hw : ∀ u ∈ w, 128 ≤ u.toNat)
    (x : List Char) : stringLength quote (w ++ x) = w.length + stringLength quote x := by
  induction w with
  | nil => exact (Nat.zero_add _).symm
  | cons u w ih =>
      obtain ⟨hu, hw⟩ := List.forall_mem_cons.1 hw
      have hnot : ¬ (u == quote) = true := fun h => ne_of_wide hu hquote (beq_iff_eq.1 h)
      have hline : ¬ (u == '\n' && quote != '\x60') = true := fun h =>
        ne_of_wide hu (by decide) (beq_iff_eq.1 (Bool.and_eq_true_iff.1 h).1)
      rw [List.cons_append, stringLength_cons (ne_of_wide hu (by decide)), if_neg hnot,
        if_neg hline, ih hw, List.length_cons]
      omega

theorem blockCommentLength_append_wide (hw : ∀ u ∈ w, 128 ≤ u.toNat) (x : List Char) :
    blockCommentLength (w ++ x) = w.length + blockCommentLength x := by
  induction w with
  | nil => exact (Nat.zero_add _).symm
  | cons u w ih =>
      obtain ⟨hu, hw⟩ := List.forall_mem_cons.1 hw
      rw [List.cons_append, blockCommentLength_cons fun h => ne_of_wide hu (by decide) h.1, ih hw,
        List.length_cons]
      omega

/-- A string has the same end in a text and in its bytes.  The character after a backslash may
have several bytes; the first one comes with the backslash, and the others mean nothing. -/
theorem stringLength_bytes (hquote : quote.toNat < 128) (s : List Char) :
    stringLength quote (bytes s) = byteLength (s.take (stringLength quote s)) := by
  induction s using stringLength.induct quote with
  | case1 => rfl
  | case2 c rest ih =>
      obtain ⟨u, more, hu, -, hmore⟩ := isSpelling_bytes.exists_cons c
      have hlength : more.length + 1 = c.utf8Size := by
        rw [← length_bytes_singleton, hu, List.length_cons]
      have htake : 2 + stringLength quote rest = stringLength quote rest + 1 + 1 := by omega
      rw [bytes_plain (by decide), bytes_cons, hu, List.cons_append, stringLength, stringLength,
        stringLength_append_wide hquote hmore, ih, htake, List.take_succ_cons, List.take_succ_cons,
        byteLength_cons, byteLength_cons, ← hlength]
      show _ = 1 + _
      omega
  | case3 c rest hescape hslash =>
      obtain rfl : c = '\\' := beq_iff_eq.1 hslash
      cases rest with
      | nil => rfl
      | cons d rest => exact (hescape d rest rfl rfl).elim
  | case4 c rest hescape hslash hmark =>
      have hc : c.toNat < 128 := (beq_iff_eq.1 hmark) ▸ hquote
      have hne : c ≠ '\\' := fun h => hslash (beq_iff_eq.2 h)
      rw [bytes_plain hc, stringLength_cons hne, stringLength_cons hne, if_pos hmark, if_pos hmark,
        List.take_succ_cons, List.take_zero, byteLength_plain (by simpa using hc)]
      rfl
  | case5 c rest hescape hslash hmark hline =>
      have hc : c = '\n' := beq_iff_eq.1 (Bool.and_eq_true_iff.1 hline).1
      have hne : c ≠ '\\' := fun h => hslash (beq_iff_eq.2 h)
      rw [bytes_plain (hc ▸ by decide), stringLength_cons hne, stringLength_cons hne, if_neg hmark,
        if_neg hmark, if_pos hline, if_pos hline]
      rfl
  | case6 c rest hescape hslash hmark hline ih =>
      have hne : c ≠ '\\' := fun h => hslash (beq_iff_eq.2 h)
      have hgo : stringLength quote (bytes (c :: rest)) =
          c.utf8Size + stringLength quote (bytes rest) := by
        by_cases hc : c.toNat < 128
        · rw [bytes_plain hc, stringLength_cons hne, if_neg hmark, if_neg hline, utf8Size_plain hc]
        · rw [bytes_cons, stringLength_append_wide hquote, length_bytes_singleton]
          intro u hu
          exact wide_of_mem_bytes (Nat.not_lt.1 hc) hu
      rw [hgo, ih, stringLength_cons hne, if_neg hmark, if_neg hline, Nat.add_comm 1,
        List.take_succ_cons, byteLength_cons]

/-- A block comment has the same end in a text and in its bytes. -/
theorem blockCommentLength_bytes (s : List Char) :
    blockCommentLength (bytes s) = byteLength (s.take (blockCommentLength s)) := by
  induction s using blockCommentLength.induct with
  | case1 => rfl
  | case2 rest =>
      rw [bytes_plain (by decide), bytes_plain (by decide), blockCommentLength, blockCommentLength]
      rfl
  | case3 c rest hmark ih =>
      have hnot : ¬ (c = '*' ∧ rest.head? = some '/') := by
        rintro ⟨hc, hrest⟩
        obtain ⟨more, hmore⟩ := List.head?_eq_some_iff.1 hrest
        exact hmark more hc hmore
      have hgo : blockCommentLength (bytes (c :: rest)) =
          c.utf8Size + blockCommentLength (bytes rest) := by
        by_cases hc : c.toNat < 128
        · rw [bytes_plain hc, blockCommentLength_cons, utf8Size_plain hc]
          rwa [eq_some_iff_of_alike (alike_head?_bytes rest) (by decide)]
        · rw [bytes_cons, blockCommentLength_append_wide, length_bytes_singleton]
          intro u hu
          exact wide_of_mem_bytes (Nat.not_lt.1 hc) hu
      rw [hgo, ih, blockCommentLength_cons hnot, Nat.add_comm 1, List.take_succ_cons,
        byteLength_cons]

/-- A line has the same end in a text and in its bytes. -/
theorem takeWhile_newline_bytes (s : List Char) :
    (bytes s).takeWhile (· != '\n') = bytes (s.takeWhile (· != '\n')) := by
  induction s with
  | nil => rfl
  | cons c s ih =>
      by_cases hc : c = '\n'
      · rw [hc, bytes_plain (by decide), List.takeWhile_cons, List.takeWhile_cons]
        rfl
      · have hline : ∀ u ∈ bytes [c], (u != '\n') = true := by
          intro u hu
          by_cases hplain : c.toNat < 128
          · rw [bytes_plain hplain] at hu
            rw [List.mem_singleton.1 hu]
            exact bne_iff_ne.2 hc
          · exact bne_iff_ne.2 (ne_of_wide (wide_of_mem_bytes (Nat.not_lt.1 hplain) hu) (by decide))
        rw [bytes_cons, List.takeWhile_append_of_pos hline, ih, List.takeWhile_cons,
          if_pos (bne_iff_ne.2 hc), ← bytes_cons]

/-- The bytes of a text that is told from its end. -/
def bytesBehind (before : List Char) : List Char := (bytes before.reverse).reverse

theorem alike_head?_bytesBehind (before : List Char) :
    Option.Rel Alike (bytesBehind before).head? before.head? := by
  rw [bytesBehind, reverse_bytes]
  exact isSpelling_reverse_bytes.alike_head? before

theorem onPlain_expectsValue : OnPlain expectsValue := by
  have hall : "=([\x7b,:?+!&|".toList.all (fun c => decide (c.toNat < 128)) = true := rfl
  intro c hc
  exact of_decide_eq_true (List.all_eq_true.1 hall c (List.contains_iff_mem.1 hc))

theorem onPlain_wordEnd : OnPlain fun c => c.isAlphanum || c == '_' || c == '$' :=
  (onPlain_isAlphanum.or (onPlain_beq (by decide))).or (onPlain_beq (by decide))

/-- Whether a quote opens a string is told alike from a text and from its bytes. -/
theorem inExpression_bytesBehind (before : List Char) :
    inExpression (bytesBehind before) = inExpression before := by
  have hspelling := isSpelling_reverse_bytes
  rw [inExpression, inExpression, bytesBehind, reverse_bytes,
    (hspelling.takeWhile_dropWhile onPlain_isPlainBlank before).2]
  cases before.dropWhile isPlainBlank with
  | nil => rfl
  | cons c y =>
      have hplain : "nruter".toList.all (fun c => decide (c.toNat < 128)) = true := rfl
      have hword := hspelling.after?_flatMap "nruter".toList
        (fun d hd => of_decide_eq_true (List.all_eq_true.1 hplain d hd)) (c :: y)
      obtain ⟨u, more, hu, halike, -⟩ := hspelling.exists_cons c
      rw [List.flatMap_cons, hu, List.cons_append] at hword ⊢
      simp only [hword, onPlain_expectsValue.eq_of_alike halike]
      cases after? "nruter".toList (c :: y) with
      | none => rfl
      | some rest =>
          simp only [Option.map_some, onPlain_wordEnd.any_eq_of_alike (hspelling.alike_head? rest)]

theorem literalLength?_of_wide (before rest : List Char) {c : Char} (hc : 128 ≤ c.toNat) :
    literalLength? before (c :: rest) = none := by
  have hslash := ne_of_wide hc (show ('/' : Char).toNat < 128 by decide)
  have hquote : (c == '"' || c == '\'' || c == '\x60') = false := by
    rw [Bool.or_eq_false_iff, Bool.or_eq_false_iff, beq_eq_false_iff_ne, beq_eq_false_iff_ne,
      beq_eq_false_iff_ne]
    exact ⟨⟨ne_of_wide hc (by decide), ne_of_wide hc (by decide)⟩, ne_of_wide hc (by decide)⟩
  rw [literalLength?_cons before (fun _ h => absurd h hslash) (fun _ h => absurd h hslash), hquote,
    Bool.false_and, if_neg Bool.false_ne_true]

theorem literalLength?_line_bytes (before comment : List Char) :
    literalLength? (bytesBehind before) (bytes ('/' :: '/' :: comment)) =
      (literalLength? before ('/' :: '/' :: comment)).map fun n =>
        byteLength (('/' :: '/' :: comment).take n) := by
  have hcolon := eq_some_iff_of_alike (alike_head?_bytesBehind before)
    (show (':' : Char).toNat < 128 by decide)
  rw [bytes_plain (by decide), bytes_plain (by decide), literalLength?, literalLength?]
  simp only [beq_iff_eq, hcolon]
  split
  · rfl
  · have hprefix := List.prefix_iff_eq_take.1 (List.takeWhile_prefix (l := comment) (· != '\n'))
    rw [takeWhile_newline_bytes, Option.map_some,
      byteLength_take_add_two (by decide) (by decide), ← hprefix]
    rfl

theorem literalLength?_block_bytes (before comment : List Char) :
    literalLength? (bytesBehind before) (bytes ('/' :: '*' :: comment)) =
      (literalLength? before ('/' :: '*' :: comment)).map fun n =>
        byteLength (('/' :: '*' :: comment).take n) := by
  rw [bytes_plain (by decide), bytes_plain (by decide), literalLength?, literalLength?,
    blockCommentLength_bytes, Option.map_some, byteLength_take_add_two (by decide) (by decide)]

/-- What opens with a quote, or does not open at all. -/
theorem literalLength?_quote_bytes (before : List Char) {c : Char} {rest : List Char}
    (hc : c.toNat < 128) (hline : ¬ (c = '/' ∧ rest.head? = some '/'))
    (hblock : ¬ (c = '/' ∧ rest.head? = some '*')) :
    literalLength? (bytesBehind before) (bytes (c :: rest)) =
      (literalLength? before (c :: rest)).map fun n => byteLength ((c :: rest).take n) := by
  have hstarts {d : Char} (hd : d.toNat < 128) {y : List Char} (hy : bytes rest = d :: y) :
      rest.head? = some d := by
    have hhead := alike_head?_bytes rest
    rw [hy] at hhead
    exact (eq_some_iff_of_alike hhead hd).1 rfl
  rw [bytes_plain hc, literalLength?_cons, literalLength?_cons, inExpression_bytesBehind]
  · split
    · rw [Option.map_some, byteLength_take_succ hc, stringLength_bytes hc]
    · rfl
  · exact fun more hslash hrest => hline ⟨hslash, hrest ▸ rfl⟩
  · exact fun more hslash hrest => hblock ⟨hslash, hrest ▸ rfl⟩
  · exact fun more hslash hrest => hline ⟨hslash, hstarts (by decide) hrest⟩
  · exact fun more hslash hrest => hblock ⟨hslash, hstarts (by decide) hrest⟩

/-- A comment or a string has the same end in a text and in its bytes. -/
theorem literalLength?_bytes (before s : List Char) :
    literalLength? (bytesBehind before) (bytes s) =
      (literalLength? before s).map fun n => byteLength (s.take n) := by
  cases s with
  | nil => rfl
  | cons c rest =>
      by_cases hc : c.toNat < 128
      · by_cases hline : c = '/' ∧ rest.head? = some '/'
        · obtain ⟨rfl, hslash⟩ := hline
          obtain ⟨comment, rfl⟩ := List.head?_eq_some_iff.1 hslash
          exact literalLength?_line_bytes before comment
        · by_cases hblock : c = '/' ∧ rest.head? = some '*'
          · obtain ⟨rfl, hstar⟩ := hblock
            obtain ⟨comment, rfl⟩ := List.head?_eq_some_iff.1 hstar
            exact literalLength?_block_bytes before comment
          · exact literalLength?_quote_bytes before hc hline hblock
      · have hwide := Nat.not_lt.1 hc
        obtain ⟨u, more, hu⟩ := List.exists_cons_of_ne_nil (bytes_singleton_ne_nil c)
        rw [bytes_cons, hu, List.cons_append, literalLength?_of_wide _ _ hwide,
          literalLength?_of_wide _ _ (wide_of_mem_bytes hwide (hu ▸ List.mem_cons_self))]
        rfl

/-! ### Tags -/

theorem isTagStart_cons (before : Option Char) {c : Char} (hc : c ≠ '/') (rest : List Char) :
    isTagStart before (c :: rest) = ((c.isAlpha || c == '>') && mayFollow before) := by
  rw [isTagStart]
  exact fun _ _ h => absurd h hc

theorem onPlain_startsName : OnPlain fun c => c.isAlpha || c == '>' :=
  onPlain_isAlpha.or (onPlain_beq (by decide))

theorem mayFollow_of_alike {x y : Option Char} (h : Option.Rel Alike x y) :
    mayFollow x = mayFollow y := by
  have hplain : OnPlain fun c => c.isAlphanum || c == '_' || c == '$' || c == ')' || c == ']' :=
    (onPlain_wordEnd.or (onPlain_beq (by decide))).or (onPlain_beq (by decide))
  cases h with
  | none => rfl
  | some h => exact congrArg (!·) (hplain.eq_of_alike h)

/-- Whether a tag starts is told alike from a text and from its bytes. -/
theorem isTagStart_bytes (before s : List Char) :
    isTagStart (bytesBehind before).head? (bytes s) = isTagStart before.head? s := by
  have hmay := mayFollow_of_alike (alike_head?_bytesBehind before)
  cases s with
  | nil => rfl
  | cons c rest =>
      by_cases hc : c = '/'
      · rw [hc, bytes_plain (by decide)]
        cases rest with
        | nil => rfl
        | cons d rest =>
            obtain ⟨u, more, hu, halike, -⟩ := isSpelling_bytes.exists_cons d
            rw [bytes_cons, hu]
            exact onPlain_startsName.eq_of_alike halike
      · obtain ⟨u, more, hu, halike, -⟩ := isSpelling_bytes.exists_cons c
        have hne : u ≠ '/' := ne_of_alike halike hc (by decide)
        rw [bytes_cons, hu, List.cons_append, isTagStart_cons _ hne, isTagStart_cons _ hc, hmay,
          onPlain_startsName.eq_of_alike halike]

/-- Within a tag the same is known, but for which of the characters beyond the first 128 have been
read. -/
structure AttributeState.Like (st' st : AttributeState) : Prop where
  depth : st'.depth = st.depth
  quote : st'.quote = st.quote
  significant : Option.Rel Alike st'.significant st.significant
  previous : Option.Rel Alike st'.previous st.previous

namespace AttributeState

variable {st st' : AttributeState} {c u : Char}

theorem onPlain_isQuote : OnPlain fun c => c == '"' || c == '\'' || c == '\x60' :=
  ((onPlain_beq (by decide)).or (onPlain_beq (by decide))).or (onPlain_beq (by decide))

theorem step_significant (st : AttributeState) (c : Char) :
    (st.step c).significant = if isPlainBlank c then st.significant else some c := rfl

theorem IsProper.plain_quote (h : st.IsProper) {q : Char} (hq : st.quote = some q) :
    q.toNat < 128 := by
  rcases h q hq with rfl | rfl | rfl <;> decide

theorem Like.refl (st : AttributeState) : st.Like st where
  depth := rfl
  quote := rfl
  significant := by
    cases st.significant with
    | none => exact .none
    | some c => exact .some (Or.inl rfl)
  previous := by
    cases st.previous with
    | none => exact .none
    | some c => exact .some (Or.inl rfl)

/-- Alike characters lead to states that are alike. -/
theorem Like.step (h : Like st' st) (hproper : st.IsProper) (hc : Alike u c) :
    Like (st'.step u) (st.step c) where
  depth := by
    rw [step_depth, step_depth, h.depth, h.quote, beq_of_alike hc (by decide),
      beq_of_alike hc (by decide), beq_of_alike hc (by decide), beq_of_alike hc (by decide),
      beq_of_alike hc (by decide)]
  quote := by
    rw [step_quote, step_quote, h.quote]
    cases hquote : st.quote with
    | some q =>
        have hslash : (st'.previous != some '\\') = (st.previous != some '\\') := by
          rw [Bool.eq_iff_iff, bne_iff_ne, bne_iff_ne, Ne, Ne,
            eq_some_iff_of_alike h.previous (by decide)]
        simp only [beq_of_alike hc (hproper.plain_quote hquote), hslash]
    | none =>
        have hsame := onPlain_isQuote.eq_of_alike hc
        simp only [hsame]
        split
        · next hopens =>
            have hplain := onPlain_isQuote c hopens
            rcases hc with rfl | ⟨-, hwide⟩
            · rfl
            · exact absurd hwide (Nat.not_le.2 hplain)
        · rfl
  significant := by
    rw [step_significant, step_significant, onPlain_isPlainBlank.eq_of_alike hc]
    split
    · exact h.significant
    · exact .some hc
  previous := .some hc

/-- Further bytes of a character beyond the first 128 change nothing. -/
theorem Like.step_wide (h : Like st' (st.step c)) (hproper : (st.step c).IsProper)
    (hc : 128 ≤ c.toNat) (hu : 128 ≤ u.toNat) : Like (st'.step u) (st.step c) where
  depth := by
    have hne {d : Char} (hd : d.toNat < 128) : (u == d) = false :=
      beq_eq_false_iff_ne.2 (ne_of_wide hu hd)
    rw [step_depth, hne (by decide), hne (by decide), hne (by decide), hne (by decide),
      hne (by decide), ← h.depth]
    simp
  quote := by
    rw [step_quote, onPlain_isQuote.eq_false_of_wide hu, h.quote]
    cases hquote : (st.step c).quote with
    | some q =>
        have hne : (u == q) = false :=
          beq_eq_false_iff_ne.2 (ne_of_wide hu (hproper.plain_quote hquote))
        simp only [hne, Bool.false_and, Bool.false_eq_true, if_false]
    | none => rfl
  significant := by
    rw [step_significant, step_significant, onPlain_isPlainBlank.eq_false_of_wide hu,
      onPlain_isPlainBlank.eq_false_of_wide hc]
    exact .some (Or.inr ⟨hu, hc⟩)
  previous := .some (Or.inr ⟨hu, hc⟩)

theorem Like.foldl_wide (h : Like st' (st.step c)) (hproper : (st.step c).IsProper)
    (hc : 128 ≤ c.toNat) (hw : ∀ u ∈ w, 128 ≤ u.toNat) :
    Like (w.foldl AttributeState.step st') (st.step c) := by
  induction w generalizing st' with
  | nil => exact h
  | cons u w ih =>
      obtain ⟨hu, hw⟩ := List.forall_mem_cons.1 hw
      exact ih (h.step_wide hproper hc hu) hw

/-- The bytes of a character lead to a state like the one that the character leads to. -/
theorem Like.foldl_bytes (h : Like st' st) (hproper : st.IsProper) (c : Char) :
    Like ((bytes [c]).foldl AttributeState.step st') (st.step c) := by
  by_cases hc : c.toNat < 128
  · rw [bytes_plain hc]
    exact h.step hproper (Or.inl rfl)
  · obtain ⟨u, more, hu, halike, hmore⟩ := isSpelling_bytes.exists_cons c
    rw [hu]
    exact (h.step hproper halike).foldl_wide (hproper.step c) (Nat.not_lt.1 hc) hmore

end AttributeState

/-- A character that does not end a tag is read. -/
theorem readAttributes_cons {st : AttributeState} {c : Char} (n : Nat) (x : List Char)
    (hstop : (st.quote.isNone && st.depth == 0 && (c == '>' || c == '<')) = false) :
    readAttributes st n (c :: x) = readAttributes (st.step c) (n + 1) x := by
  rw [Bool.and_or_distrib_left, Bool.or_eq_false_iff] at hstop
  rw [readAttributes, hstop.1, hstop.2]
  rfl

theorem readAttributes_append_wide {st : AttributeState} (hw : ∀ u ∈ w, 128 ≤ u.toNat) (n : Nat)
    (x : List Char) :
    readAttributes st n (w ++ x) =
      readAttributes (w.foldl AttributeState.step st) (n + w.length) x := by
  induction w generalizing st n with
  | nil => rfl
  | cons u w ih =>
      obtain ⟨hu, hw⟩ := List.forall_mem_cons.1 hw
      have hne : (u == '>' || u == '<') = false :=
        ((onPlain_beq (by decide)).or (onPlain_beq (by decide))).eq_false_of_wide hu
      rw [List.cons_append, readAttributes_cons, ih hw, List.length_cons, List.foldl_cons,
        Nat.add_assoc, Nat.add_comm 1]
      rw [hne, Bool.and_false]

/-- The bytes of a character that does not end a tag are read. -/
theorem readAttributes_bytes_append {st st' : AttributeState} (hlike : st'.Like st) {c : Char}
    (hstop : (st.quote.isNone && st.depth == 0 && (c == '>' || c == '<')) = false) (n : Nat)
    (x : List Char) :
    readAttributes st' n (bytes [c] ++ x) =
      readAttributes ((bytes [c]).foldl AttributeState.step st') (n + c.utf8Size) x := by
  obtain ⟨u, more, hu, halike, hmore⟩ := isSpelling_bytes.exists_cons c
  have hmark : (u == '>' || u == '<') = (c == '>' || c == '<') :=
    ((onPlain_beq (by decide)).or (onPlain_beq (by decide))).eq_of_alike halike
  rw [← length_bytes_singleton, hu, List.cons_append, readAttributes_cons,
    readAttributes_append_wide hmore, List.foldl_cons, List.length_cons, Nat.add_assoc,
    Nat.add_comm 1]
  rw [hlike.quote, hlike.depth, hmark, hstop]

/-- The attributes of a tag have the same end in a text and in its bytes. -/
theorem readAttributes_bytes {st st' : AttributeState} (hlike : st'.Like st)
    (hproper : st.IsProper) (n n' : Nat) (s : List Char) :
    readAttributes st' n' (bytes s) =
      (readAttributes st n s).map fun found =>
        (found.1, n' + byteLength (s.take (found.2 - n))) := by
  induction s generalizing st st' n n' with
  | nil => rfl
  | cons c s ih =>
      cases hstop : st.quote.isNone && st.depth == 0 && (c == '>' || c == '<') with
      | true =>
          obtain ⟨-, hc⟩ := Bool.and_eq_true_iff.1 hstop
          have hplain := ((onPlain_beq (by decide)).or (onPlain_beq (by decide))) c hc
          have hslash : (st'.significant == some '/') = (st.significant == some '/') := by
            rw [Bool.eq_iff_iff, beq_iff_eq, beq_iff_eq,
              eq_some_iff_of_alike hlike.significant (by decide)]
          rw [bytes_plain hplain, readAttributes, readAttributes, hlike.quote, hlike.depth, hslash]
          split
          · rw [Option.map_some, Nat.add_sub_cancel_left, byteLength_take_succ hplain s 0]
            rfl
          · next hnot =>
              rw [Bool.and_or_distrib_left, Bool.eq_false_iff.2 hnot, Bool.false_or] at hstop
              rw [if_pos hstop, if_pos hstop]
              rfl
      | false =>
          rw [bytes_cons, readAttributes_bytes_append hlike hstop, readAttributes_cons n _ hstop,
            ih (hlike.foldl_bytes hproper c) (hproper.step c) (n + 1)]
          cases hread : readAttributes (st.step c) (n + 1) s with
          | none => rfl
          | some found =>
              obtain ⟨kind, m⟩ := found
              obtain ⟨front, back, -, rfl⟩ := readAttributes_eq_some hread
              have htake : n + 1 + front.length + 1 - n =
                  (n + 1 + front.length + 1 - (n + 1)) + 1 := by omega
              rw [Option.map_some, Option.map_some, htake, List.take_succ_cons, byteLength_cons,
                Nat.add_assoc n']

namespace Tag

/-- A tag with its length counted in bytes; it stands at the start of a text. -/
def inBytes (t : Tag) (s : List Char) : Tag := { t with length := byteLength (s.take t.length) }

/-- A closing tag has bytes of the first 128 only. -/
theorem inBytes_closing {name blanks : List Char} (hname : ∀ c ∈ name, isNameChar c = true)
    (hblanks : ∀ c ∈ blanks, isPlainBlank c = true) (back : List Char) :
    byteLength (('<' :: '/' :: (name ++ (blanks ++ '>' :: back))).take
      (3 + name.length + blanks.length)) = 3 + name.length + blanks.length := by
  have hlength : 3 + name.length + blanks.length =
      ('<' :: '/' :: (name ++ (blanks ++ ['>']))).length := by
    simp only [List.length_cons, List.length_append, List.length_nil]
    omega
  have hsplit : '<' :: '/' :: (name ++ (blanks ++ '>' :: back)) =
      ('<' :: '/' :: (name ++ (blanks ++ ['>']))) ++ back := by simp
  rw [hlength, hsplit, List.take_left]
  apply byteLength_plain
  intro c hc
  simp only [List.mem_cons, List.mem_append, List.not_mem_nil, or_false] at hc
  rcases hc with rfl | rfl | hc | hc | rfl
  · decide
  · decide
  · exact ByteScan.onPlain_isNameChar c (hname c hc)
  · exact onPlain_isPlainBlank c (hblanks c hc)
  · decide

theorem read?_slash_bytes (rest : List Char) :
    read? ('/' :: bytes rest) = (read? ('/' :: rest)).map (·.inBytes ('<' :: '/' :: rest)) := by
  rw [read?_slash, read?_slash,
    takeWhile_bytes ByteScan.onPlain_isNameChar, dropWhile_bytes ByteScan.onPlain_isNameChar,
    takeWhile_bytes onPlain_isPlainBlank, dropWhile_bytes onPlain_isPlainBlank]
  simp only [eq_some_iff_of_alike (alike_head?_bytes _) (show ('>' : Char).toNat < 128 by decide)]
  split
  · next hbracket =>
      obtain ⟨back, hback⟩ := List.head?_eq_some_iff.1 hbracket
      have hlength := inBytes_closing
        (fun c (hc : c ∈ rest.takeWhile isNameChar) => List.mem_takeWhile_imp hc)
        (fun c (hc : c ∈ (rest.dropWhile isNameChar).takeWhile isPlainBlank) =>
          List.mem_takeWhile_imp hc) back
      rw [← hback, List.takeWhile_append_dropWhile, List.takeWhile_append_dropWhile] at hlength
      rw [Option.map_some, inBytes]
      simp only [hlength]
  · rfl

/-- The bytes of a tag up to a place in its attributes; its name is of the first 128 only. -/
theorem byteLength_take_tag (s : List Char) (n : Nat) :
    byteLength (('<' :: s).take (1 + (s.takeWhile isNameChar).length + n)) =
      1 + (s.takeWhile isNameChar).length + byteLength ((s.dropWhile isNameChar).take n) := by
  have hname : byteLength (s.takeWhile isNameChar) = (s.takeWhile isNameChar).length :=
    byteLength_plain fun c hc => ByteScan.onPlain_isNameChar c (List.mem_takeWhile_imp hc)
  have htake : s.take ((s.takeWhile isNameChar).length + n) =
      s.takeWhile isNameChar ++ (s.dropWhile isNameChar).take n := by
    have happend : (s.takeWhile isNameChar ++ s.dropWhile isNameChar).take
        ((s.takeWhile isNameChar).length + n) = _ := List.take_length_add_append _
    rwa [List.takeWhile_append_dropWhile] at happend
  rw [Nat.add_assoc, byteLength_take_succ (by decide), htake, byteLength_append, hname,
    Nat.add_assoc]

/-- A tag has the same end in a text and in its bytes. -/
theorem read?_bytes (s : List Char) :
    read? (bytes s) = (read? s).map (·.inBytes ('<' :: s)) := by
  by_cases hslash : s.head? = some '/'
  · obtain ⟨rest, rfl⟩ := List.head?_eq_some_iff.1 hslash
    rw [bytes_plain (by decide)]
    exact read?_slash_bytes rest
  · have hname : (bytes s).takeWhile isNameChar = s.takeWhile isNameChar :=
      takeWhile_bytes ByteScan.onPlain_isNameChar s
    have hne : ∀ rest, s ≠ '/' :: rest := fun rest h => hslash (h ▸ rfl)
    have hbytes : ∀ rest, bytes s ≠ '/' :: rest := fun rest h =>
      hslash ((eq_some_iff_of_alike (alike_head?_bytes s) (by decide)).1 (h ▸ rfl))
    have hproper : (attributeStart s).IsProper := fun q hq => by cases hq
    have hstart : attributeStart (bytes s) = attributeStart s := by
      rw [attributeStart, attributeStart, hname]
    rw [read?_of_ne_slash hne, read?_of_ne_slash hbytes, hstart, hname,
      dropWhile_bytes ByteScan.onPlain_isNameChar,
      readAttributes_bytes (AttributeState.Like.refl _) hproper
        (1 + (s.takeWhile isNameChar).length)]
    cases hread : readAttributes (attributeStart s) (1 + (s.takeWhile isNameChar).length)
        (s.dropWhile isNameChar) with
    | none => rfl
    | some found =>
        obtain ⟨kind, m⟩ := found
        obtain ⟨front, back, -, rfl⟩ := readAttributes_eq_some hread
        have hlength := byteLength_take_tag s (front.length + 1)
        rw [Option.map_some, Option.map_some, Option.map_some, Option.map_some, inBytes,
          Nat.add_assoc _ front.length]
        simp only [hlength, Nat.add_sub_cancel_left]

end Tag

/-! ### Findings -/

/-- What stands at the start of a text, with its length counted in bytes. -/
def Finding.inBytes (s : List Char) : Finding → Finding
  | .literal n => .literal (byteLength (s.take n))
  | .tag t => .tag (t.inBytes s)
  | .plain => .plain

/-- What stands at a place of a text stands there in its bytes. -/
theorem at_bytes (before s : List Char) :
    Finding.at (bytesBehind before) (bytes s) = (Finding.at before s).inBytes s := by
  cases s with
  | nil => rfl
  | cons c rest =>
      have hliteral := literalLength?_bytes before (c :: rest)
      by_cases hc : c = '<'
      · rw [hc, bytes_plain (by decide), Finding.at, Finding.at, literalLength?_lt,
          literalLength?_lt]
        simp only [isTagStart_bytes, Tag.read?_bytes]
        split
        · cases Tag.read? rest with
          | none => rfl
          | some t => rfl
        · rfl
      · obtain ⟨u, more, hu, halike, -⟩ := isSpelling_bytes.exists_cons c
        have hne : u ≠ '<' := ne_of_alike halike hc (by decide)
        rw [bytes_cons, hu, List.cons_append] at hliteral ⊢
        rw [Finding.at_of_ne_lt _ hne, Finding.at_of_ne_lt _ hc, hliteral]
        cases literalLength? before (c :: rest) with
        | none => rfl
        | some n => rfl

/-- The tags of a text, with their places counted in bytes. -/
def OpenTags.inBytes (s : List Char) (o : OpenTags) : OpenTags :=
  { o with lastEnd := byteLength (s.take o.lastEnd) }

/-- A text up to some place and from there on, in bytes. -/
theorem bytes_split (s : List Char) (n : Nat) :
    (bytes s).take (byteLength (s.take n)) = bytes (s.take n) ∧
      (bytes s).drop (byteLength (s.take n)) = bytes (s.drop n) := by
  have hsplit : bytes s = bytes (s.take n) ++ bytes (s.drop n) := by
    rw [← bytes_append, List.take_append_drop]
  rw [hsplit, byteLength, List.take_left, List.drop_left]
  exact ⟨rfl, rfl⟩

theorem bytesBehind_append (s before : List Char) :
    bytesBehind (s.reverse ++ before) = (bytes s).reverse ++ bytesBehind before := by
  rw [bytesBehind, List.reverse_append, List.reverse_reverse, bytes_append, List.reverse_append,
    bytesBehind]

/-- A finding has as many bytes as its characters, unless it is a character beyond the first 128,
whose bytes are found one by one. -/
theorem length_inBytes {before s : List Char}
    (hs : Finding.at before s = .plain → ∀ c ∈ s.head?, c.toNat < 128) (hne : s ≠ []) :
    ((Finding.at before s).inBytes s).length =
      byteLength (s.take (Finding.at before s).length) := by
  cases hfinding : Finding.at before s with
  | literal n => rfl
  | tag t => rfl
  | plain =>
      obtain ⟨c, rest, rfl⟩ := List.exists_cons_of_ne_nil hne
      exact (byteLength_take_succ (hs hfinding c rfl) rest 0).symm

theorem addTo_inBytes (f : Finding) (o : OpenTags) (s text : List Char) (place : Nat) :
    (f.inBytes s).addTo (o.inBytes text) (byteLength (text.take place)) =
      (f.addTo o place).inBytes text := by
  cases f with
  | literal n => rfl
  | tag t => rfl
  | plain => rfl

/-- No text is lost. -/
theorem reverse_passed_append_ahead (before s : List Char) :
    (passed before s).reverse ++ ahead before s = before.reverse ++ s := by
  rw [passed, ahead, List.reverse_append, List.reverse_reverse, List.append_assoc,
    List.take_append_drop]

theorem startsNothing_of_wide {c : Char} (hc : 128 ≤ c.toNat) : startsNothing c = true := by
  simp only [startsNothing, Bool.and_eq_true, bne_iff_ne]
  exact ⟨⟨⟨⟨ne_of_wide hc (by decide), ne_of_wide hc (by decide)⟩, ne_of_wide hc (by decide)⟩,
    ne_of_wide hc (by decide)⟩, ne_of_wide hc (by decide)⟩

/-- A step in the bytes of a text goes over what a step in the text goes over. -/
theorem scanTags_bytes_step (before : List Char) (o : OpenTags) (hs : s ≠ []) :
    scanTags (bytesBehind before) (o.inBytes (before.reverse ++ s)) (bytes s) =
      scanTags (bytesBehind (passed before s))
        (((Finding.at before s).addTo o (passed before s).length).inBytes (before.reverse ++ s))
        (bytes (ahead before s)) := by
  by_cases hplain : Finding.at before s = .plain → ∀ c ∈ s.head?, c.toNat < 128
  · have hne : bytes s ≠ [] := fun h => hs (bytes_eq_nil_iff.1 h)
    have hlength := length_inBytes hplain hs
    have hpassed : passed (bytesBehind before) (bytes s) = bytesBehind (passed before s) := by
      rw [passed, at_bytes, hlength, (bytes_split s _).1, passed, bytesBehind_append]
    have hahead : ahead (bytesBehind before) (bytes s) = bytes (ahead before s) := by
      rw [ahead, at_bytes, hlength, (bytes_split s _).2, ahead]
    have htext : (before.reverse ++ s).take (passed before s).length =
        (passed before s).reverse := by
      rw [← reverse_passed_append_ahead, ← List.length_reverse, List.take_left]
    have hplace : (bytesBehind (passed before s)).length =
        byteLength ((before.reverse ++ s).take (passed before s).length) := by
      rw [htext, bytesBehind, List.length_reverse, byteLength]
    rw [scanTags_step _ _ hne, hpassed, hahead, at_bytes, hplace, addTo_inBytes]
  · -- the bytes of a character beyond the first 128 are passed one by one
    rw [Classical.not_imp] at hplain
    obtain ⟨hfinding, hwide⟩ := hplain
    obtain ⟨c, rest, rfl⟩ := List.exists_cons_of_ne_nil hs
    have hc : 128 ≤ c.toNat := by
      by_contra hlt
      refine hwide fun d hd => ?_
      rw [← Option.some.inj hd]
      exact Nat.not_le.1 hlt
    have hnothing : ∀ u ∈ bytes [c], startsNothing u = true := fun u hu =>
      startsNothing_of_wide (wide_of_mem_bytes hc hu)
    rw [bytes_cons, scanTags_append_of_startsNothing hnothing, ← bytesBehind_append, passed, ahead,
      hfinding]
    rfl

/-- A scan of the bytes of a text finds the tags of the text. -/
theorem scanTags_bytes (before : List Char) (o : OpenTags) (s : List Char) :
    scanTags (bytesBehind before) (o.inBytes (before.reverse ++ s)) (bytes s) =
      (scanTags before o s).inBytes (before.reverse ++ s) := by
  induction before, s using scan_induction generalizing o with
  | nil before =>
      show scanTags _ _ [] = _
      rw [scanTags, scanTags]
  | step before s hs ih =>
      rw [scanTags_bytes_step before o hs, scanTags_step before o hs,
        ← reverse_passed_append_ahead]
      exact ih _

/-- The tags that are open at the end of a text are those that are open at the end of its bytes. -/
theorem openTags_bytes (s : List Char) : openTags (bytes s) = (openTags s).inBytes s :=
  scanTags_bytes [] {} s

end StoryMend.Repair
