import Mathlib
import StoryMend.Proofs.Repair.Scan

/-!
Whether the tags that are closed count as closed afterwards.  The closing tags go to the end
of the text or before a line that exports something, whatever the text before them ends in.
Where that is no comment and no string, a scan sees them, one closing tag for each open tag,
and nothing after them is seen that was not seen before.  Where it is, they become a part of
the comment or string.  The main statement is `reconcileTags_outcome`.
-/

namespace StoryMend.Repair

open Text

/-! ### The names of open tags -/

/-- A name that a tag may have: nothing, or a letter and name characters. -/
def IsElementName (name : List Char) : Prop :=
  (∀ c ∈ name, isNameChar c = true) ∧ ∀ c ∈ name.head?, c.isAlpha = true

theorem isElementName_cons {c : Char} {more : List Char} (hc : c.isAlpha = true)
    (hmore : (c :: more).all isNameChar = true) : IsElementName (c :: more) :=
  ⟨List.all_eq_true.1 hmore, fun _ hd => Option.some.inj hd ▸ hc⟩

theorem isElementName_of_opening {before s : List Char} {t : Tag}
    (h : Finding.at before s = .tag t) (hkind : t.kind = .opening) : IsElementName t.name := by
  obtain ⟨rest, rfl, hread⟩ := Finding.at_eq_tag h
  obtain ⟨hchars, hprefix⟩ := Tag.read?_opening hread hkind
  refine ⟨hchars, fun c hc => ?_⟩
  obtain ⟨more, hname⟩ := List.head?_eq_some_iff.1 hc
  obtain ⟨after, rfl⟩ := hprefix
  have hchar := hchars c (by rw [hname]; exact List.mem_cons_self)
  -- A tag that starts with a name character that is no letter does not start.
  cases hstart : isTagStart before.head? (t.name ++ after) with
  | true =>
      rw [hname, List.cons_append, isTagStart] at hstart
      · simp only [Bool.and_eq_true, Bool.or_eq_true, beq_iff_eq] at hstart
        rcases hstart.1 with halpha | rfl
        · exact halpha
        · cases hchar
      · rintro d tail rfl -
        cases hchar
  | false =>
      rw [Finding.at, literalLength?_lt] at h
      simp only [hstart, Bool.false_eq_true, ↓reduceIte] at h
      cases h

/-- The names of open tags are names that tags may have. -/
theorem isElementName_of_mem_scanTags {before s : List Char} {o : OpenTags}
    (ho : ∀ name ∈ o.names, IsElementName name) :
    ∀ name ∈ (scanTags before o s).names, IsElementName name := by
  induction before, s using scan_induction generalizing o with
  | nil before => rwa [scanTags]
  | step before s hs ih =>
      rw [scanTags_step before o hs]
      refine ih fun name hname => ?_
      cases hfinding : Finding.at before s with
      | tag t =>
          rw [hfinding] at hname
          rcases OpenTags.mem_add hname with hname | ⟨hkind, rfl⟩
          · exact ho name hname
          · exact isElementName_of_opening hfinding hkind
      | literal n =>
          rw [hfinding] at hname
          exact ho name hname
      | plain =>
          rw [hfinding] at hname
          exact ho name hname

theorem isElementName_of_mem_openTags {s name : List Char} (h : name ∈ (openTags s).names) :
    IsElementName name :=
  isElementName_of_mem_scanTags (fun _ h => absurd h List.not_mem_nil) name h

/-! ### The tags that close them -/

/-- The names that stay open after a closing tag. -/
def closeName (name : List Char) (names : List (List Char)) : List (List Char) :=
  if names.head? = some name then names.tail else names

theorem closeName_cons (name : List Char) (names : List (List Char)) :
    closeName name (name :: names) = names :=
  if_pos rfl

/-- A closing tag closes the innermost open tag if that has its name; blanks after the name
are no part of it. -/
theorem scanTags_closing {name gap : List Char} (hname : IsElementName name)
    (hgap : ∀ c ∈ gap, isPlainBlank c = true) (hfragment : name = [] → gap = [])
    (before : List Char) (o : OpenTags) (x : List Char) :
    scanTags before o ('<' :: '/' :: (name ++ gap ++ ['>']) ++ x) =
      scanTags (('<' :: '/' :: (name ++ gap ++ ['>'])).reverse ++ before)
        { names := closeName name o.names
          lastEnd := (('<' :: '/' :: (name ++ gap ++ ['>'])).reverse ++ before).length } x := by
  have hstart : isTagStart before.head? ('/' :: (name ++ gap ++ ['>']) ++ x) = true := by
    cases name with
    | nil =>
        rw [hfragment rfl]
        rfl
    | cons c more =>
        rw [List.cons_append, List.cons_append, List.cons_append, List.cons_append, isTagStart,
          hname.2 c rfl]
        rfl
  have hread := Tag.read?_slash_eq_some_iff.2
    ⟨name, gap, x, show name ++ gap ++ ['>'] ++ x = _ by simp, hname.1, hgap, rfl⟩
  rw [scanTags_of_tag o hstart hread (by simp; omega)]
  simp only [OpenTags.add, closeName, beq_iff_eq]

theorem scanTags_closingTag {name : List Char} (hname : IsElementName name)
    (before : List Char) (o : OpenTags) (x : List Char) :
    scanTags before o (closingTag name ++ x) =
      scanTags ((closingTag name).reverse ++ before)
        { names := closeName name o.names
          lastEnd := ((closingTag name).reverse ++ before).length } x := by
  have hclosing : closingTag name = '<' :: '/' :: (name ++ [] ++ ['>']) := by simp [closingTag]
  rw [hclosing, scanTags_closing hname (by simp) (fun _ => rfl)]

/-- Closing tags for all open tags, innermost first, leave none open. -/
theorem exists_scanTags_closers {names : List (List Char)} {o : OpenTags}
    (hnames : ∀ name ∈ names, IsElementName name) (ho : o.names = names) (before : List Char) :
    ∃ o' : OpenTags, o'.names = [] ∧ ∀ rest,
      scanTags before o (names.flatMap closingTag ++ rest) =
        scanTags ((names.flatMap closingTag).reverse ++ before) o' rest := by
  induction names generalizing o before with
  | nil => exact ⟨o, ho, fun rest => rfl⟩
  | cons name names ih =>
      obtain ⟨hname, hnames⟩ := List.forall_mem_cons.1 hnames
      obtain ⟨o', hnone, hscan⟩ := ih hnames (o := { names := names, lastEnd := _ }) rfl
        ((closingTag name).reverse ++ before)
      refine ⟨o', hnone, fun rest => ?_⟩
      rw [List.flatMap_cons, List.append_assoc, scanTags_closingTag hname, ho, closeName_cons,
        hscan]
      simp

/-! ### Where they go -/

/-- The text that closing tags are added to. -/
def beforeClosers (s : List Char) : List Char := s.take (insertionPoint s (openTags s).lastEnd)

/-- The text that comes after the closing tags. -/
def afterClosers (s : List Char) : List Char := s.drop (insertionPoint s (openTags s).lastEnd)

theorem beforeClosers_append_afterClosers (s : List Char) :
    beforeClosers s ++ afterClosers s = s :=
  List.take_append_drop _ s

/-- Only blanks come after the end of a text. -/
theorem isBlankText_afterClosers {s : List Char}
    (hplace : ¬ insertionPoint s (openTags s).lastEnd < (trimEnd s).length) :
    isBlankText (afterClosers s) = true := by
  obtain ⟨blanks, hblanks, hs⟩ := exists_trimEnd_append s
  obtain ⟨n, hn⟩ := Nat.exists_eq_add_of_le (Nat.le_of_not_lt hplace)
  have hafter := congrArg (List.drop ((trimEnd s).length + n)) hs
  rw [List.drop_length_add_append, ← hn] at hafter
  rw [afterClosers, hafter]
  exact isBlankText_of_isInfix (List.drop_suffix n blanks).isInfix hblanks

theorem isFiller_of_isBlank {c : Char} (hc : isBlank c = true) : isFiller c = true := by
  have hletter := isAlpha_of_isBlank hc
  have hmark : ∀ d ∈ ['<', '/', '"', '\'', '\x60', '*', '>'], c ≠ d := by
    rintro d hd rfl
    simp only [List.mem_cons, List.not_mem_nil, or_false] at hd
    rcases hd with rfl | rfl | rfl | rfl | rfl | rfl | rfl <;> cases hc
  simp only [List.forall_mem_cons] at hmark
  obtain ⟨hlt, hslash, hquote, hapostrophe, htemplate, hstar, hbracket, -⟩ := hmark
  simp [isFiller, startsNothing, hletter, hlt, hslash, hquote, hapostrophe, htemplate, hstar,
    hbracket]

theorem isFiller_of_isBlankText {s : List Char} (hs : isBlankText s = true) :
    ∀ c ∈ s, isFiller c = true :=
  fun c hc => isFiller_of_isBlank (List.all_eq_true.1 hs c hc)

/-- The last tag ends before the blanks at the end of a text. -/
theorem exists_bracket_of_scanTags (before : List Char) (o : OpenTags) (s : List Char) :
    (scanTags before o s).lastEnd = o.lastEnd ∨
      ∃ front back, before.reverse ++ s = front ++ '>' :: back ∧
        (scanTags before o s).lastEnd = front.length + 1 := by
  induction before, s using scan_induction generalizing o with
  | nil before => exact Or.inl (by rw [scanTags])
  | step before s hs ih =>
      have hsplit : (passed before s).reverse ++ ahead before s = before.reverse ++ s := by
        rw [passed, ahead, List.reverse_append, List.reverse_reverse, List.append_assoc,
          List.take_append_drop]
      rw [scanTags_step before o hs]
      rcases ih ((Finding.at before s).addTo o (passed before s).length) with
        hlast | ⟨front, back, htext, hlast⟩
      · rw [hlast]
        cases hfinding : Finding.at before s with
        | tag t =>
            obtain ⟨rest, rfl, hread⟩ := Finding.at_eq_tag hfinding
            obtain ⟨front, back, rfl, hlength⟩ := Tag.exists_end_of_read? hread
            refine Or.inr ⟨before.reverse ++ '<' :: front, back, by simp, ?_⟩
            show (passed before _).length = _
            rw [passed, hfinding, Finding.length, hlength]
            simp
            omega
        | literal n => exact Or.inl rfl
        | plain => exact Or.inl rfl
      · exact Or.inr ⟨front, back, hsplit ▸ htext, hlast⟩

theorem lastEnd_openTags_le (s : List Char) : (openTags s).lastEnd ≤ (trimEnd s).length := by
  rcases exists_bracket_of_scanTags [] {} s with
    hlast | ⟨front, back, htext, hlast⟩
  · rw [openTags, hlast]
    exact Nat.zero_le _
  · rw [openTags, hlast]
    obtain ⟨blanks, hblanks, hs⟩ := exists_trimEnd_append s
    by_contra hshort
    -- The bracket would be one of the blanks.
    have hmem : '>' ∈ blanks := by
      have hdrop := congrArg (List.drop (trimEnd s).length) (hs.symm.trans htext)
      rw [List.drop_left, List.drop_append_of_le_length (by omega)] at hdrop
      rw [hdrop]
      simp
    exact absurd (List.all_eq_true.1 hblanks _ hmem) (by decide)

/-- A line of which something plain is left starts plainly. -/
theorem startsPlainly_of_trim {line more : List Char} {c : Char} (h : trim line = c :: more)
    (hc : startsNothing c = true) (rest : List Char) : startsPlainly (line ++ rest) = true := by
  induction line with
  | nil => cases h
  | cons d line ih =>
      by_cases hplain : isPlainBlank d = true
      · have htrim : trim (d :: line) = trim line := by
          rw [trim, trim, trimStart, trimStart,
            List.dropWhile_cons_of_pos (isBlank_of_isPlainBlank hplain)]
        rw [List.cons_append, startsPlainly, List.dropWhile_cons_of_pos hplain]
        exact ih (htrim ▸ h)
      · rw [List.cons_append, startsPlainly, List.dropWhile_cons_of_neg hplain]
        show startsNothing d = true
        by_cases hblank : isBlank d = true
        · exact startsNothing_of_isFiller (isFiller_of_isBlank hblank)
        · have hstart : trimStart (d :: line) = d :: line := List.dropWhile_cons_of_neg hblank
          obtain ⟨tail, htail⟩ := trimEnd_isPrefix (d :: line)
          rw [trim, hstart] at h
          rw [h] at htail
          cases htail
          exact hc

/-- What stands at the place of a line. -/
theorem exists_drop_eq_append {s line : List Char} {place : Nat}
    (h : (place, line) ∈ placeLines 0 (lines s)) : ∃ rest, s.drop place = line ++ rest := by
  obtain ⟨front, rest, -, -, hdrop⟩ := exists_parts_of_mem_placeLines h
  rw [hdrop]
  by_cases hrest : rest = []
  · rw [hrest]
    exact ⟨[], (List.append_nil line).symm⟩
  · exact ⟨_, unlines_cons line hrest⟩

/-- A line that closing tags go before starts plainly. -/
theorem startsPlainly_of_line {line : List Char}
    (h : isExportLine line = true ∨ isObjectEnd line = true) (rest : List Char) :
    startsPlainly (line ++ rest) = true := by
  have hexport : ∀ word, ('e' :: word).isPrefixOf (trim line) = true →
      startsPlainly (line ++ rest) = true := by
    intro word hword
    obtain ⟨more, hmore⟩ := List.isPrefixOf_iff_prefix.1 hword
    exact startsPlainly_of_trim hmore.symm (by decide) rest
  rcases h with h | h
  · rw [isExportLine, Bool.or_eq_true] at h
    exact h.elim (hexport _) (hexport _)
  · exact startsPlainly_of_trim (beq_iff_eq.1 h) (by decide) rest

/-- What a text lacks at its end: closing braces for the ones that are open, each on a line,
and a semicolon. -/
def statementEnd (s : List Char) : List Char :=
  if braceDeficit s = 0 then []
  else (if s.getLast? = some '\n' then [] else ['\n']) ++
    unlines (List.replicate (braceDeficit s) ['}']) ++ [';']

theorem unlines_braces (n : Nat) :
    unlines (List.replicate (n + 1) ['}']) = (List.replicate n ['}', '\n']).flatten ++ ['}'] := by
  induction n with
  | zero => rfl
  | succ n ih =>
      rw [List.replicate_succ, unlines_cons _ (by simp), ih, List.replicate_succ]
      rfl

theorem closeStatement_eq (s : List Char) : closeStatement s = s ++ statementEnd s := by
  unfold closeStatement statementEnd
  split
  · exact (List.append_nil s).symm
  · next hs =>
      obtain ⟨n, hn⟩ := Nat.exists_eq_succ_of_ne_zero hs
      have hline : (if s.getLast? = some '\n' then s else s ++ ['\n']) =
          s ++ (if s.getLast? = some '\n' then [] else ['\n']) := by
        split <;> simp
      have hbalanced : trimEnd (balanceBraces s) =
          s ++ (if s.getLast? = some '\n' then [] else ['\n']) ++
            (List.replicate n ['}', '\n']).flatten ++ ['}'] := by
        simp only [balanceBraces, hn, Nat.succ_eq_add_one]
        rw [hline, trimEnd_braces]
      dsimp only
      rw [hbalanced, List.getLast?_concat, if_neg (by decide), hn, Nat.succ_eq_add_one,
        unlines_braces]
      simp only [List.append_assoc]

theorem isFiller_of_mem_statementEnd {s : List Char} {c : Char} (hc : c ∈ statementEnd s) :
    isFiller c = true := by
  have hmem : c = '\n' ∨ c = '}' ∨ c = ';' := by
    unfold statementEnd at hc
    split at hc
    · cases hc
    · rcases List.mem_append.1 hc with hc | hc
      · rcases List.mem_append.1 hc with hc | hc
        · split at hc
          · cases hc
          · exact Or.inl (List.mem_singleton.1 hc)
        · rcases mem_join hc with hc | ⟨piece, hpiece, hc⟩
          · exact Or.inl (List.mem_singleton.1 hc)
          · rw [List.eq_of_mem_replicate hpiece] at hc
            exact Or.inr (Or.inl (List.mem_singleton.1 hc))
      · exact Or.inr (Or.inr (List.mem_singleton.1 hc))
  rcases hmem with rfl | rfl | rfl <;> rfl

/-- What is added at the end changes no tag. -/
theorem openTags_closeStatement (s : List Char) : openTags (closeStatement s) = openTags s := by
  rw [closeStatement_eq]
  exact scanTags_append_fillers (Nat.zero_le _) fun _ => isFiller_of_mem_statementEnd

/-! ### What becomes of them -/

/-- The tags that close all open tags, the innermost first. -/
def closers (s : List Char) : List Char := (openTags s).names.flatMap closingTag

/-- The line break after the closing tags. -/
def closersEnd (s : List Char) : List Char :=
  if insertionPoint s (openTags s).lastEnd < (trimEnd s).length then ['\n'] else []

/-- The closing tags are followed by a line break if something comes after them. -/
theorem closersEnd_eq (s : List Char) :
    closersEnd s = if isBlankText (afterClosers s) = true then [] else ['\n'] := by
  by_cases hplace : insertionPoint s (openTags s).lastEnd < (trimEnd s).length
  · have hsome : isBlankText (afterClosers s) ≠ true := by
      intro hblank
      have htrim := trimEnd_append_blanks (beforeClosers s) hblank
      rw [beforeClosers_append_afterClosers] at htrim
      have hle := (trimEnd_isPrefix (beforeClosers s)).length_le
      rw [← htrim, beforeClosers, List.length_take] at hle
      omega
    rw [closersEnd, if_pos hplace, if_neg hsome]
  · rw [closersEnd, if_neg hplace, if_pos (isBlankText_afterClosers hplace)]

/-- The characters of closing tags. -/
theorem ne_of_mem_closingTag {name : List Char} (hname : ∀ c ∈ name, isNameChar c = true)
    {c d : Char} (hc : c ∈ closingTag name) (hd : isNameChar d = false)
    (hmark : d ∉ ['<', '/', '>']) : c ≠ d := by
  rintro rfl
  simp only [closingTag, List.mem_append, List.mem_cons, List.not_mem_nil, or_false] at hc
  simp only [List.mem_cons, List.not_mem_nil, or_false] at hmark
  rcases hc with (hc | hc) | hc
  · exact hmark (hc.imp_right Or.inl)
  · rw [hname c hc] at hd
    cases hd
  · exact hmark (Or.inr (Or.inr hc))

theorem isQuiet_of_mem_closingTag {name : List Char} (hname : ∀ c ∈ name, isNameChar c = true)
    {c : Char} (hc : c ∈ closingTag name) : isQuiet c = true := by
  by_contra hnot
  simp only [isQuiet, isStringPlain, Bool.not_eq_true, Bool.and_eq_false_iff,
    bne_eq_false_iff_eq] at hnot
  rcases hnot with ((((rfl | rfl) | rfl) | rfl) | rfl) | rfl <;>
    exact ne_of_mem_closingTag hname hc rfl (by decide) rfl

theorem ne_of_mem_closers {s : List Char} {c d : Char} (hc : c ∈ closers s)
    (hd : isNameChar d = false) (hmark : d ∉ ['<', '/', '>']) : c ≠ d := by
  obtain ⟨name, hname, hc⟩ := List.mem_flatMap.1 hc
  exact ne_of_mem_closingTag (isElementName_of_mem_openTags hname).1 hc hd hmark

theorem isQuiet_of_mem_closers {s : List Char} {c : Char} (hc : c ∈ closers s) :
    isQuiet c = true := by
  obtain ⟨name, hname, hc⟩ := List.mem_flatMap.1 hc
  exact isQuiet_of_mem_closingTag (isElementName_of_mem_openTags hname).1 hc

/-- What is added for the open tags ends no comment, no template and no tag. -/
theorem isKept_of_mem_closers {s : List Char} {c : Char} (hc : c ∈ closers s ++ closersEnd s) :
    isKept c = true ∧ isAttributePlain c = true := by
  rcases List.mem_append.1 hc with hc | hc
  · constructor
    · by_contra hnot
      simp only [isKept, Bool.not_eq_true, Bool.and_eq_false_iff, bne_eq_false_iff_eq] at hnot
      rcases hnot with (rfl | rfl) | rfl <;> exact ne_of_mem_closers hc rfl (by decide) rfl
    · by_contra hnot
      simp only [isAttributePlain, Bool.not_eq_true, Bool.and_eq_false_iff,
        bne_eq_false_iff_eq] at hnot
      rcases hnot with (((rfl | rfl) | rfl) | rfl) | rfl <;>
        exact ne_of_mem_closers hc rfl (by decide) rfl
  · rw [closersEnd] at hc
    split at hc
    · rw [List.mem_singleton.1 hc]
      exact ⟨rfl, rfl⟩
    · cases hc

section Closing

variable {s : List Char} (hopen : (openTags s).names ≠ [])

include hopen

theorem reconcileTags_of_open :
    reconcileTags s =
      closeStatement (beforeClosers s ++ (closers s ++ (closersEnd s ++ afterClosers s))) := by
  unfold reconcileTags
  dsimp only
  rw [if_neg (by simpa using hopen)]
  simp only [List.append_assoc]
  rfl

theorem closers_head? (w : List Char) : (closers s ++ w).head? = some '<' := by
  obtain ⟨name, names, hnames⟩ := List.exists_cons_of_ne_nil hopen
  rw [closers, hnames]
  rfl

/-- Where there is an open tag, closing tags come after it. -/
theorem lastEnd_le_length_beforeClosers :
    0 < (openTags s).lastEnd ∧ (openTags s).lastEnd ≤ (beforeClosers s).length := by
  have hpos : 0 < (openTags s).lastEnd := by
    rcases scanTags_cases [] {} s with hnone | hfound
    · rw [openTags, hnone] at hopen
      exact absurd rfl hopen
    · exact hfound
  have hend := lastEnd_openTags_le s
  have hlength := (trimEnd_isPrefix s).length_le
  refine ⟨hpos, ?_⟩
  rw [beforeClosers, List.length_take]
  rcases insertionPoint_spec s (openTags s).lastEnd with ⟨line, -, hle, -⟩ | hplace
  · omega
  · omega

/-- Closing tags stand at the end of a text or on a line of their own. -/
theorem beforeClosers_cases :
    (isBlankText (afterClosers s) = true ∧ closersEnd s = []) ∨
      ((beforeClosers s).getLast? = some '\n' ∧ startsPlainly (afterClosers s) = true ∧
        closersEnd s = ['\n']) := by
  by_cases hplace : insertionPoint s (openTags s).lastEnd < (trimEnd s).length
  · right
    rcases insertionPoint_spec s (openTags s).lastEnd with ⟨line, hmem, -, hline⟩ | hend
    · obtain ⟨rest, hrest⟩ := exists_drop_eq_append hmem
      refine ⟨?_, ?_, if_pos hplace⟩
      · rcases endsLine_take hmem with hnil | ⟨front, hfront⟩
        · obtain ⟨hpos, hle⟩ := lastEnd_le_length_beforeClosers hopen
          rw [beforeClosers, hnil, List.length_nil] at hle
          omega
        · rw [beforeClosers, hfront, List.getLast?_concat]
      · rw [afterClosers, hrest]
        exact startsPlainly_of_line hline rest
    · omega
  · left
    exact ⟨isBlankText_afterClosers hplace, if_neg hplace⟩

/-- A tag that has no end in the text and none after it has none once other tags are closed. -/
theorem read?_append_closers {rest : List Char} (hrest : '<' :: rest <:+ beforeClosers s)
    (hnone : Tag.read? rest = none) (hafter : Tag.read? (rest ++ afterClosers s) = none) :
    Tag.read? (rest ++ (closers s ++ (closersEnd s ++ afterClosers s))) = none := by
  rw [← List.append_assoc (closers s)]
  refine Tag.read?_append_plain hnone (fun c hc => (isKept_of_mem_closers hc).2)
    (closers_head? hopen _) ?_
  · rcases beforeClosers_cases hopen with ⟨hblank, -⟩ | ⟨hlast, -, hend⟩
    · exact Or.inl (not_mem_of_isFiller (isFiller_of_isBlankText hblank))
    · refine Or.inr ⟨?_, ?_, hafter⟩
      · obtain ⟨front, hfront⟩ := hrest
        rw [← hfront, List.getLast?_append_of_ne_nil _ (List.cons_ne_nil _ _)] at hlast
        rcases getLast?_cons_cases hlast with ⟨-, hlt⟩ | hmore
        · exact absurd hlt (by decide)
        · exact hmore
      · rw [hend, List.getLast?_concat]

/-- What comes before the closing tags goes on with them or without them. -/
theorem meets_beforeClosers :
    Meets (beforeClosers s) (closers s ++ (closersEnd s ++ afterClosers s)) ∧
      Meets (beforeClosers s) (afterClosers s) := by
  constructor
  · refine Or.inr fun c hc => ?_
    rw [closers_head? hopen] at hc
    obtain rfl := Option.some.inj hc
    decide
  · rcases beforeClosers_cases hopen with ⟨hblank, -⟩ | ⟨hlast, -, -⟩
    · exact Meets.of_isFiller (isFiller_of_isBlankText hblank) _
    · exact Or.inl hlast

theorem lastEnd_scanTags_split :
    (scanTags [] {} (beforeClosers s ++ afterClosers s)).lastEnd ≤
      ([] : List Char).length + (beforeClosers s).length := by
  rw [beforeClosers_append_afterClosers, List.length_nil, Nat.zero_add]
  exact (lastEnd_le_length_beforeClosers hopen).2

/-- All tags are closed where the text does not end in a comment or a string. -/
theorem names_openTags_reconcileTags (hends : endsInLiteral [] (beforeClosers s) = false) :
    (openTags (reconcileTags s)).names = [] := by
  obtain ⟨hmeets, hafter⟩ := meets_beforeClosers hopen
  rw [reconcileTags_of_open hopen, openTags_closeStatement, openTags,
    scanTags_append (fun _ => hmeets) (fun _ => hafter) {} hends (lastEnd_scanTags_split hopen)
      fun rest hrest => read?_append_closers hopen hrest,
    beforeClosers_append_afterClosers, ← openTags]
  obtain ⟨o, hnone, hscan⟩ := exists_scanTags_closers
    (fun _ => isElementName_of_mem_openTags (s := s)) rfl ((beforeClosers s).reverse ++ [])
  rw [closers, hscan]
  rcases beforeClosers_cases hopen with ⟨hblank, hend⟩ | ⟨hlast, hplain, hend⟩
  · rw [hend, List.nil_append, scanTags_of_startsNothing, hnone]
    exact fun c hc => startsNothing_of_isFiller (isFiller_of_isBlankText hblank c hc)
  · -- The lines after the closing tags start like those after the text before.
    have hlater : (scanTags (beforeClosers s).reverse (openTags s) (afterClosers s)).lastEnd ≤
        (beforeClosers s).reverse.length := by
      have halone := scanTags_append (fun _ => hafter) (fun _ => hafter) {} hends
        (lastEnd_scanTags_split hopen) fun _ _ _ h => h
      rw [beforeClosers_append_afterClosers, List.append_nil, ← openTags] at halone
      rw [← halone, List.length_reverse]
      exact (lastEnd_le_length_beforeClosers hopen).2
    obtain ⟨u, hu⟩ := List.getLast?_eq_some_iff.1 hlast
    rw [hu, List.reverse_append] at hlater
    rw [hend, List.singleton_append, scanTags, Finding.at_of_startsNothing _ (by decide)]
    rw [← hnone]
    exact congrArg OpenTags.names
      (scanTags_newline (x := []) (y := u.reverse) (Or.inr hplain) hlater _ o)

/-- No tag is closed where the text ends in a comment or a string. -/
theorem openTags_reconcileTags (hends : endsInLiteral [] (beforeClosers s) = true)
    (hescape : ¬ ['\\', '\n'] <:+ beforeClosers s) :
    openTags (reconcileTags s) = openTags s := by
  obtain ⟨hmeets, hafter⟩ := meets_beforeClosers hopen
  rw [reconcileTags_of_open hopen, openTags_closeStatement]
  rcases beforeClosers_cases hopen with ⟨hblank, hend⟩ | ⟨hlast, hplain, hend⟩
  · have hfillers := isFiller_of_isBlankText hblank
    have hwithout : scanTags [] {} (beforeClosers s ++ afterClosers s) =
        scanTags [] {} (beforeClosers s) :=
      scanTags_append_fillers (Nat.zero_le _) hfillers
    rw [beforeClosers_append_afterClosers] at hwithout
    rw [hend, List.nil_append] at hmeets ⊢
    rw [openTags, openTags, hwithout]
    refine scanTags_append_of_endsInLiteral (Nat.zero_le _) hends hmeets
      (fun c => isQuiet_of_mem_closers) ?_ (fun c hc => startsNothing_of_isFiller (hfillers c hc))
      fun rest hrest hnone => ?_
    · have hhead := closers_head? hopen []
      rw [List.append_nil] at hhead
      rw [hhead]
      decide
    · have hread := read?_append_closers hopen hrest hnone
        (Tag.read?_append_of_not_mem hnone (not_mem_of_isFiller hfillers))
      rwa [hend, List.nil_append] at hread
  · have hinsert := scanTags_insert_of_endsLine (w := closers s ++ closersEnd s) {} hends hlast
      hescape (lastEnd_scanTags_split hopen) hplain (by rwa [List.append_assoc])
      (fun c hc => (isKept_of_mem_closers hc).1) (by rw [hend, List.getLast?_concat])
      fun rest hrest hnone hafter => by
        rw [List.append_assoc]
        exact read?_append_closers hopen hrest hnone hafter
    rw [List.append_assoc, beforeClosers_append_afterClosers] at hinsert
    exact hinsert

end Closing

theorem reconcileTags_of_closed {s : List Char} (hclosed : (openTags s).names = []) :
    reconcileTags s = s := by
  rw [reconcileTags, hclosed]
  rfl

/-- Closing tags are added wherever a tag is open. -/
theorem reconcileTags_eq_self_iff (s : List Char) : reconcileTags s = s ↔ unclosedTags s = [] := by
  rw [unclosedTags, List.reverse_eq_nil_iff]
  constructor
  · intro hsame
    by_contra hopen
    have hlength := congrArg List.length (hsame.symm.trans (reconcileTags_of_open hopen))
    have hs := congrArg List.length (beforeClosers_append_afterClosers s)
    have hclosers : (closers s).length ≠ 0 := by
      intro hnil
      have hhead := closers_head? hopen []
      rw [List.length_eq_zero_iff.1 hnil] at hhead
      cases hhead
    rw [closeStatement_eq] at hlength
    simp only [List.length_append] at hlength hs
    omega
  · exact reconcileTags_of_closed

/-- What closing the tags of a text comes to.  If the part of the text before the place of the
closing tags does not end in a comment or a string, no tag is open afterwards and closing the
tags once more changes nothing.  If it does, the same tags are open as before, and the next
time they are closed once more; only where a string goes on over an escaped line break is
neither said. -/
theorem reconcileTags_outcome (s : List Char) :
    (unclosedTags s = [] ∨ endsInLiteral [] (beforeClosers s) = false →
      unclosedTags (reconcileTags s) = [] ∧
        reconcileTags (reconcileTags s) = reconcileTags s) ∧
    (unclosedTags s ≠ [] → endsInLiteral [] (beforeClosers s) = true →
      ¬ ['\\', '\n'] <:+ beforeClosers s →
        unclosedTags (reconcileTags s) = unclosedTags s ∧
          reconcileTags (reconcileTags s) ≠ reconcileTags s) := by
  constructor
  · intro h
    have hclosed : unclosedTags (reconcileTags s) = [] := by
      by_cases hopen : (openTags s).names = []
      · have hnone : unclosedTags s = [] := by rw [unclosedTags, hopen, List.reverse_nil]
        rw [(reconcileTags_eq_self_iff s).2 hnone, hnone]
      · have hends := h.resolve_left fun hnone => hopen (List.reverse_eq_nil_iff.1 hnone)
        rw [unclosedTags, names_openTags_reconcileTags hopen hends, List.reverse_nil]
    exact ⟨hclosed, (reconcileTags_eq_self_iff _).2 hclosed⟩
  · intro hopen hends hescape
    have hnames : (openTags s).names ≠ [] := fun hnil => hopen (by rw [unclosedTags, hnil]; rfl)
    have hsame : unclosedTags (reconcileTags s) = unclosedTags s := by
      rw [unclosedTags, openTags_reconcileTags hnames hends hescape, ← unclosedTags]
    refine ⟨hsame, fun hagain => hopen ?_⟩
    rw [← hsame]
    exact (reconcileTags_eq_self_iff _).1 hagain

/-- A text that is cut off within a tag. -/
def openCard : List Char := "const card = <Card>hi".toList

/-- The same with a comment at its end. -/
def commentedCard : List Char := "const card = <Card>hi; // a card".toList

theorem openCard_outcome :
    (unclosedTags (reconcileTags openCard) = [] ∧
        reconcileTags (reconcileTags openCard) = reconcileTags openCard) ∧
      unclosedTags (reconcileTags commentedCard) = unclosedTags commentedCard ∧
        reconcileTags (reconcileTags commentedCard) ≠ reconcileTags commentedCard := by
  have hends : endsInLiteral [] (beforeClosers openCard) = false := by cbv
  have hopen : unclosedTags commentedCard = ["Card".toList] := by cbv
  have hcomment : endsInLiteral [] (beforeClosers commentedCard) = true := by cbv
  have hescape : ¬ ['\\', '\n'] <:+ beforeClosers commentedCard := by
    have hplace : beforeClosers commentedCard = commentedCard := by cbv
    rw [hplace]
    decide
  exact ⟨(reconcileTags_outcome openCard).1 (Or.inr hends),
    (reconcileTags_outcome commentedCard).2 (by rw [hopen]; decide) hcomment hescape⟩

/-- The closing tag becomes a part of the comment, and so does the next one. -/
theorem not_closed_commentedCard :
    ¬ (unclosedTags (reconcileTags commentedCard) = [] ∧
      reconcileTags (reconcileTags commentedCard) = reconcileTags commentedCard) := by
  have hopen : unclosedTags (reconcileTags commentedCard) = ["Card".toList] := by cbv
  rw [hopen]
  decide

end StoryMend.Repair
