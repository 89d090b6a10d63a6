import StoryMend.Proofs.Import.Statement
import StoryMend.Proofs.Repair.Insertion
import StoryMend.Proofs.Repair.Strings
import StoryMend.Proofs.Text.Blank
import StoryMend.Repair.Engine

/-!
What each pass of repair adds.  Apart from the pass against truncation, every pass extends
its text by the additions of `Insertion`, each at a place of its own.
-/

namespace StoryMend.Repair

open Text

variable {runtime : Option Runtime} {names : List Char → Prop}

/-- Lines that are each followed by a line feed stop at the start of a line. -/
theorem endsLine_flatMap (front : List (List Char)) :
    EndsLine (front.flatMap (· ++ ['\n'])) := by
  rcases List.eq_nil_or_concat front with rfl | ⟨front, line, rfl⟩
  · exact Or.inl rfl
  · exact Or.inr ⟨front.flatMap (· ++ ['\n']) ++ line, by simp⟩

/-! ### The import of the runtime -/

/-- A text is split before one of its lines. -/
theorem splitAtFirst?_spec {s before rest : List Char}
    (h : Import.splitAtFirst? s = some (before, rest)) : s = before ++ rest ∧ EndsLine before := by
  rw [Import.splitAtFirst?_eq, Option.map_eq_some_iff] at h
  obtain ⟨more, hmore, hparts⟩ := h
  obtain ⟨rfl, hne⟩ := Option.guard_eq_some_iff.1 hmore
  obtain ⟨rfl, rfl⟩ := Prod.mk.inj hparts
  refine ⟨?_, endsLine_flatMap _⟩
  rw [← unlines_append _ (by simpa using hne), List.takeWhile_append_dropWhile, unlines_lines]

/-- A line is put at the start of a line. -/
theorem exists_insertBeforeImports (line s : List Char) :
    ∃ before after, s = before ++ after ∧ EndsLine before ∧
      insertBeforeImports line s = before ++ (line ++ ['\n']) ++ after := by
  unfold insertBeforeImports
  cases hsplit : Import.splitAtFirst? s with
  | none => exact ⟨[], s, rfl, Or.inl rfl, rfl⟩
  | some parts =>
      obtain ⟨hs, hplace⟩ := splitAtFirst?_spec hsplit
      exact ⟨parts.1, parts.2, hs, hplace, by simp⟩

/-- The pass leaves a text alone that does not lack its runtime, or inserts the line with the
statement at the start of a line. -/
theorem insertRuntimeImport_cases (parse : Parser) (r : Runtime) (kind : FileKind)
    (source : String) :
    (Diagnose.lacksRuntime (parse source kind) r source = false ∧
        insertRuntimeImport parse r kind source = source) ∨
      (Diagnose.lacksRuntime (parse source kind) r source = true ∧
        ∃ before after, source.toList = before ++ after ∧ EndsLine before ∧
          (insertRuntimeImport parse r kind source).toList =
            before ++ (r.statement.toList ++ ['\n']) ++ after) := by
  unfold insertRuntimeImport
  split
  next hlacks =>
    obtain ⟨before, after, hsource, hplace, hline⟩ :=
      exists_insertBeforeImports r.statement.toList source.toList
    exact Or.inr ⟨hlacks, before, after, hsource, hplace, by rw [String.toList_ofList, hline]⟩
  next hlacks => exact Or.inl ⟨by simpa using hlacks, rfl⟩

/-- The import of the runtime is a line of its own. -/
theorem insertRuntimeImport_extends (parse : Parser) (r : Runtime) (kind : FileKind)
    (source : String) :
    Extends (some r) names source.toList
      (insertRuntimeImport parse r kind source).toList := by
  rcases insertRuntimeImport_cases parse r kind source with
    ⟨-, hsame⟩ | ⟨-, before, after, hsource, hplace, hline⟩
  · rw [hsame]
    exact Extends.refl _
  · rw [hline, hsource]
    exact Extends.single (.runtimeLine before after hplace rfl)

/-! ### Braces -/

theorem extends_lineBreak (s : List Char) : Extends runtime names s (s ++ ['\n']) := by
  have hbreak : Insertion runtime names (s ++ []) (s ++ ['\n'] ++ []) :=
    .lineBreak s [] (Or.inr rfl)
  simpa using Extends.single hbreak

theorem extends_mark {mark : List Char} (hmark : Mark names mark) (s : List Char) :
    Extends runtime names s (s ++ mark) := by
  have hlast : Insertion runtime names (s ++ []) (s ++ mark ++ []) := .mark s [] hmark
  simpa using Extends.single hlast

/-- Closing braces, each with a line break. -/
theorem extends_braces (s : List Char) (n : Nat) :
    Extends runtime names s (s ++ (List.replicate n ['}', '\n']).flatten) := by
  induction n with
  | zero => simpa using Extends.refl s
  | succ n ih =>
      have hsplit : s ++ (List.replicate (n + 1) ['}', '\n']).flatten =
          s ++ (List.replicate n ['}', '\n']).flatten ++ ['}'] ++ ['\n'] := by
        simp [List.replicate_succ', -List.reduceReplicate]
      rw [hsplit]
      exact (ih.trans (extends_mark .brace _)).trans (extends_lineBreak _)

/-- The text that closing braces are added to. -/
theorem extends_lastLine (s : List Char) :
    Extends runtime names s (if s.getLast? = some '\n' then s else s ++ ['\n']) := by
  split
  · exact Extends.refl s
  · exact extends_lineBreak s

theorem balanceBraces_extends (s : List Char) : Extends runtime names s (balanceBraces s) := by
  unfold balanceBraces
  split
  · exact Extends.refl s
  · exact (extends_lastLine s).trans (extends_braces _ _)

/-! ### Strings -/

theorem missingQuotes_marks (line : List Char) :
    ∀ c ∈ missingQuotes line, Mark names [c] := by
  intro c hc
  rcases mem_missingQuotes hc with rfl | rfl
  · exact .quote
  · exact .apostrophe

theorem missingQuotes_extends (line before after : List Char) :
    Extends runtime names (before ++ after) (before ++ missingQuotes line ++ after) := by
  have hquotes : Extends runtime names (before ++ after)
      (before ++ (missingQuotes line).flatMap (fun c => [c]) ++ after) :=
    Extends.marks _ (missingQuotes_marks line) before after
  rwa [List.flatMap_singleton'] at hquotes

/-- Quotes are added where a line ends. -/
theorem closeLine_extends (before line after : List Char) :
    Extends runtime names (before ++ line ++ after) (before ++ closeLine line ++ after) := by
  have hsplit : before ++ line ++ after =
      before ++ lineBody line ++ (lineReturn line ++ after) := by
    conv_lhs => rw [← lineBody_append_lineReturn line]
    simp only [List.append_assoc]
  rw [hsplit, closeLine_eq]
  simpa only [List.append_assoc] using
    missingQuotes_extends (lineBody line) (before ++ lineBody line) (lineReturn line ++ after)

/-- Lines are closed one after another. -/
theorem closeLines_extends (before : List Char) (ls : List (List Char)) :
    Extends runtime names (before ++ unlines ls) (before ++ unlines (ls.map closeLine)) := by
  induction ls generalizing before with
  | nil => exact Extends.refl _
  | cons line rest ih =>
      cases rest with
      | nil => simpa [unlines, join] using closeLine_extends before line []
      | cons next rest =>
          have hfirst : Extends runtime names (before ++ line ++ '\n' :: unlines (next :: rest))
              (before ++ closeLine line ++ '\n' :: unlines (next :: rest)) :=
            closeLine_extends before line _
          have hrest := ih (before ++ closeLine line ++ ['\n'])
          simpa [unlines_cons] using hfirst.trans (by simpa using hrest)

theorem closeStrings_extends (s : List Char) : Extends runtime names s (closeStrings s) := by
  have hlines : Extends runtime names ([] ++ unlines (lines s))
      ([] ++ unlines ((lines s).map closeLine)) := closeLines_extends [] (lines s)
  simpa [closeStrings, unlines_lines] using hlines

/-! ### Tags -/

/-- The name of an opening tag is what its text starts with. -/
theorem Tag.read?_opening {s : List Char} {t : Tag} (h : Tag.read? s = some t)
    (hkind : t.kind = .opening) :
    (∀ c ∈ t.name, isNameChar c = true) ∧ t.name <+: s := by
  unfold Tag.read? at h
  split at h
  · dsimp only at h
    split at h
    · obtain rfl := Option.some.inj h
      cases hkind
    · cases h
  · obtain ⟨⟨kind, length⟩, -, rfl⟩ := Option.map_eq_some_iff.1 h
    exact ⟨fun c hc => List.mem_takeWhile_imp hc, List.takeWhile_prefix _⟩

/-- A tag that is open after another one has been added was open before, or it is the
other one. -/
theorem OpenTags.mem_add {o : OpenTags} {t : Tag} {tagEnd : Nat} {name : List Char}
    (h : name ∈ (o.add t tagEnd).names) :
    name ∈ o.names ∨ (t.kind = .opening ∧ name = t.name) := by
  unfold OpenTags.add at h
  cases hkind : t.kind with
  | opening =>
      simp only [hkind, List.mem_cons] at h
      exact h.symm.imp_right fun hname => ⟨rfl, hname⟩
  | closing =>
      simp only [hkind] at h
      split at h
      · exact Or.inl (List.mem_of_mem_tail h)
      · exact Or.inl h
  | selfClosing =>
      simp only [hkind] at h
      exact Or.inl h

/-- A tag that is found starts with `<`. -/
theorem Finding.at_eq_tag {before s : List Char} {t : Tag} (h : Finding.at before s = .tag t) :
    ∃ rest, s = '<' :: rest ∧ Tag.read? rest = some t := by
  unfold Finding.at at h
  split at h
  · cases h
  · split at h
    next _ rest _ =>
      split at h
      · split at h
        next hread =>
          obtain rfl := Finding.tag.inj h
          exact ⟨rest, rfl, hread⟩
        next => cases h
      · cases h
    next => cases h

/-- A tag that a scan leaves open was open before, or its name follows a `<` of the text. -/
theorem mem_scanTags {before s name : List Char} {o : OpenTags}
    (h : name ∈ (scanTags before o s).names) :
    name ∈ o.names ∨ ((∀ c ∈ name, isNameChar c = true) ∧ '<' :: name <:+: s) := by
  fun_induction scanTags before o s with
  | case1 before o => exact Or.inl h
  | case2 before o c rest finding taken before' o' ih =>
      rcases ih h with hname | ⟨hname, hrest⟩
      · cases hfinding : finding with
        | tag t =>
            have ho : o' = o.add t before'.length := by simp only [o', hfinding]
            rw [ho] at hname
            rcases OpenTags.mem_add hname with hname | ⟨hkind, rfl⟩
            · exact Or.inl hname
            · obtain ⟨rest', hs, hread⟩ := Finding.at_eq_tag hfinding
              obtain ⟨hchars, after, hafter⟩ := Tag.read?_opening hread hkind
              refine Or.inr ⟨hchars, [], after, ?_⟩
              rw [hs, ← hafter]
              rfl
        | literal n => exact Or.inl (by simpa only [o', hfinding] using hname)
        | plain => exact Or.inl (by simpa only [o', hfinding] using hname)
      · refine Or.inr ⟨hname, hrest.trans ?_⟩
        exact ((List.drop_suffix taken rest).trans (List.suffix_cons c rest)).isInfix

/-- Where the lines of a text start. -/
theorem mem_placeLines {start place : Nat} {line : List Char} {ls : List (List Char)}
    (h : (place, line) ∈ placeLines start ls) :
    ∃ front rest, ls = front ++ line :: rest ∧
      place = start + (front.flatMap (· ++ ['\n'])).length := by
  induction ls generalizing start with
  | nil => exact absurd h List.not_mem_nil
  | cons first more ih =>
      rw [placeLines, List.mem_cons] at h
      rcases h with h | h
      · obtain ⟨rfl, rfl⟩ := Prod.mk.inj h
        exact ⟨[], more, rfl, by simp⟩
      · obtain ⟨front, rest, rfl, hplace⟩ := ih h
        refine ⟨first :: front, rest, rfl, ?_⟩
        simp only [List.flatMap_cons, List.length_append, List.length_singleton, hplace]
        omega

theorem le_of_mem_placeLines {start : Nat} {ls : List (List Char)} {f : Nat × List Char}
    (hf : f ∈ placeLines start ls) : start ≤ f.1 := by
  obtain ⟨place, line⟩ := f
  obtain ⟨front, rest, -, rfl⟩ := mem_placeLines hf
  exact Nat.le_add_right _ _

/-- Every line stops before the next one starts. -/
theorem pairwise_placeLines (start : Nat) (ls : List (List Char)) :
    (placeLines start ls).Pairwise fun f g => f.1 + f.2.length < g.1 := by
  induction ls generalizing start with
  | nil => exact List.Pairwise.nil
  | cons line rest ih =>
      rw [placeLines, List.pairwise_cons]
      refine ⟨fun g hg => ?_, ih _⟩
      exact le_of_mem_placeLines hg

/-- A text in two parts, at a place where a line starts. -/
theorem exists_parts_of_mem_placeLines {s line : List Char} {place : Nat}
    (h : (place, line) ∈ placeLines 0 (lines s)) :
    ∃ front rest, lines s = front ++ line :: rest ∧
      s.take place = front.flatMap (· ++ ['\n']) ∧ s.drop place = unlines (line :: rest) := by
  obtain ⟨front, rest, hlines, hplace⟩ := mem_placeLines h
  have hs : s = front.flatMap (· ++ ['\n']) ++ unlines (line :: rest) := by
    rw [← unlines_append front (List.cons_ne_nil _ _), ← hlines, unlines_lines]
  rw [Nat.zero_add] at hplace
  refine ⟨front, rest, hlines, ?_, ?_⟩
  · rw [hs, hplace, List.take_left]
  · rw [hs, hplace, List.drop_left]

/-- The text before a place where a line starts. -/
theorem endsLine_take {s line : List Char} {place : Nat}
    (h : (place, line) ∈ placeLines 0 (lines s)) : EndsLine (s.take place) := by
  obtain ⟨front, rest, -, htake, -⟩ := exists_parts_of_mem_placeLines h
  rw [htake]
  exact endsLine_flatMap front

/-- The lines of a text from a place on where a line starts. -/
theorem lines_drop_of_mem_placeLines {s line : List Char} {place : Nat}
    (h : (place, line) ∈ placeLines 0 (lines s)) : ∃ rest, lines (s.drop place) = line :: rest := by
  obtain ⟨front, rest, hlines, -, hdrop⟩ := exists_parts_of_mem_placeLines h
  refine ⟨rest, ?_⟩
  rw [hdrop, lines_unlines (List.cons_ne_nil _ _)]
  intro l hl
  exact newline_not_mem_of_mem_lines (hlines ▸ List.mem_append_right front hl)

/-- Closing tags go before a line that exports something or ends an object, or to the end of
the text. -/
theorem insertionPoint_spec (s : List Char) (start : Nat) :
    (∃ line, (insertionPoint s start, line) ∈ placeLines 0 (lines s) ∧
      start ≤ insertionPoint s start ∧ (isExportLine line = true ∨ isObjectEnd line = true)) ∨
      insertionPoint s start = (trimEnd s).length := by
  unfold insertionPoint
  simp only
  split
  next place line hfound =>
    have htest := List.find?_some hfound
    simp only [Bool.and_eq_true, decide_eq_true_eq] at htest
    exact Or.inl ⟨line, List.mem_of_find?_eq_some hfound, htest.1, Or.inl htest.2⟩
  next =>
    split
    next place line hlast =>
      split
      next htest =>
        simp only [Bool.and_eq_true, decide_eq_true_eq] at htest
        have hmem := (List.mem_filter.1 (List.mem_of_getLast? hlast)).1
        exact Or.inl ⟨line, hmem, htest.2, Or.inr htest.1⟩
      next => exact Or.inr rfl
    next => exact Or.inr rfl

/-- Closing tags go to the start of a line or to the end of the text. -/
theorem insertionPoint_cases (s : List Char) (start : Nat) :
    EndsLine (s.take (insertionPoint s start)) ∨
      insertionPoint s start = (trimEnd s).length :=
  (insertionPoint_spec s start).imp_left fun ⟨_, hplace, _⟩ => endsLine_take hplace

/-- A closing brace with its line break, without the blanks at the end. -/
theorem trimEnd_braces (s : List Char) (n : Nat) :
    trimEnd (s ++ (List.replicate (n + 1) ['}', '\n']).flatten) =
      s ++ (List.replicate n ['}', '\n']).flatten ++ ['}'] := by
  have hsplit : s ++ (List.replicate (n + 1) ['}', '\n']).flatten =
      s ++ (List.replicate n ['}', '\n']).flatten ++ ['}'] ++ ['\n'] := by
    simp [List.replicate_succ', -List.reduceReplicate]
  have hblank : isBlankText ['\n'] = true := rfl
  rw [hsplit, trimEnd_append_blanks _ hblank]
  exact dropWhileEnd_concat _ rfl

/-- Only the line break after the last added brace is taken away again. -/
theorem trimEnd_balanceBraces_extends {s : List Char} (hs : braceDeficit s ≠ 0) :
    Extends runtime names s (trimEnd (balanceBraces s)) := by
  obtain ⟨n, hn⟩ := Nat.exists_eq_succ_of_ne_zero hs
  simp only [balanceBraces, hn, Nat.succ_eq_add_one, trimEnd_braces]
  exact ((extends_lastLine s).trans (extends_braces _ n)).trans (extends_mark .brace _)

theorem closeStatement_extends (s : List Char) : Extends runtime names s (closeStatement s) := by
  unfold closeStatement
  split
  · exact Extends.refl s
  next hs =>
    have hbraces : Extends runtime names s (trimEnd (balanceBraces s)) :=
      trimEnd_balanceBraces_extends hs
    dsimp only
    split
    · exact hbraces
    · exact hbraces.trans (extends_mark .semicolon _)

/-- The names of the tags that are open follow a `<` of the text. -/
theorem openTags_names {s name : List Char} (h : name ∈ (openTags s).names) :
    (∀ c ∈ name, isNameChar c = true) ∧ '<' :: name <:+: s :=
  (mem_scanTags h).resolve_left List.not_mem_nil

/-- Closing tags are added for the tags that are open. -/
theorem reconcileTags_extends {s : List Char}
    (hnames : ∀ name ∈ (openTags s).names, names name) :
    Extends runtime names s (reconcileTags s) := by
  unfold reconcileTags
  dsimp only
  split
  · exact Extends.refl s
  · refine Extends.trans ?_ (closeStatement_extends _)
    generalize hpoint : insertionPoint s (openTags s).lastEnd = point
    have hsplit : s.take point ++ s.drop point = s := List.take_append_drop point s
    have htags : ∀ rest, Extends runtime names (s.take point ++ rest)
        (s.take point ++ (openTags s).names.flatMap closingTag ++ rest) :=
      Extends.marks closingTag (fun name hname => Mark.closingTag (hnames name hname)) _
    split
    next hbefore =>
      -- The tags stand before a line, so they get a line of their own.
      have hplace : EndsLine (s.take point) := by
        rcases insertionPoint_cases s (openTags s).lastEnd with hplace | hend
        · rwa [hpoint] at hplace
        · omega
      have hbreak : Extends runtime names (s.take point ++ s.drop point)
          (s.take point ++ ['\n'] ++ s.drop point) :=
        Extends.single (.lineBreak _ _ (Or.inl hplace))
      rw [hsplit] at hbreak
      simpa using hbreak.trans (by simpa using htags ('\n' :: s.drop point))
    next => simpa [hsplit] using htags (s.drop point)

end StoryMend.Repair
