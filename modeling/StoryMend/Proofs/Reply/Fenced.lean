import Mathlib
import StoryMend.Proofs.Reply.Document

/-!
Replies of one fenced stretch of code and prose after it.  The first line may hold anything
after its backticks.  If it reads as a fence of code, the code is taken from the block.  If it
reads as no fence at all, the second fence opens a block instead of closing one, and the prose
is taken; and if nothing is taken from a block, everything from the first import of the code on
is taken, with the fence and the prose.  The main statement is `staysInside_iff`.
-/

namespace StoryMend.Reply

open Text

/-- A stretch of code between a line of backticks and some information and a fence, and prose
after it.  Neither the code nor the prose holds lines that start with backticks like a fence,
and no line of the prose starts an import. -/
structure FencedReply where
  info : List Char
  code : List Char
  prose : List Char
  newline_not_mem_info : '\n' ∉ info
  code_plain : ∀ line ∈ lines code, ¬ fenceMark <+: line.dropWhile isSpace
  prose_plain : ∀ line ∈ lines prose, ¬ fenceMark <+: line.dropWhile isSpace
  prose_no_import : ∀ line ∈ lines prose, Import.startsLine line = false

namespace FencedReply

variable (r : FencedReply)

/-- The first line. -/
def opening : List Char := fenceMark ++ r.info

/-- The text of a reply. -/
def text : List Char := r.opening ++ '\n' :: (r.code ++ '\n' :: (fenceMark ++ '\n' :: r.prose))

/-- Whether nothing but code is taken from a reply. -/
def StaysInside : Prop :=
  ∀ result, code? (String.ofList r.text) = some result → result.toList <:+: r.code

/-- The block of the code, if it has the given tag. -/
def block (tag : List Char) : Block := { tag, body := lines r.code, closed := true }

/-- Whether the first line opens a block that is taken as code: without a tag, or with the tag
of a script language. -/
def OpensCode : Prop :=
  ∃ tag, fenceTag? r.opening = some tag ∧ (tag = [] ∨ (r.block tag).isCode = true)

/-- Whether the first line is no fence, so that the second one opens a block, and there is
something in that block. -/
def OpensProse : Prop := fenceTag? r.opening = none ∧ content r.prose ≠ []

/-- Whether a line of the code starts an import. -/
def HasImport : Prop := ∃ line ∈ lines r.code, Import.startsLine line = true

/-- The code from the first line on that starts an import. -/
def imports : List Char := unlines ((lines r.code).dropWhile (!Import.startsLine ·))

end FencedReply

/-! ### Contents -/

theorem dropSuffix?_eq_some_iff {s mark front : List Char} :
    s.dropSuffix? mark = some front ↔ s = front ++ mark := by
  rw [List.dropSuffix?_eq_some_iff]
  constructor
  · rintro ⟨mark', rfl, hmark⟩
    rw [eq_of_beq hmark]
  · exact fun hs => ⟨mark, hs, beq_self_eq_true mark⟩

theorem content_isInfix (region : List Char) : content region <:+: region := by
  rw [content_eq]
  refine (trim_isInfix _).trans ?_
  cases hdrop : (trim region).dropSuffix? fenceMark with
  | none => exact trim_isInfix region
  | some front =>
      have hfront := dropSuffix?_eq_some_iff.1 hdrop
      exact (hfront ▸ (List.prefix_append front fenceMark)).isInfix.trans (trim_isInfix region)

theorem content_nil : content [] = [] := List.infix_nil.1 (content_isInfix [])

/-- What is neither a blank nor a backtick is part of the content. -/
theorem mem_content {region : List Char} {c : Char} (hc : c ∈ region)
    (hblank : isBlank c = false) (hmark : c ∉ fenceMark) : c ∈ content region := by
  have htrim := mem_trim_of_mem hc hblank
  rw [content_eq]
  refine mem_trim_of_mem ?_ hblank
  cases hdrop : (trim region).dropSuffix? fenceMark with
  | none => exact htrim
  | some front =>
      rw [dropSuffix?_eq_some_iff.1 hdrop, List.mem_append] at htrim
      exact htrim.resolve_right hmark

/-- The mark of a fence is no blank. -/
theorem trimEnd_append_fenceMark (s : List Char) : trimEnd (s ++ fenceMark) = s ++ fenceMark :=
  trimEnd_append_of_not_blank s rfl

section Contents

variable {s prose : List Char} (hs : isBlankText s = false)

include hs

/-- A text, a fence and more text without the blanks at their ends. -/
theorem trim_append_fence (rest : List Char) :
    trim (s ++ '\n' :: (fenceMark ++ rest)) =
      trimEnd (trimStart s ++ '\n' :: fenceMark ++ rest) := by
  rw [trim, trimStart_append_of_not_blank hs, List.append_assoc, List.cons_append]

/-- A fence at the end of a text is no part of its content. -/
theorem content_append_fence {blanks : List Char} (hblanks : isBlankText blanks = true) :
    content (s ++ '\n' :: (fenceMark ++ blanks)) = trim s := by
  have hstart : trimStart (trimStart s ++ ['\n']) = trimStart s ++ ['\n'] := by
    rw [← trimStart_append_of_not_blank hs]
    exact trimStart_of_isPrefix List.prefix_rfl
  have hfence : trimStart s ++ '\n' :: fenceMark = (trimStart s ++ ['\n']) ++ fenceMark := by
    simp
  have htrim : trim (s ++ '\n' :: (fenceMark ++ blanks)) =
      (trimStart s ++ ['\n']) ++ fenceMark := by
    rw [trim_append_fence hs, trimEnd_append_blanks _ hblanks, hfence, trimEnd_append_fenceMark]
  have hdrop : ((trimStart s ++ ['\n']) ++ fenceMark).dropSuffix? fenceMark =
      some (trimStart s ++ ['\n']) :=
    dropSuffix?_eq_some_iff.2 rfl
  rw [content_eq, htrim, hdrop, Option.getD_some, trim, hstart, trimEnd_append_blanks _ rfl, trim]

/-- A fence is part of the content if something follows it. -/
theorem fence_isInfix_content (hprose : isBlankText prose = false) :
    '\n' :: fenceMark <:+: content (s ++ '\n' :: (fenceMark ++ '\n' :: prose)) := by
  let front := trimStart s ++ '\n' :: fenceMark
  have hfront : trimEnd front = front := by
    have hfence := trimEnd_append_fenceMark (trimStart s ++ ['\n'])
    rwa [List.append_assoc, List.singleton_append] at hfence
  have htrim : trim (s ++ '\n' :: (fenceMark ++ '\n' :: prose)) =
      front ++ '\n' :: trimEnd prose := by
    have hline : front ++ '\n' :: prose = (front ++ ['\n']) ++ prose := by simp
    rw [trim_append_fence hs, hline, trimEnd_append_of_not_blank _ hprose]
    simp
  suffices front <+: content (s ++ '\n' :: (fenceMark ++ '\n' :: prose)) from
    (List.suffix_append _ _).isInfix.trans this.isInfix
  rw [content_eq, htrim]
  cases hdrop : (front ++ '\n' :: trimEnd prose).dropSuffix? fenceMark with
  | none =>
      rw [Option.getD_none, ← htrim, trim_trim, htrim]
      exact List.prefix_append front _
  | some left =>
      -- The line feed is no part of the mark that is taken away.
      have hleft := dropSuffix?_eq_some_iff.1 hdrop
      obtain ⟨more, rfl⟩ : front <+: left := by
        rcases List.append_eq_append_iff.1 hleft with ⟨more, hmore, -⟩ | ⟨more, -, hmore⟩
        · exact ⟨more, hmore.symm⟩
        · have hmem : '\n' ∈ fenceMark := by
            rw [hmore]
            simp
          exact absurd hmem (by decide)
      have hstart : trimStart (front ++ more) = front ++ more := by
        refine trimStart_of_isPrefix (s := s ++ '\n' :: (fenceMark ++ '\n' :: prose)) ?_
        refine List.IsPrefix.trans ⟨fenceMark, ?_⟩ (trimEnd_isPrefix _)
        rw [← trim, htrim, hleft]
      rw [Option.getD_some, trim, hstart]
      exact isPrefix_trimEnd_append hfront more

end Contents

/-! ### What is read -/

/-- A line that does not start with backticks is no fence. -/
theorem fenceTag?_of_not_isPrefix {line : List Char}
    (h : ¬ fenceMark <+: line.dropWhile isSpace) : fenceTag? line = none := by
  unfold fenceTag?
  cases hmark : after? fenceMark (line.dropWhile isSpace) with
  | none => rfl
  | some rest => exact absurd ⟨rest, (after?_eq_some_iff.1 hmark).symm⟩ h

/-- From a single block, closed or not, something is taken if it has no tag or one of a script
language. -/
theorem fencedCode?_singleton (b : Block) :
    fencedCode? [b] =
      if (b.tag.isEmpty || b.isCode) && b.content ≠ [] then some b.content else none := by
  have hfirst : ∀ p : Block → Bool, firstContent? p [b] =
      if p b && b.content ≠ [] then some b.content else none := by
    intro p
    rw [← List.nil_append [b], firstContent?_append]
    cases hp : p b <;> by_cases hempty : b.content = [] <;> simp [firstWith?, hp, hempty]
  rw [fencedCode?, hfirst, hfirst, hfirst]
  cases b.closed <;> cases b.isCode <;> cases b.tag.isEmpty <;> by_cases hempty : b.content = [] <;>
    simp [hempty]

namespace FencedReply

variable (r : FencedReply)

theorem lines_text : lines r.text = r.opening :: (lines r.code ++ fenceMark :: lines r.prose) := by
  have hopening : '\n' ∉ r.opening := by
    rw [opening, List.mem_append, not_or]
    exact ⟨by decide, r.newline_not_mem_info⟩
  have hfence : lines fenceMark = [fenceMark] := rfl
  rw [text, lines_append_newline, lines_append_newline, lines_append_newline, hfence,
    lines_of_not_mem hopening]
  rfl

/-- The prose is taken for a block if the first line is no fence. -/
theorem blocks_text_of_unread (h : fenceTag? r.opening = none) :
    blocks r.text = [{ tag := [], body := lines r.prose, closed := false }] := by
  have hcode := fun line hline => fenceTag?_of_not_isPrefix (r.code_plain line hline)
  have hprose := fun line hline => fenceTag?_of_not_isPrefix (r.prose_plain line hline)
  have hfence : fenceTag? fenceMark = some [] := rfl
  have hinside := blocksInside_append hprose [] [] []
  rw [List.append_nil, List.append_nil] at hinside
  rw [blocks, lines_text, blocksOutside, h]
  dsimp only
  rw [blocksOutside_append hcode, blocksOutside, hfence]
  dsimp only
  rw [hinside, blocksInside, List.reverse_reverse]

theorem blocks_text_of_read {tag : List Char} (h : fenceTag? r.opening = some tag) :
    blocks r.text = [r.block tag] := by
  have hcode := fun line hline => fenceTag?_of_not_isPrefix (r.code_plain line hline)
  have hprose := fun line hline => fenceTag?_of_not_isPrefix (r.prose_plain line hline)
  have hfence : fenceTag? fenceMark = some [] := rfl
  have houtside := blocksOutside_append hprose []
  rw [List.append_nil] at houtside
  rw [blocks, lines_text, blocksOutside, h]
  dsimp only
  rw [blocksInside_append hcode, blocksInside, hfence]
  dsimp only
  rw [houtside, List.append_nil, List.reverse_reverse]
  rfl

/-- A line of the code is no fence to be told from the code. -/
theorem not_fence_isInfix_code : ¬ '\n' :: fenceMark <:+: r.code := by
  rintro ⟨front, back, hcode⟩
  obtain ⟨first, rest, hback⟩ := exists_lines_eq_cons back
  have hfence : lines fenceMark = [] ++ [fenceMark] := rfl
  have hlines : lines r.code = lines front ++ (fenceMark ++ first) :: rest := by
    rw [← hcode, List.append_assoc, List.cons_append, lines_append_newline,
      lines_append hfence hback, List.nil_append]
  exact r.code_plain (fenceMark ++ first) (by simp [hlines]) (List.prefix_append fenceMark first)

/-! ### The imports of the code -/

theorem mem_of_startsLine {line : List Char} (h : Import.startsLine line = true) : 'i' ∈ line := by
  unfold Import.startsLine at h
  cases hword : after? Import.keyword (line.dropWhile isSpace) with
  | none => simp [hword] at h
  | some rest =>
      refine (List.dropWhile_sublist isSpace).subset ?_
      rw [after?_eq_some_iff.1 hword]
      exact List.mem_append_left rest (by decide)

theorem imports_isSuffix : r.imports <:+ r.code := by
  unfold imports
  cases hdrop : (lines r.code).dropWhile (!Import.startsLine ·) with
  | nil => exact List.nil_suffix
  | cons line rest =>
      have hsplit : (lines r.code).takeWhile (!Import.startsLine ·) ++
          (lines r.code).dropWhile (!Import.startsLine ·) = lines r.code :=
        List.takeWhile_append_dropWhile
      rw [hdrop] at hsplit
      rw [← unlines_lines r.code, ← hsplit, unlines_append _ (List.cons_ne_nil _ _)]
      exact List.suffix_append _ _

section Imports

variable {r} (hr : r.HasImport)

include hr

theorem exists_imports_eq_cons : ∃ line rest,
    (lines r.code).dropWhile (!Import.startsLine ·) = line :: rest ∧
      Import.startsLine line = true := by
  obtain ⟨line, hline, hstarts⟩ := hr
  have hne : (lines r.code).dropWhile (!Import.startsLine ·) ≠ [] := by
    intro hnil
    have hnot := List.dropWhile_eq_nil_iff.1 hnil line hline
    simp [hstarts] at hnot
  obtain ⟨first, rest, hdrop⟩ := List.exists_cons_of_ne_nil hne
  have hhead := List.head?_dropWhile_not (!Import.startsLine ·) (lines r.code)
  rw [hdrop] at hhead
  exact ⟨first, rest, hdrop, by simpa using hhead⟩

theorem mem_imports : 'i' ∈ r.imports := by
  obtain ⟨line, rest, hdrop, hstarts⟩ := exists_imports_eq_cons hr
  rw [imports, hdrop, ← List.append_nil line, unlines_append_cons]
  exact List.mem_append_left _ (mem_of_startsLine hstarts)

theorem isBlankText_imports : isBlankText r.imports = false := by
  by_contra hblank
  rw [Bool.not_eq_false] at hblank
  exact absurd (List.all_eq_true.1 hblank _ (mem_imports hr)) (by decide)

/-- The code of a block with an import is not empty. -/
theorem content_code_ne_nil : content r.code ≠ [] := by
  have hmem := mem_content (r.imports_isSuffix.subset (mem_imports hr)) (by decide) (by decide)
  exact List.ne_nil_of_mem hmem

/-- Without a block, everything from the first import on is taken. -/
theorem importedCode?_text :
    importedCode? r.text =
      some (content (r.imports ++ '\n' :: (fenceMark ++ '\n' :: r.prose))) := by
  obtain ⟨line, rest, hdrop, -⟩ := exists_imports_eq_cons hr
  have hopening : Import.startsLine r.opening = false := rfl
  have hfrom : unlines ((lines r.text).dropWhile (!Import.startsLine ·)) =
      r.imports ++ '\n' :: (fenceMark ++ '\n' :: r.prose) := by
    rw [lines_text, List.dropWhile_cons_of_pos (by simp [hopening]), List.dropWhile_append, hdrop]
    show unlines (line :: rest ++ fenceMark :: lines r.prose) = _
    rw [unlines_append_unlines (List.cons_ne_nil _ _) (List.cons_ne_nil _ _), imports, hdrop,
      unlines_cons fenceMark (lines_ne_nil _), unlines_lines]
  have hne : content (r.imports ++ '\n' :: (fenceMark ++ '\n' :: r.prose)) ≠ [] :=
    List.ne_nil_of_mem (mem_content (List.mem_append_left _ (mem_imports hr)) (by decide)
      (by decide))
  rw [importedCode?_eq, hfrom, Option.guard, if_pos (by simpa using hne)]

end Imports

theorem importedCode?_text_of_not (hr : ¬ r.HasImport) : importedCode? r.text = none := by
  have hopening : Import.startsLine r.opening = false := rfl
  have hfence : Import.startsLine fenceMark = false := rfl
  have hnone : (lines r.text).dropWhile (!Import.startsLine ·) = [] := by
    rw [List.dropWhile_eq_nil_iff, lines_text]
    simp only [List.forall_mem_cons, List.mem_append, or_imp, forall_and]
    refine ⟨by simp [hopening], fun line hline => ?_, by simp [hfence], fun line hline => ?_⟩
    · simpa using fun hstarts => hr ⟨line, hline, hstarts⟩
    · simpa using r.prose_no_import line hline
  rw [importedCode?_eq, hnone]
  show Option.guard _ (content []) = none
  rw [content_nil]
  rfl

/-! ### What is taken -/

/-- What is taken from a reply, before it is made a string. -/
def taken? : Option (List Char) := (fencedCode? (blocks r.text)).or (importedCode? r.text)

theorem staysInside_iff_taken? : r.StaysInside ↔ ∀ result ∈ r.taken?, result <:+: r.code := by
  rw [StaysInside, code?, String.toList_ofList]
  simp [taken?, String.toList_ofList]

/-- A block of code is taken, if there is something in it. -/
theorem taken?_of_opensCode (h : r.OpensCode) :
    r.taken? = if content r.code = [] then none else some (content r.code) := by
  obtain ⟨tag, htag, hcode⟩ := h
  have hcontent : (r.block tag).content = content r.code := by
    rw [Block.content, block, unlines_lines]
  have htaken : ((r.block tag).tag.isEmpty || (r.block tag).isCode) = true := by
    rcases hcode with rfl | hcode
    · rfl
    · rw [hcode, Bool.or_true]
  rw [taken?, r.blocks_text_of_read htag, fencedCode?_singleton, htaken, hcontent]
  by_cases hempty : content r.code = []
  · rw [if_neg (by simp [hempty]), if_pos hempty, Option.none_or]
    exact r.importedCode?_text_of_not fun himport => content_code_ne_nil himport hempty
  · rw [if_pos (by simpa using hempty), if_neg hempty, Option.some_or]

/-- The prose is taken if the second fence opens a block with something in it. -/
theorem taken?_of_opensProse (h : r.OpensProse) : r.taken? = some (content r.prose) := by
  obtain ⟨hunread, hne⟩ := h
  have hcontent : unlines (lines r.prose) = r.prose := unlines_lines r.prose
  rw [taken?, r.blocks_text_of_unread hunread, fencedCode?_singleton, Block.content, hcontent,
    if_pos (by simpa using hne), Option.some_or]

/-- Where no block is taken, the first import and what follows it is. -/
theorem taken?_of_not_opens (hcode : ¬ r.OpensCode) (hprose : ¬ r.OpensProse) :
    r.taken? = importedCode? r.text := by
  cases hopening : fenceTag? r.opening with
  | none =>
      have hempty : content r.prose = [] := by
        by_contra hne
        exact hprose ⟨hopening, hne⟩
      have hcontent : unlines (lines r.prose) = r.prose := unlines_lines r.prose
      rw [taken?, r.blocks_text_of_unread hopening, fencedCode?_singleton, Block.content, hcontent,
        if_neg (by simp [hempty]), Option.none_or]
  | some tag =>
      have hother : ((r.block tag).tag.isEmpty || (r.block tag).isCode) = false := by
        by_contra htaken
        rw [Bool.not_eq_false, Bool.or_eq_true, List.isEmpty_iff] at htaken
        exact hcode ⟨tag, hopening, htaken⟩
      rw [taken?, r.blocks_text_of_read hopening, fencedCode?_singleton, hother,
        if_neg (by simp), Option.none_or]

/-- Nothing but code is taken exactly if the first line opens a block of code, or the second
fence opens one and the code happens to hold the content of the prose, or else the code has
no import or nothing comes after it. -/
theorem staysInside_iff :
    r.StaysInside ↔
      r.OpensCode ∨ (r.OpensProse ∧ content r.prose <:+: r.code) ∨
        (¬ r.OpensProse ∧ (¬ r.HasImport ∨ isBlankText r.prose = true)) := by
  rw [staysInside_iff_taken?]
  by_cases hcode : r.OpensCode
  · refine iff_of_true (fun result hresult => ?_) (Or.inl hcode)
    rw [r.taken?_of_opensCode hcode] at hresult
    split at hresult
    · cases hresult
    · obtain rfl := Option.some.inj hresult
      exact content_isInfix r.code
  by_cases hprose : r.OpensProse
  · simp [r.taken?_of_opensProse hprose, hcode, hprose]
  rw [r.taken?_of_not_opens hcode hprose]
  by_cases himport : r.HasImport
  · rw [importedCode?_text himport]
    simp only [hcode, hprose, himport, Option.mem_some_iff, forall_eq', false_or, false_and,
      not_false_eq_true, true_and, not_true_eq_false]
    have hfirst := isBlankText_imports himport
    cases hblank : isBlankText r.prose with
    | true =>
        have hblanks : isBlankText ('\n' :: r.prose) = true := by
          rwa [isBlankText, List.all_cons, ← isBlankText]
        rw [content_append_fence hfirst hblanks]
        exact iff_of_true ((trim_isInfix _).trans r.imports_isSuffix.isInfix) rfl
    | false =>
        have hfence := fence_isInfix_content hfirst hblank
        exact iff_of_false (fun hinside => r.not_fence_isInfix_code (hfence.trans hinside))
          Bool.false_ne_true
  · simp [r.importedCode?_text_of_not himport, hprose, himport]

/-- A fence of code with a title. -/
def titled : FencedReply where
  info := "tsx title=App".toList
  code := "const a = 1;".toList
  prose := "Done.".toList
  newline_not_mem_info := by decide
  code_plain := by decide
  prose_plain := by decide
  prose_no_import := by
    have hlines : (lines "Done.".toList).all (!Import.startsLine ·) = true := by cbv
    simpa using hlines

/-- A fence of another language, with an import. -/
def scripted : FencedReply where
  info := "python".toList
  code := "import os".toList
  prose := "Done.".toList
  newline_not_mem_info := by decide
  code_plain := by decide
  prose_plain := by decide
  prose_no_import := titled.prose_no_import

/-- From the first of them the prose is taken, from the second the fence and the prose with
the code. -/
theorem not_staysInside_titled : ¬ titled.StaysInside ∧ ¬ scripted.StaysInside := by
  constructor
  · have hunread : fenceTag? titled.opening = none := by cbv
    have hcontent : content titled.prose = "Done.".toList := by cbv
    have hprose : titled.OpensProse := ⟨hunread, by rw [hcontent]; decide⟩
    rw [staysInside_iff_taken?, titled.taken?_of_opensProse hprose, hcontent]
    exact fun hinside => absurd (hinside _ rfl) (by decide)
  · have hother : codeTags.contains (plainLowercase (String.ofList "python".toList)) = false := by
      decide
    have htag : fenceTag? scripted.opening = some "python".toList := by cbv
    have himported : importedCode? scripted.text =
        some "import os\n\x60\x60\x60\nDone.".toList := by cbv
    have hcode : ¬ scripted.OpensCode := by
      rintro ⟨tag, hread, htaken⟩
      obtain rfl := Option.some.inj (htag.symm.trans hread)
      exact htaken.elim (by decide) fun hlanguage => by
        rw [Block.isCode, block, hother] at hlanguage
        cases hlanguage
    have hprose : ¬ scripted.OpensProse := by
      rintro ⟨hunread, -⟩
      rw [htag] at hunread
      cases hunread
    rw [staysInside_iff_taken?, scripted.taken?_of_not_opens hcode hprose, himported]
    exact fun hinside => absurd (hinside _ rfl) (by decide)

end FencedReply

end StoryMend.Reply
