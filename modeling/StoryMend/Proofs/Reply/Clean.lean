import StoryMend.Proofs.Reply.Fenced

/-!
The code that is taken from a reply.  It is a stretch of the reply that holds something and has
no blanks at its ends.  Either it lies in the body of one block, which `IsBlock` tells by the
lines of the reply alone, or it starts at the keyword of the first line that starts an import
(`code?_clean`).
-/

namespace StoryMend.Reply

open Text
open Import (FirstKeyword keyword)

/-! ### Blocks by their lines -/

/-- Whether a line is a fence, which a carriage return may end. -/
def IsFence (line : List Char) : Prop := ∃ f : Fence, line = f.line ∨ line = f.line ++ ['\r']

theorem isSome_fenceTag?_iff {line : List Char} : (fenceTag? line).isSome = true ↔ IsFence line := by
  constructor
  · intro h
    obtain ⟨tag, htag⟩ := Option.isSome_iff_exists.1 h
    obtain ⟨f, hline, -⟩ := exists_fence_of_fenceTag? htag
    exact ⟨f, hline⟩
  · rintro ⟨f, rfl | rfl⟩
    · rw [fenceTag?_line]
      rfl
    · rw [fenceTag?_line_append f (Or.inr rfl)]
      rfl

instance : DecidablePred IsFence := fun _ => decidable_of_iff _ isSome_fenceTag?_iff

theorem isFence_of_fenceTag? {line tag : List Char} (h : fenceTag? line = some tag) :
    IsFence line := isSome_fenceTag?_iff.1 (Option.isSome_of_eq_some h)

theorem fenceTag?_eq_none_iff {line : List Char} : fenceTag? line = none ↔ ¬ IsFence line := by
  rw [← isSome_fenceTag?_iff, Option.not_isSome_iff_eq_none]

/-- A fenced block among the lines of a text: a fence that opens it, as all fences before it
have been paired, and the lines up to the next fence or to the end. -/
structure IsBlock (ls before : List (List Char)) (opening : List Char)
    (body rest : List (List Char)) : Prop where
  lines_eq : ls = before ++ opening :: (body ++ rest)
  opens : IsFence opening
  paired : Even (before.countP (IsFence ·))
  body_free : ∀ line ∈ body, ¬ IsFence line
  ends : ∀ line ∈ rest.head?, IsFence line

/-- After a block the fences are paired again: those of the block are two more. -/
theorem even_countP_block {before body : List (List Char)} {opening closing : List Char}
    (heven : Even (before.countP (IsFence ·))) (hopening : IsFence opening)
    (hbody : ∀ line ∈ body, ¬ IsFence line) (hclosing : IsFence closing) :
    Even ((before ++ opening :: (body ++ [closing])).countP (IsFence ·)) := by
  have hnone : body.countP (IsFence ·) = 0 := by
    rw [List.countP_eq_zero]
    simpa using hbody
  simpa [List.countP_append, List.countP_cons, hopening, hclosing, hnone, add_assoc]
    using heven.add even_two

/-- The lines of a text that is read up to some place outside of blocks, or up to one in a block
of which `body` has been read: the blocks found from there on are blocks of the text. -/
theorem exists_isBlock_from {ls todo : List (List Char)} {b : Block} :
    (∀ before, ls = before ++ todo → Even (before.countP (IsFence ·)) → b ∈ blocksOutside todo →
      ∃ before opening rest, IsBlock ls before opening b.body rest) ∧
    ∀ before opening tag body, ls = before ++ opening :: (body.reverse ++ todo) →
      Even (before.countP (IsFence ·)) → IsFence opening → (∀ line ∈ body, ¬ IsFence line) →
      b ∈ blocksInside tag body todo →
        ∃ before opening rest, IsBlock ls before opening b.body rest := by
  induction todo with
  | nil =>
      constructor
      · intro before hls heven hb
        cases hb
      · intro before opening tag body hls heven hopening hbody hb
        obtain rfl := List.mem_singleton.1 hb
        exact ⟨before, opening, [], hls, hopening, heven, by simpa using hbody, by simp⟩
  | cons line todo ih =>
      obtain ⟨houtside, hinside⟩ := ih
      constructor
      · intro before hls heven hb
        rw [blocksOutside] at hb
        split at hb
        next hnone =>
          have hplain := fenceTag?_eq_none_iff.1 hnone
          refine houtside (before ++ [line]) (by simp [hls]) ?_ hb
          simpa [List.countP_append, hplain] using heven
        next tag htag =>
          exact hinside before line tag [] (by simp [hls]) heven (isFence_of_fenceTag? htag)
            (by simp) hb
      · intro before opening tag body hls heven hopening hbody hb
        rw [blocksInside] at hb
        split at hb
        next hnone =>
          have hplain := fenceTag?_eq_none_iff.1 hnone
          exact hinside before opening tag (line :: body) (by simp [hls]) heven hopening
            (List.forall_mem_cons.2 ⟨hplain, hbody⟩) hb
        next closing htag =>
          have hfence := isFence_of_fenceTag? htag
          rcases List.mem_cons.1 hb with rfl | hb
          · exact ⟨before, opening, line :: todo, hls, hopening, heven, by simpa using hbody,
              by simpa using hfence⟩
          · refine houtside (before ++ opening :: (body.reverse ++ [line])) (by simp [hls]) ?_ hb
            exact even_countP_block heven hopening (by simpa using hbody) hfence

/-- What is found as a block is one. -/
theorem exists_isBlock {s : List Char} {b : Block} (hb : b ∈ blocks s) :
    ∃ before opening rest, IsBlock (lines s) before opening b.body rest :=
  exists_isBlock_from.1 [] rfl (by simp) hb

/-! ### Contents -/

/-- A content has no blanks at its ends. -/
theorem trim_content (region : List Char) : trim (content region) = content region := by
  rw [content_eq, trim_trim]

/-- The content of a text that starts with the keyword after blanks starts there. -/
theorem content_keyword {spaces : List Char} (hspaces : ∀ c ∈ spaces, isBlank c = true)
    (tail : List Char) :
    keyword <+: content (spaces ++ (keyword ++ tail)) ∧
      content (spaces ++ (keyword ++ tail)) <+: keyword ++ tail := by
  have hstart : trimStart (keyword ++ tail) = keyword ++ tail := rfl
  have htrim : trim (spaces ++ (keyword ++ tail)) = trimEnd (keyword ++ tail) := by
    rw [trim, trimStart, List.dropWhile_append_of_pos hspaces, ← trimStart, hstart]
  have hkeyword : keyword <+: trimEnd (keyword ++ tail) := isPrefix_trimEnd_append rfl tail
  rw [content_eq, htrim]
  cases hdrop : (trimEnd (keyword ++ tail)).dropSuffix? fenceMark with
  | none =>
      rw [Option.getD_none, ← htrim, trim_trim, htrim]
      exact ⟨hkeyword, trimEnd_isPrefix _⟩
  | some left =>
      have hleft := dropSuffix?_eq_some_iff.1 hdrop
      rw [hleft] at hkeyword
      -- The keyword does not end with a backtick, so the mark takes nothing from it.
      have hword : keyword = "impor".toList ++ ['t'] := rfl
      rw [hword] at hkeyword
      obtain ⟨more, rfl⟩ := Import.isPrefix_of_not_mem (by decide) hkeyword
      rw [← hword] at hleft ⊢
      have hprefix : keyword ++ more <+: keyword ++ tail :=
        List.IsPrefix.trans ⟨fenceMark, hleft.symm⟩ (trimEnd_isPrefix _)
      have hmore : trimStart (keyword ++ more) = keyword ++ more := rfl
      rw [Option.getD_some, trim, hmore]
      exact ⟨isPrefix_trimEnd_append rfl more, (trimEnd_isPrefix _).trans hprefix⟩

/-- What is taken from the blocks of a reply is the content of one of them and not empty. -/
theorem exists_block_of_fencedCode? {bs : List Block} {code : List Char}
    (h : fencedCode? bs = some code) : ∃ b ∈ bs, b.content = code ∧ code ≠ [] := by
  have hfirst {p : Block → Bool} (h : firstContent? p bs = some code) :
      ∃ b ∈ bs, b.content = code ∧ code ≠ [] := by
    obtain ⟨b, hb, hcontent⟩ := List.mem_map.1 (List.mem_of_find?_eq_some h)
    refine ⟨b, (List.mem_filter.1 hb).1, hcontent, ?_⟩
    simpa using List.find?_some h
  rw [fencedCode?, Option.or_eq_some_iff, Option.or_eq_some_iff] at h
  rcases h with h | ⟨-, h | ⟨-, h⟩⟩
  · exact hfirst h
  · exact hfirst h
  · exact hfirst h

/-- What is taken from the first import on is not empty, and it starts at the keyword of the
first line that starts an import. -/
theorem exists_firstKeyword_of_importedCode? {s code : List Char}
    (h : importedCode? s = some code) :
    ∃ front spaces tail more, FirstKeyword s front (spaces ++ (keyword ++ tail)) more ∧
      (∀ c ∈ spaces, isSpace c = true) ∧ startsWord tail = false ∧
      code = content (spaces ++ (keyword ++ unlines (tail :: more))) := by
  rcases Import.forall_or_exists_firstKeyword s with hnone | ⟨front, line, more, hfirst⟩
  · rw [importedCode?, Import.splitAtFirst?_eq_none hnone] at h
    cases h
  · obtain ⟨spaces, tail, rfl, hspaces, hword⟩ := Import.exists_of_startsLine hfirst.starts
    refine ⟨front, spaces, tail, more, hfirst, hspaces, hword, ?_⟩
    rw [importedCode?, hfirst.splitAtFirst?_eq_some] at h
    rw [← unlines_append_cons, ← unlines_append_cons]
    dsimp only at h
    split at h
    · cases h
    · exact (Option.some.inj h).symm

/-! ### What is taken -/

/-- Whether code lies in the body of one block of a text, where there is no fence. -/
def LiesInBlock (s code : List Char) : Prop :=
  ∃ before opening body rest, IsBlock (lines s) before opening body rest ∧ code <:+: unlines body

/-- Whether code starts at the keyword of the first line of a text that starts an import, with
nothing but spaces before it, and goes on from there. -/
def StartsAtImport (s code : List Char) : Prop :=
  ∃ front spaces tail more, FirstKeyword s front (spaces ++ (keyword ++ tail)) more ∧
    (∀ c ∈ spaces, isSpace c = true) ∧ startsWord tail = false ∧
    keyword <+: code ∧ code <+: unlines ((keyword ++ tail) :: more)

/-- What is taken from the blocks of a text lies in one of them. -/
theorem liesInBlock_of_fencedCode? {s code : List Char} (h : fencedCode? (blocks s) = some code) :
    code ≠ [] ∧ trim code = code ∧ code <:+: s ∧ LiesInBlock s code := by
  obtain ⟨b, hb, rfl, hne⟩ := exists_block_of_fencedCode? h
  obtain ⟨before, opening, rest, hblock⟩ := exists_isBlock hb
  have hbody : b.content <:+: unlines b.body := content_isInfix _
  have hlines : lines s = (before ++ [opening]) ++ (b.body ++ rest) := by
    simp [hblock.lines_eq]
  exact ⟨hne, trim_content _, hbody.trans (unlines_isInfix hlines),
    before, opening, b.body, rest, hblock, hbody⟩

/-- What is taken from the first import of a text starts at its keyword. -/
theorem startsAtImport_of_importedCode? {s code : List Char} (h : importedCode? s = some code) :
    code ≠ [] ∧ trim code = code ∧ code <:+: s ∧ StartsAtImport s code := by
  obtain ⟨front, spaces, tail, more, hfirst, hspaces, hword, rfl⟩ :=
    exists_firstKeyword_of_importedCode? h
  obtain ⟨hkeyword, hprefix⟩ :=
    content_keyword (fun c hc => isBlank_of_isSpace (hspaces c hc)) (unlines (tail :: more))
  have hne : content (spaces ++ (keyword ++ unlines (tail :: more))) ≠ [] := by
    intro hnil
    rw [hnil] at hkeyword
    exact absurd (List.prefix_nil.1 hkeyword) (by decide)
  have hlines : lines s = front ++ (((spaces ++ (keyword ++ tail)) :: more) ++ []) := by
    simp [hfirst.lines_eq]
  have hregion : content (spaces ++ (keyword ++ unlines (tail :: more))) <:+:
      unlines ((spaces ++ (keyword ++ tail)) :: more) := by
    rw [unlines_append_cons, unlines_append_cons]
    exact content_isInfix _
  refine ⟨hne, trim_content _, hregion.trans (unlines_isInfix hlines),
    front, spaces, tail, more, hfirst, hspaces, hword, hkeyword, ?_⟩
  rw [unlines_append_cons]
  exact hprefix

/-- The code that is taken from a reply is not empty, has no blanks at its ends and is a stretch
of the reply.  It lies in the body of one block, or nothing is taken from the blocks and it starts
at the first import. -/
theorem code?_clean {reply code : String} (h : code? reply = some code) :
    code ≠ "" ∧
    (∀ c ∈ code.toList.head?, isBlank c = false) ∧
    (∀ c ∈ code.toList.getLast?, isBlank c = false) ∧
    code.toList <:+: reply.toList ∧
    (LiesInBlock reply.toList code.toList ∨
      fencedCode? (blocks reply.toList) = none ∧ StartsAtImport reply.toList code.toList) := by
  obtain ⟨taken, htaken, rfl⟩ := Option.map_eq_some_iff.1 h
  rw [String.toList_ofList]
  have hstring (hne : taken ≠ []) : String.ofList taken ≠ "" := by simpa using hne
  cases hfenced : fencedCode? (blocks reply.toList) with
  | some code =>
      rw [hfenced, Option.some_or] at htaken
      obtain rfl := Option.some.inj htaken
      obtain ⟨hne, htrim, hinfix, hlies⟩ := liesInBlock_of_fencedCode? hfenced
      obtain ⟨hhead, hlast⟩ := trim_eq_self_iff.1 htrim
      exact ⟨hstring hne, hhead, hlast, hinfix, Or.inl hlies⟩
  | none =>
      rw [hfenced, Option.none_or] at htaken
      obtain ⟨hne, htrim, hinfix, hstarts⟩ := startsAtImport_of_importedCode? htaken
      obtain ⟨hhead, hlast⟩ := trim_eq_self_iff.1 htrim
      exact ⟨hstring hne, hhead, hlast, hinfix, Or.inr ⟨rfl, hstarts⟩⟩

/-- A reply of a block of commands and a block of code. -/
def twoBlocks : String :=
  "\x60\x60\x60bash\nnpm i\n\x60\x60\x60\n\n\x60\x60\x60tsx\n <Card/>\n\x60\x60\x60"

/-- The fence that ends the first block opens none. -/
theorem code?_twoBlocks :
    code? twoBlocks = some "<Card/>" ∧
      LiesInBlock twoBlocks.toList "<Card/>".toList := by
  have hfenced : fencedCode? (blocks twoBlocks.toList) = some "<Card/>".toList := by
    decide +kernel
  have hcode : code? twoBlocks = some "<Card/>" := by
    rw [code?, hfenced]
    rfl
  refine ⟨hcode, (code?_clean hcode).2.2.2.2.resolve_right ?_⟩
  rintro ⟨hnone, -⟩
  rw [hfenced] at hnone
  cases hnone

end StoryMend.Reply
