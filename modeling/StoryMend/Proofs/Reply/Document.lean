import StoryMend.Proofs.Import.Statement
import StoryMend.Reply.Code

/-!
Replies as documents: prose and fenced blocks one after another, the last of which may stay
open.  Reading the text of a document finds exactly the blocks it was put together from
(`Document.blocks_text`), and the code of a reply is told from them.  Every text without
carriage returns is such a document (`exists_document_iff`).
-/

namespace StoryMend.Reply

open Text

/-- A fence line, by its parts. -/
structure Fence where
  indent : List Char
  gap : List Char
  tag : List Char
  tail : List Char
  indent_spaces : ∀ c ∈ indent, isSpace c = true
  gap_spaces : ∀ c ∈ gap, isSpace c = true
  tag_chars : ∀ c ∈ tag, isTagChar c = true
  tail_spaces : ∀ c ∈ tail, isSpace c = true

/-- A fence as it stands in a text. -/
def Fence.line (f : Fence) : List Char := f.indent ++ fenceMark ++ f.gap ++ f.tag ++ f.tail

/-- A line that is not a fence. -/
structure PlainLine where
  text : List Char
  newline_not_mem : '\n' ∉ text
  return_not_mem : '\r' ∉ text
  not_fence : ∀ f : Fence, f.line ≠ text

/-- A stretch of a document: prose, or a block between two fences. -/
inductive Segment where
  | prose (body : List PlainLine)
  | block (opening : Fence) (body : List PlainLine) (closing : Fence)

/-- Prose and blocks in any order, and at the end possibly a block that stays open. -/
structure Document where
  segments : List Segment
  last : Option (Fence × List PlainLine)

/-- The lines of a stretch of a document. -/
def Segment.lines : Segment → List (List Char)
  | .prose body => body.map PlainLine.text
  | .block opening body closing =>
      opening.line :: (body.map PlainLine.text ++ [closing.line])

/-- The block that a stretch of a document holds, if any. -/
def Segment.block? : Segment → Option Block
  | .prose _ => none
  | .block opening body _ =>
      some { tag := opening.tag, body := body.map PlainLine.text, closed := true }

namespace Document

/-- The lines of a block that stays open. -/
def openLines : Fence × List PlainLine → List (List Char)
  | (opening, body) => opening.line :: body.map PlainLine.text

/-- The lines of a document. -/
def lines (d : Document) : List (List Char) :=
  d.segments.flatMap Segment.lines ++ (d.last.map openLines).getD []

/-- The text of a document. -/
def text (d : Document) : List Char := unlines d.lines

/-- The closed blocks of a document, in order. -/
def closedBlocks (d : Document) : List Block := d.segments.filterMap Segment.block?

/-- The block of a document that stays open, if any. -/
def openBlock? (d : Document) : Option Block :=
  d.last.map fun (opening, body) =>
    { tag := opening.tag, body := body.map PlainLine.text, closed := false }

end Document

/-! ### Fence lines -/

/-- A stretch of elements that satisfy `p`, before others that do not, is what `p` takes. -/
theorem takeWhile_dropWhile_append {α : Type} {p : α → Bool} {a b : List α}
    (ha : ∀ c ∈ a, p c = true) (hb : ∀ c ∈ b, p c = false) :
    (a ++ b).takeWhile p = a ∧ (a ++ b).dropWhile p = b := by
  rw [List.takeWhile_append_of_pos ha, List.dropWhile_append_of_pos ha]
  cases b with
  | nil => simp
  | cons c b => simp [hb c]

theorem isTagChar_of_isSpace {c : Char} (hc : isSpace c = true) : isTagChar c = false := by
  simp only [isSpace, Bool.or_eq_true, beq_iff_eq] at hc
  rcases hc with rfl | rfl <;> rfl

/-- A character that no part of a fence holds. -/
theorem Fence.not_mem_line (f : Fence) {c : Char} (hspace : isSpace c = false)
    (htag : isTagChar c = false) (hmark : c ∉ fenceMark) : c ∉ f.line := by
  have hindent : c ∉ f.indent := fun hc => by simp [f.indent_spaces c hc] at hspace
  have hgap : c ∉ f.gap := fun hc => by simp [f.gap_spaces c hc] at hspace
  have hchars : c ∉ f.tag := fun hc => by simp [f.tag_chars c hc] at htag
  have htail : c ∉ f.tail := fun hc => by simp [f.tail_spaces c hc] at hspace
  simp [Fence.line, hindent, hmark, hgap, hchars, htail]

theorem Fence.newline_not_mem (f : Fence) : '\n' ∉ f.line :=
  f.not_mem_line (by decide) (by decide) (by decide)

theorem Fence.return_not_mem (f : Fence) : '\r' ∉ f.line :=
  f.not_mem_line (by decide) (by decide) (by decide)

/-- Reading a fence gives its tag, also if a carriage return ends the line. -/
theorem fenceTag?_line_append (f : Fence) {ending : List Char}
    (hending : ending = [] ∨ ending = ['\r']) : fenceTag? (f.line ++ ending) = some f.tag := by
  have hmark : after? fenceMark ((f.line ++ ending).dropWhile isSpace) =
      some (f.gap ++ f.tag ++ (f.tail ++ ending)) := by
    rw [Fence.line, List.append_assoc, List.append_assoc, List.append_assoc, List.append_assoc,
      List.dropWhile_append_of_pos f.indent_spaces, ← List.append_assoc f.gap]
    rfl
  have hstop : ∀ c ∈ ending, isSpace c = false ∧ isTagChar c = false := by
    rcases hending with rfl | rfl
    · simp
    · exact List.forall_mem_singleton.2 ⟨rfl, rfl⟩
  have htail := (takeWhile_dropWhile_append f.tail_spaces fun c hc => (hstop c hc).1).2
  have hinfo : (f.gap ++ f.tag ++ (f.tail ++ ending)).dropWhile isSpace =
      f.tag ++ if f.tag = [] then ending else f.tail ++ ending := by
    rw [List.append_assoc, List.dropWhile_append_of_pos f.gap_spaces]
    cases htag : f.tag with
    | nil => simpa using htail
    | cons c rest =>
        have hc : isTagChar c = true := f.tag_chars c (by simp [htag])
        have hspace : isSpace c = false := by
          by_contra hspace
          rw [Bool.not_eq_false] at hspace
          rw [isTagChar_of_isSpace hspace] at hc
          cases hc
        simp [hspace]
  have hother : ∀ c ∈ (if f.tag = [] then ending else f.tail ++ ending),
      isTagChar c = false := by
    split
    · exact fun c hc => (hstop c hc).2
    · intro c hc
      rcases List.mem_append.1 hc with hc | hc
      · exact isTagChar_of_isSpace (f.tail_spaces c hc)
      · exact (hstop c hc).2
  have hend : (if f.tag = [] then ending else f.tail ++ ending).dropWhile isSpace = ending := by
    split
    · exact (takeWhile_dropWhile_append (a := []) (by simp) fun c hc => (hstop c hc).1).2
    · exact htail
  obtain ⟨htag, hrest⟩ := takeWhile_dropWhile_append f.tag_chars hother
  simp only [fenceTag?, hmark, hinfo, htag, hrest, hend]
  rcases hending with rfl | rfl <;> rfl

theorem fenceTag?_line (f : Fence) : fenceTag? f.line = some f.tag := by
  rw [← List.append_nil f.line]
  exact fenceTag?_line_append f (Or.inl rfl)

/-- A line that reads as a fence is one, with the tag that is read. -/
theorem exists_fence_of_fenceTag? {line tag : List Char} (h : fenceTag? line = some tag) :
    ∃ f : Fence, (line = f.line ∨ line = f.line ++ ['\r']) ∧ f.tag = tag := by
  unfold fenceTag? at h
  cases hmark : after? fenceMark (line.dropWhile isSpace) with
  | none => simp [hmark] at h
  | some rest =>
      simp only [hmark] at h
      let info := rest.dropWhile isSpace
      let tail := info.dropWhile isTagChar
      let f : Fence := {
        indent := line.takeWhile isSpace
        gap := rest.takeWhile isSpace
        tag := info.takeWhile isTagChar
        tail := tail.takeWhile isSpace
        indent_spaces := fun _ hc => List.mem_takeWhile_imp hc
        gap_spaces := fun _ hc => List.mem_takeWhile_imp hc
        tag_chars := fun _ hc => List.mem_takeWhile_imp hc
        tail_spaces := fun _ hc => List.mem_takeWhile_imp hc }
      have hsplit : line = f.line ++ tail.dropWhile isSpace := by
        rw [Fence.line, List.append_assoc _ _ (tail.dropWhile isSpace),
          List.takeWhile_append_dropWhile, List.append_assoc _ _ tail,
          List.takeWhile_append_dropWhile, List.append_assoc _ _ info,
          List.takeWhile_append_dropWhile, List.append_assoc, ← after?_eq_some_iff.1 hmark,
          List.takeWhile_append_dropWhile]
      refine ⟨f, ?_⟩
      split at h
      next hnone => exact ⟨Or.inl (by rw [hsplit, hnone, List.append_nil]), Option.some.inj h⟩
      next hreturn => exact ⟨Or.inr (by rw [hsplit, hreturn]), Option.some.inj h⟩
      next => cases h

@[simp]
theorem fenceTag?_plain (l : PlainLine) : fenceTag? l.text = none := by
  cases h : fenceTag? l.text with
  | none => rfl
  | some tag =>
      obtain ⟨f, hf | hf, -⟩ := exists_fence_of_fenceTag? h
      · exact absurd hf.symm (l.not_fence f)
      · refine absurd ?_ l.return_not_mem
        rw [hf]
        exact List.mem_append_right _ (List.mem_singleton_self _)

/-! ### The blocks of a document -/

/-- Outside of blocks, lines without fences are passed over. -/
theorem blocksOutside_append {front : List (List Char)}
    (hfront : ∀ line ∈ front, fenceTag? line = none) (rest : List (List Char)) :
    blocksOutside (front ++ rest) = blocksOutside rest := by
  induction front with
  | nil => rfl
  | cons line front ih =>
      rw [List.forall_mem_cons] at hfront
      rw [List.cons_append, blocksOutside, hfront.1, ih hfront.2]

/-- Inside of a block, lines without fences are its lines. -/
theorem blocksInside_append {front : List (List Char)}
    (hfront : ∀ line ∈ front, fenceTag? line = none) (tag : List Char)
    (before rest : List (List Char)) :
    blocksInside tag before (front ++ rest) = blocksInside tag (front.reverse ++ before) rest := by
  induction front generalizing before with
  | nil => rfl
  | cons line front ih =>
      rw [List.forall_mem_cons] at hfront
      rw [List.cons_append, blocksInside, hfront.1, ih hfront.2, List.reverse_cons,
        List.append_assoc, List.singleton_append]

theorem fenceTag?_of_mem_plain {body : List PlainLine} {line : List Char}
    (hline : line ∈ body.map PlainLine.text) : fenceTag? line = none := by
  obtain ⟨l, -, rfl⟩ := List.mem_map.1 hline
  exact fenceTag?_plain l

theorem blocksOutside_plain (body : List PlainLine) (rest : List (List Char)) :
    blocksOutside (body.map PlainLine.text ++ rest) = blocksOutside rest :=
  blocksOutside_append (fun _ => fenceTag?_of_mem_plain) rest

theorem blocksInside_plain (tag : List Char) (before : List (List Char))
    (body : List PlainLine) (rest : List (List Char)) :
    blocksInside tag before (body.map PlainLine.text ++ rest) =
      blocksInside tag ((body.map PlainLine.text).reverse ++ before) rest :=
  blocksInside_append (fun _ => fenceTag?_of_mem_plain) tag before rest

/-- Reading goes over a stretch of a document, finds its block, and is outside of blocks
again. -/
theorem blocksOutside_segment (s : Segment) (rest : List (List Char)) :
    blocksOutside (s.lines ++ rest) = s.block?.toList ++ blocksOutside rest := by
  cases s with
  | prose body => exact blocksOutside_plain body rest
  | block opening body closing =>
      simp [Segment.lines, Segment.block?, blocksOutside, fenceTag?_line, blocksInside_plain,
        blocksInside]

theorem blocksOutside_segments (segments : List Segment) (rest : List (List Char)) :
    blocksOutside (segments.flatMap Segment.lines ++ rest) =
      segments.filterMap Segment.block? ++ blocksOutside rest := by
  induction segments with
  | nil => rfl
  | cons s segments ih =>
      rw [List.flatMap_cons, List.append_assoc, blocksOutside_segment, ih, List.filterMap_cons]
      cases s.block? <;> rfl

theorem blocksOutside_openLines (last : Fence × List PlainLine) :
    blocksOutside (Document.openLines last) =
      [{ tag := last.1.tag, body := last.2.map PlainLine.text, closed := false }] := by
  obtain ⟨opening, body⟩ := last
  have hbody := blocksInside_plain opening.tag [] body []
  simp only [List.append_nil] at hbody
  simp [Document.openLines, blocksOutside, fenceTag?_line, hbody, blocksInside]

namespace Document

variable (d : Document)

/-- What holds of fences and of all other lines holds of the lines of a document. -/
theorem forall_mem_lines {p : List Char → Prop} (hfence : ∀ f : Fence, p f.line)
    (hplain : ∀ l : PlainLine, p l.text) : ∀ line ∈ d.lines, p line := by
  have hbody : ∀ body : List PlainLine, ∀ line ∈ body.map PlainLine.text, p line := by
    intro body line hline
    obtain ⟨l, -, rfl⟩ := List.mem_map.1 hline
    exact hplain l
  intro line hline
  rw [lines, List.mem_append, List.mem_flatMap] at hline
  rcases hline with ⟨s, -, hline⟩ | hline
  · cases s with
    | prose body => exact hbody body line hline
    | block opening body closing =>
        simp only [Segment.lines, List.mem_cons, List.mem_append, List.not_mem_nil,
          or_false] at hline
        rcases hline with rfl | hline | rfl
        · exact hfence opening
        · exact hbody body line hline
        · exact hfence closing
  · cases hlast : d.last with
    | none => simp [hlast] at hline
    | some last =>
        obtain ⟨opening, body⟩ := last
        simp only [hlast, Option.map_some, Option.getD_some, openLines, List.mem_cons] at hline
        rcases hline with rfl | hline
        · exact hfence opening
        · exact hbody body line hline

/-- A document with lines gives them back; without any, its text is one empty line. -/
theorem lines_text (hne : d.lines ≠ []) : Text.lines d.text = d.lines :=
  lines_unlines hne (d.forall_mem_lines Fence.newline_not_mem PlainLine.newline_not_mem)

/-- Reading the text of a document finds its blocks. -/
theorem blocks_text : blocks d.text = d.closedBlocks ++ d.openBlock?.toList := by
  have hread : blocksOutside d.lines = d.closedBlocks ++ d.openBlock?.toList := by
    rw [lines, blocksOutside_segments]
    cases hlast : d.last with
    | none => simp [closedBlocks, openBlock?, hlast, blocksOutside]
    | some last => simp [closedBlocks, openBlock?, hlast, blocksOutside_openLines]
  rw [blocks, ← hread]
  by_cases hnone : d.lines = []
  · rw [text, hnone]
    rfl
  · rw [d.lines_text hnone]

end Document

/-! ### The code of a document -/

/-- The content of the first block that satisfies `p` and has any. -/
def firstWith? (p : Block → Bool) (bs : List Block) : Option (List Char) :=
  (bs.find? fun b => p b && b.content ≠ []).map Block.content

theorem firstContent?_append (p : Block → Bool) (front rest : List Block) :
    firstContent? p (front ++ rest) = (firstWith? p front).or (firstWith? p rest) := by
  rw [firstContent?, List.find?_map, List.find?_filter, List.find?_append, Option.map_or]
  simp [firstWith?]

theorem firstWith?_of_none {p : Block → Bool} {bs : List Block} (h : ∀ b ∈ bs, p b = false) :
    firstWith? p bs = none := by
  rw [firstWith?, Option.map_eq_none_iff, List.find?_eq_none]
  intro b hb
  simp [h b hb]

theorem firstWith?_congr {p q : Block → Bool} {bs : List Block} (h : ∀ b ∈ bs, p b = q b) :
    firstWith? p bs = firstWith? q bs := by
  induction bs with
  | nil => rfl
  | cons b bs ih =>
      rw [List.forall_mem_cons] at h
      have hrest := ih h.2
      simp only [firstWith?, List.find?_cons, h.1] at hrest ⊢
      split
      · rfl
      · exact hrest

/-- A condition that picks none of the last blocks. -/
theorem firstContent?_left {p q : Block → Bool} {front rest : List Block}
    (hfront : ∀ b ∈ front, p b = q b) (hrest : ∀ b ∈ rest, p b = false) :
    firstContent? p (front ++ rest) = firstWith? q front := by
  rw [firstContent?_append, firstWith?_of_none hrest, Option.or_none, firstWith?_congr hfront]

/-- A condition that picks none of the first blocks. -/
theorem firstContent?_right {p q : Block → Bool} {front rest : List Block}
    (hfront : ∀ b ∈ front, p b = false) (hrest : ∀ b ∈ rest, p b = q b) :
    firstContent? p (front ++ rest) = firstWith? q rest := by
  rw [firstContent?_append, firstWith?_of_none hfront, Option.none_or, firstWith?_congr hrest]

/-- What follows a start of a text read backwards is what stands before an end of it. -/
theorem after?_reverse_getD (mark s : List Char) :
    ((after? mark.reverse s.reverse).map List.reverse).getD s = (s.dropSuffix? mark).getD s := by
  cases hafter : after? mark.reverse s.reverse with
  | some rest =>
      have hs : s = rest.reverse ++ mark := by
        rw [← List.reverse_reverse s, after?_eq_some_iff.1 hafter]
        simp
      have hdrop : s.dropSuffix? mark = some rest.reverse :=
        List.dropSuffix?_eq_some_iff.2 ⟨mark, hs, beq_self_eq_true mark⟩
      rw [hdrop]
      rfl
  | none =>
      cases hdrop : s.dropSuffix? mark with
      | none => rfl
      | some front =>
          obtain ⟨mark', hs, hmark⟩ := List.dropSuffix?_eq_some_iff.1 hdrop
          have hreverse : s.reverse = mark.reverse ++ front.reverse := by
            rw [hs, eq_of_beq hmark, List.reverse_append]
          rw [after?_eq_some_iff.2 hreverse] at hafter
          cases hafter

/-- The content of a stretch of text: it is trimmed, one mark of a fence is taken from its
end, and it is trimmed again. -/
theorem content_eq (region : List Char) :
    content region = trim (((trim region).dropSuffix? fenceMark).getD (trim region)) := by
  rw [← after?_reverse_getD]
  have hmark : fenceMark.reverse = fenceMark := rfl
  rw [content, hmark]
  cases after? fenceMark (trim region).reverse with
  | none => exact (trim_trim region).symm
  | some rest => rfl

/-- The content of a reply from the first line on that starts an import, if there is any. -/
theorem importedCode?_eq (s : List Char) :
    importedCode? s = Option.guard (· ≠ [])
      (content (unlines ((Text.lines s).dropWhile (!Import.startsLine ·)))) := by
  rw [importedCode?, Import.splitAtFirst?_eq]
  cases (Text.lines s).dropWhile (!Import.startsLine ·) with
  | nil => rfl
  | cons line rest =>
      simp only [Option.guard, ne_eq, reduceCtorEq, not_false_eq_true, decide_true, if_true,
        Option.map_some]
      cases content (unlines (line :: rest)) <;> rfl

namespace Document

variable (d : Document)

/-- The content of the text from the first line on that starts an import, if there is
any. -/
def importedCode? : Option (List Char) :=
  Option.guard (· ≠ []) (content (unlines (d.lines.dropWhile (!Import.startsLine ·))))

/-- The code of the blocks of a document. -/
theorem fencedCode?_blocks :
    fencedCode? (d.closedBlocks ++ d.openBlock?.toList) =
      ((firstWith? Block.isCode d.closedBlocks).or <|
        (firstWith? (·.tag.isEmpty) d.closedBlocks).or <|
          firstWith? (fun b => b.tag.isEmpty || b.isCode) d.openBlock?.toList) := by
  have hclosed : ∀ b ∈ d.closedBlocks, b.closed = true := by
    intro b hb
    obtain ⟨s, -, hs⟩ := List.mem_filterMap.1 hb
    cases s with
    | prose body => cases hs
    | block opening body closing =>
        obtain rfl := Option.some.inj hs
        rfl
  have hopen : ∀ b ∈ d.openBlock?.toList, b.closed = false := by
    intro b hb
    rw [Option.mem_toList, openBlock?] at hb
    obtain ⟨last, -, rfl⟩ := Option.map_eq_some_iff.1 hb
    rfl
  have htagged : firstContent? (fun b => b.closed && b.isCode)
      (d.closedBlocks ++ d.openBlock?.toList) = firstWith? Block.isCode d.closedBlocks :=
    firstContent?_left (fun b hb => by simp [hclosed b hb]) (fun b hb => by simp [hopen b hb])
  have hbare : firstContent? (fun b => b.closed && b.tag.isEmpty)
      (d.closedBlocks ++ d.openBlock?.toList) =
        firstWith? (·.tag.isEmpty) d.closedBlocks :=
    firstContent?_left (fun b hb => by simp [hclosed b hb]) (fun b hb => by simp [hopen b hb])
  have hlast : firstContent? (fun b => !b.closed && (b.tag.isEmpty || b.isCode))
      (d.closedBlocks ++ d.openBlock?.toList) =
        firstWith? (fun b => b.tag.isEmpty || b.isCode) d.openBlock?.toList :=
    firstContent?_right (fun b hb => by simp [hclosed b hb]) (fun b hb => by simp [hopen b hb])
  rw [fencedCode?, htagged, hbare, hlast]

end Document

/-! ### All texts without carriage returns -/

/-- A line without line breaks is a fence or not. -/
theorem exists_fence_or_plain {line : List Char} (hnewline : '\n' ∉ line)
    (hreturn : '\r' ∉ line) :
    (∃ f : Fence, f.line = line) ∨ ∃ l : PlainLine, l.text = line := by
  by_cases hfence : ∃ f : Fence, f.line = line
  · exact Or.inl hfence
  · exact Or.inr ⟨⟨line, hnewline, hreturn, fun f hf => hfence ⟨f, hf⟩⟩, rfl⟩

/-- A document with a stretch put before it. -/
def Document.addFirst (s : Segment) (d : Document) : Document :=
  { d with segments := s :: d.segments }

@[simp]
theorem Document.lines_addFirst (s : Segment) (d : Document) :
    (d.addFirst s).lines = s.lines ++ d.lines := by
  simp [addFirst, lines]

/-- Lines without line breaks are those of a document.  After a fence they are the lines of
a block that stays open, or those of a closed block and a document. -/
theorem exists_document_of_lines {ls : List (List Char)}
    (hls : ∀ line ∈ ls, '\n' ∉ line ∧ '\r' ∉ line) :
    (∃ d : Document, d.lines = ls) ∧
      ∃ body : List PlainLine, body.map PlainLine.text = ls ∨
        ∃ (closing : Fence) (d : Document),
          body.map PlainLine.text ++ closing.line :: d.lines = ls := by
  induction ls with
  | nil => exact ⟨⟨⟨[], none⟩, rfl⟩, [], Or.inl rfl⟩
  | cons line rest ih =>
      rw [List.forall_mem_cons] at hls
      obtain ⟨⟨d, hd⟩, body, hbody⟩ := ih hls.2
      rcases exists_fence_or_plain hls.1.1 hls.1.2 with ⟨f, rfl⟩ | ⟨l, rfl⟩
      · refine ⟨?_, [], Or.inr ⟨f, d, by rw [hd]; rfl⟩⟩
        rcases hbody with rfl | ⟨closing, after, rfl⟩
        · exact ⟨⟨[], some (f, body)⟩, rfl⟩
        · exact ⟨after.addFirst (.block f body closing), by simp [Segment.lines]⟩
      · refine ⟨⟨d.addFirst (.prose [l]), by simp [Segment.lines, hd]⟩, l :: body, ?_⟩
        rcases hbody with rfl | ⟨closing, after, rfl⟩
        · exact Or.inl rfl
        · exact Or.inr ⟨closing, after, rfl⟩

/-- The texts of documents are those without carriage returns. -/
theorem exists_document_iff {s : List Char} :
    (∃ d : Document, d.text = s) ↔ '\r' ∉ s := by
  constructor
  · rintro ⟨d, rfl⟩ hmem
    have hlines : ∀ line ∈ d.lines, '\r' ∉ line :=
      d.forall_mem_lines Fence.return_not_mem PlainLine.return_not_mem
    rcases mem_join hmem with hbreak | ⟨line, hline, hc⟩
    · exact absurd hbreak (by decide)
    · exact hlines line hline hc
  · intro hs
    have hls : ∀ line ∈ Text.lines s, '\n' ∉ line ∧ '\r' ∉ line := fun line hline =>
      ⟨newline_not_mem_of_mem_lines hline,
        fun hc => hs ((infix_of_mem_lines hline).subset hc)⟩
    obtain ⟨⟨d, hd⟩, -⟩ := exists_document_of_lines hls
    exact ⟨d, by rw [Document.text, hd, unlines_lines]⟩

end StoryMend.Reply
