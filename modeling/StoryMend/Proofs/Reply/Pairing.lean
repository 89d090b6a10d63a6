import StoryMend.Proofs.Repair.Passes
import StoryMend.Proofs.Reply.Clean

/-!
How the fences of a reply are paired.  The fence lines are taken two by two in the order of the
text: the first of a pair opens a block, the second one closes it, and the block holds the text
between the two.  If the number of fence lines is odd, the last one is left over; its block stays
open and goes on to the end of the text.  The main statement is `blocks_pair_fenceLines`.
-/

namespace StoryMend.Reply

open Text
open Repair (placeLines)

/-- The fence lines of a text, each with the place where it starts. -/
def fenceLines (s : List Char) : List (Nat × List Char) :=
  (placeLines 0 (lines s)).filter (IsFence ·.2)

/-- Where the body of the block with the given number starts: at the end of the fence line that
opens it. -/
def bodyStart (s : List Char) (k : Nat) : Nat :=
  ((fenceLines s)[2 * k]?.map fun f => f.1 + f.2.length).getD s.length

/-- Where the body of the block with the given number stops: at the start of the fence line that
closes it, or at the end of the text. -/
def bodyStop (s : List Char) (k : Nat) : Nat :=
  ((fenceLines s)[2 * k + 1]?.map Prod.fst).getD s.length

/-- The body of a block as it stands in the text, with the line breaks around its lines. -/
def Block.text (b : Block) : List Char :=
  b.body.flatMap ('\n' :: ·) ++ if b.closed then ['\n'] else []

/-- A block lies between a fence line and the next one, or the end of the text. -/
structure LiesBetween (s : List Char) (opening : Nat × List Char)
    (closing? : Option (Nat × List Char)) (b : Block) : Prop where
  tag : fenceTag? opening.2 = some b.tag
  closed : b.closed = closing?.isSome
  text : b.text =
    (s.take ((closing?.map Prod.fst).getD s.length)).drop (opening.1 + opening.2.length)
  body_lines : ∀ line ∈ b.body, '\n' ∉ line ∧ ¬ IsFence line

/-- Blocks lie between fence lines that are taken two by two. -/
inductive PairsUp (s : List Char) : List (Nat × List Char) → List Block → Prop
  | nil : PairsUp s [] []
  | leftOver {opening : Nat × List Char} {b : Block} (hb : LiesBetween s opening none b) :
      PairsUp s [opening] [b]
  | pair {opening closing : Nat × List Char} {fences : List (Nat × List Char)} {b : Block}
      {bs : List Block} (hb : LiesBetween s opening (some closing) b)
      (hrest : PairsUp s fences bs) : PairsUp s (opening :: closing :: fences) (b :: bs)

/-- Where the line after the given ones starts. -/
def lineStart (front : List (List Char)) : Nat := (front.flatMap (· ++ ['\n'])).length

/-! ### Lines and their text -/

section Lines

variable {s line : List Char} {front body rest : List (List Char)}

theorem lineStart_concat (front : List (List Char)) (line : List Char) :
    lineStart (front ++ [line]) = lineStart front + line.length + 1 := by
  simp [lineStart, Nat.add_assoc]

/-- Lines with a line break before each but the first. -/
theorem unlines_eq_flatMap (line : List Char) (rest : List (List Char)) :
    unlines (line :: rest) = line ++ rest.flatMap ('\n' :: ·) := by
  induction rest generalizing line with
  | nil => simp [unlines, join]
  | cons next rest ih =>
      rw [unlines_cons line (List.cons_ne_nil next rest), ih next]
      rfl

/-- The line breaks may stand before the lines or after them. -/
theorem flatMap_newline (line : List Char) (rest : List (List Char)) :
    (line :: rest).flatMap (· ++ ['\n']) = line ++ (rest.flatMap ('\n' :: ·) ++ ['\n']) := by
  induction rest generalizing line with
  | nil => simp
  | cons next rest ih =>
      rw [List.flatMap_cons, ih next]
      simp

/-- What follows a line, up to the end of the text. -/
theorem drop_line (hlines : lines s = front ++ line :: body) :
    s.drop (lineStart front + line.length) = body.flatMap ('\n' :: ·) := by
  have hs : s = front.flatMap (· ++ ['\n']) ++ (line ++ body.flatMap ('\n' :: ·)) := by
    rw [← unlines_lines s, hlines, unlines_append front (List.cons_ne_nil _ _),
      unlines_eq_flatMap]
  rw [hs, ← List.append_assoc, lineStart, ← List.length_append, List.drop_left]

/-- What lies between a line and a later one. -/
theorem drop_line_take {next : List Char}
    (hlines : lines s = front ++ line :: (body ++ next :: rest)) :
    (s.take (lineStart (front ++ line :: body))).drop (lineStart front + line.length) =
      body.flatMap ('\n' :: ·) ++ ['\n'] := by
  have hsplit : lines s = (front ++ line :: body) ++ next :: rest := by
    rw [hlines, List.append_assoc, List.cons_append]
  have hs : s = (front ++ line :: body).flatMap (· ++ ['\n']) ++ unlines (next :: rest) := by
    rw [← unlines_lines s, hsplit, unlines_append _ (List.cons_ne_nil _ _)]
  have hfront : (front ++ line :: body).flatMap (· ++ ['\n']) =
      front.flatMap (· ++ ['\n']) ++ line ++ (body.flatMap ('\n' :: ·) ++ ['\n']) := by
    rw [List.flatMap_append, flatMap_newline, List.append_assoc]
  have hstop : lineStart (front ++ line :: body) =
      ((front ++ line :: body).flatMap (· ++ ['\n'])).length := rfl
  rw [hs, hstop, List.take_left, hfront, lineStart, ← List.length_append, List.drop_left]

/-- The lines of a body are those of its text, which has an empty line before them and, if a
line break ends it, one after them. -/
theorem mem_lines_flatMap (hbody : ∀ line ∈ body, '\n' ∉ line) {ending : List Char}
    (hending : ending = [] ∨ ending = ['\n'])
    (hline : line ∈ lines (body.flatMap ('\n' :: ·) ++ ending)) : line = [] ∨ line ∈ body := by
  have hlines : lines (body.flatMap ('\n' :: ·)) = [] :: body := by
    have hjoined := unlines_eq_flatMap [] body
    rw [List.nil_append] at hjoined
    rw [← hjoined]
    apply lines_unlines (List.cons_ne_nil _ _)
    exact List.forall_mem_cons.2 ⟨List.not_mem_nil, hbody⟩
  rcases hending with rfl | rfl
  · rw [List.append_nil, hlines] at hline
    exact List.mem_cons.1 hline
  · rw [lines_append_newline, hlines, List.mem_append, List.mem_cons, lines_nil,
      List.mem_singleton] at hline
    exact hline.elim id Or.inl

end Lines

/-! ### Fence lines -/

/-- A line stops within the text. -/
theorem stop_le_of_mem_placeLines {s : List Char} {f : Nat × List Char}
    (hf : f ∈ placeLines 0 (lines s)) : f.1 + f.2.length ≤ s.length := by
  obtain ⟨place, line⟩ := f
  obtain ⟨front, rest, hlines, hplace⟩ := Repair.mem_placeLines hf
  have hlength := congrArg List.length (unlines_lines s)
  rw [hlines, unlines_append front (List.cons_ne_nil _ _), unlines_eq_flatMap, List.length_append,
    List.length_append] at hlength
  show place + line.length ≤ s.length
  omega

theorem mem_placeLines_of_getElem? {s : List Char} {i : Nat} {f : Nat × List Char}
    (hf : (fenceLines s)[i]? = some f) : f ∈ placeLines 0 (lines s) :=
  (List.mem_filter.1 (List.mem_of_getElem? hf)).1

/-- A fence line stops before each later one starts. -/
theorem fenceLines_lt {s : List Char} {i j : Nat} {f g : Nat × List Char} (hij : i < j)
    (hf : (fenceLines s)[i]? = some f) (hg : (fenceLines s)[j]? = some g) :
    f.1 + f.2.length < g.1 := by
  obtain ⟨hi, rfl⟩ := List.getElem?_eq_some_iff.1 hf
  obtain ⟨hj, rfl⟩ := List.getElem?_eq_some_iff.1 hg
  have hordered := (Repair.pairwise_placeLines 0 (lines s)).filter (IsFence ·.2)
  exact List.pairwise_iff_getElem.1 hordered i j hi hj hij

/-! ### Blocks -/

/-- The fence lines among lines that are read from some place on. -/
theorem filter_placeLines_cons (front : List (List Char)) (line : List Char)
    (rest : List (List Char)) :
    (placeLines (lineStart front) (line :: rest)).filter (IsFence ·.2) =
      if IsFence line then
        (lineStart front, line) ::
          (placeLines (lineStart (front ++ [line])) rest).filter (IsFence ·.2)
      else (placeLines (lineStart (front ++ [line])) rest).filter (IsFence ·.2) := by
  rw [placeLines, ← lineStart_concat, List.filter_cons]
  simp only [decide_eq_true_eq]

/-- The lines of a text that is read up to some place outside of blocks, or up to one in a block
of which `body` has been read, last line first: from there on the blocks that are found lie
between the fence lines, the one that opened the block included. -/
theorem pairsUp_from {s : List Char} (todo : List (List Char)) :
    (∀ front, lines s = front ++ todo →
      PairsUp s ((placeLines (lineStart front) todo).filter (IsFence ·.2))
        (blocksOutside todo)) ∧
    ∀ front opening tag body, lines s = front ++ opening :: (body.reverse ++ todo) →
      fenceTag? opening = some tag → (∀ line ∈ body, ¬ IsFence line) →
      PairsUp s ((lineStart front, opening) ::
          (placeLines (lineStart (front ++ opening :: body.reverse)) todo).filter (IsFence ·.2))
        (blocksInside tag body todo) := by
  induction todo with
  | nil =>
      constructor
      · intro front hlines
        exact .nil
      · intro front opening tag body hlines hopening hbody
        rw [List.append_nil] at hlines
        refine .leftOver ⟨hopening, rfl, ?_, ?_⟩
        · rw [Option.map_none, Option.getD_none, List.take_length, drop_line hlines, Block.text]
          exact List.append_nil _
        · intro line hline
          have hmem : line ∈ lines s := hlines ▸ by simp [List.mem_reverse.1 hline]
          exact ⟨newline_not_mem_of_mem_lines hmem, hbody line (List.mem_reverse.1 hline)⟩
  | cons line todo ih =>
      obtain ⟨houtside, hinside⟩ := ih
      constructor
      · intro front hlines
        rw [filter_placeLines_cons, blocksOutside]
        have hnext : lines s = (front ++ [line]) ++ todo := by simp [hlines]
        cases htag : fenceTag? line with
        | none =>
            rw [if_neg (fenceTag?_eq_none_iff.1 htag)]
            exact houtside _ hnext
        | some tag =>
            rw [if_pos (isFence_of_fenceTag? htag)]
            exact hinside front line tag [] hlines htag (List.forall_mem_nil _)
      · intro front opening tag body hlines hopening hbody
        rw [filter_placeLines_cons, blocksInside]
        have hpassed : (front ++ opening :: body.reverse) ++ [line] =
            front ++ opening :: (line :: body).reverse := by simp
        cases htag : fenceTag? line with
        | none =>
            have hplain := fenceTag?_eq_none_iff.1 htag
            rw [if_neg hplain, hpassed]
            refine hinside front opening tag (line :: body) ?_ hopening ?_
            · simp [hlines]
            · exact List.forall_mem_cons.2 ⟨hplain, hbody⟩
        | some closing =>
            rw [if_pos (isFence_of_fenceTag? htag)]
            refine .pair ⟨hopening, rfl, ?_, ?_⟩ (houtside _ ?_)
            · rw [Option.map_some, Option.getD_some, drop_line_take hlines, Block.text]
              rfl
            · intro l hl
              have hmem : l ∈ lines s := hlines ▸ by simp [List.mem_reverse.1 hl]
              exact ⟨newline_not_mem_of_mem_lines hmem, hbody l (List.mem_reverse.1 hl)⟩
            · simp [hlines]

theorem pairsUp_blocks (s : List Char) : PairsUp s (fenceLines s) (blocks s) :=
  (pairsUp_from (lines s)).1 [] rfl

namespace PairsUp

variable {s : List Char} {fences : List (Nat × List Char)} {bs : List Block}

/-- There are half as many blocks as fence lines, rounded up. -/
theorem length_eq (h : PairsUp s fences bs) : bs.length = (fences.length + 1) / 2 := by
  induction h with
  | nil => rfl
  | leftOver hb => simp
  | pair hb hrest ih =>
      simp only [List.length_cons, ih]
      omega

/-- The fence lines of a block by their numbers. -/
theorem liesBetween (h : PairsUp s fences bs) {k : Nat} {b : Block} (hb : bs[k]? = some b) :
    ∃ opening, fences[2 * k]? = some opening ∧ LiesBetween s opening fences[2 * k + 1]? b := by
  induction h generalizing k with
  | nil => cases hb
  | @leftOver opening _ hfirst =>
      cases k with
      | zero =>
          obtain rfl := Option.some.inj hb
          exact ⟨opening, rfl, hfirst⟩
      | succ k => cases hb
  | @pair opening closing _ _ _ hfirst _ ih =>
      cases k with
      | zero =>
          obtain rfl := Option.some.inj hb
          exact ⟨opening, rfl, hfirst⟩
      | succ k => exact ih hb

end PairsUp

/-- Without the blanks at its ends, the text of a body is its lines joined. -/
theorem trim_text (b : Block) : trim b.text = trim (unlines b.body) := by
  have hstart : trim (b.body.flatMap ('\n' :: ·)) = trim (unlines b.body) := by
    cases b.body with
    | nil => rfl
    | cons line rest =>
        rw [unlines_eq_flatMap]
        rfl
  rw [Block.text]
  split
  · rw [trim_append_blanks _ rfl, hstart]
  · rw [List.append_nil, hstart]

/-- Fence lines are paired in the order of the text.  Of `n` fence lines come half as many blocks,
rounded up; the block with the number `k`, counted from zero, is opened by the fence line with the
number `2 * k` and closed by the next one, and it stays open exactly if there is none.  Its body is
the text between the two, or up to the end of the text, and no line of it is a fence.  The bodies
do not overlap, and they come in the order of the text. -/
theorem blocks_pair_fenceLines (s : List Char) :
    (blocks s).length = ((fenceLines s).length + 1) / 2 ∧
    (∀ k b, (blocks s)[k]? = some b →
      (∃ opening, (fenceLines s)[2 * k]? = some opening ∧ fenceTag? opening.2 = some b.tag) ∧
      (b.closed = false ↔ (fenceLines s).length = 2 * k + 1) ∧
      b.text = (s.take (bodyStop s k)).drop (bodyStart s k) ∧
      b.content = content b.text ∧
      ∀ line ∈ lines b.text, ¬ IsFence line) ∧
    ∀ k, k < (blocks s).length →
      bodyStart s k ≤ bodyStop s k ∧ bodyStop s k ≤ s.length ∧
        ∀ j, j < k → bodyStop s j < bodyStart s k := by
  have hpairs := pairsUp_blocks s
  have hcount := hpairs.length_eq
  refine ⟨hcount, ?_, ?_⟩
  · intro k b hb
    obtain ⟨opening, hopening, hlies⟩ := hpairs.liesBetween hb
    have hfound : 2 * k < (fenceLines s).length := (List.getElem?_eq_some_iff.1 hopening).1
    refine ⟨⟨opening, hopening, hlies.tag⟩, ?_, ?_, ?_, ?_⟩
    · rw [hlies.closed, Option.isSome_eq_false_iff, Option.isNone_iff_eq_none,
        List.getElem?_eq_none_iff]
      omega
    · rw [hlies.text, bodyStop, bodyStart, hopening, Option.map_some, Option.getD_some]
    · rw [Block.content, content_eq, content_eq, trim_text]
    · intro line hline
      have hending : (if b.closed then ['\n'] else []) = [] ∨
          (if b.closed then ['\n'] else []) = ['\n'] := by
        cases b.closed with
        | true => exact Or.inr rfl
        | false => exact Or.inl rfl
      rcases mem_lines_flatMap (fun l hl => (hlies.body_lines l hl).1) hending hline with
        rfl | hmem
      · exact fenceTag?_eq_none_iff.1 rfl
      · exact (hlies.body_lines line hmem).2
  · intro k hk
    have hopened : 2 * k < (fenceLines s).length := by omega
    obtain ⟨opening, hopening⟩ : ∃ f, (fenceLines s)[2 * k]? = some f :=
      ⟨_, List.getElem?_eq_getElem hopened⟩
    have hstart : bodyStart s k = opening.1 + opening.2.length := by
      rw [bodyStart, hopening, Option.map_some, Option.getD_some]
    have hwithin := stop_le_of_mem_placeLines (mem_placeLines_of_getElem? hopening)
    refine ⟨?_, ?_, ?_⟩
    · rw [hstart, bodyStop]
      cases hclosing : (fenceLines s)[2 * k + 1]? with
      | none => exact hwithin
      | some closing => exact (fenceLines_lt (Nat.lt_succ_self _) hopening hclosing).le
    · rw [bodyStop]
      cases hclosing : (fenceLines s)[2 * k + 1]? with
      | none => exact Nat.le_refl _
      | some closing =>
          have hle := stop_le_of_mem_placeLines (mem_placeLines_of_getElem? hclosing)
          exact (Nat.le_add_right _ _).trans hle
    · intro j hj
      obtain ⟨closing, hclosing⟩ : ∃ f, (fenceLines s)[2 * j + 1]? = some f :=
        ⟨_, List.getElem?_eq_getElem (by omega)⟩
      have hlt := fenceLines_lt (show 2 * j + 1 < 2 * k by omega) hclosing hopening
      rw [hstart, bodyStop, hclosing, Option.map_some, Option.getD_some]
      omega

/-- A reply of a block and one that is cut off. -/
def cutOffReply : List Char := "\x60\x60\x60ts\na\n\x60\x60\x60\nb\n\x60\x60\x60\nc".toList

/-- The third fence is left over, and its block comes after the first one. -/
theorem cutOffReply_leftOver :
    (blocks cutOffReply)[1]? = some { tag := [], body := [['c']], closed := false } ∧
      (fenceLines cutOffReply).length = 2 * 1 + 1 ∧
      bodyStop cutOffReply 0 < bodyStart cutOffReply 1 := by
  have hblock : (blocks cutOffReply)[1]? =
      some { tag := [], body := [['c']], closed := false } := by decide
  have hcount : (blocks cutOffReply).length = 2 := by decide
  obtain ⟨-, hbody, hplaces⟩ := blocks_pair_fenceLines cutOffReply
  exact ⟨hblock, (hbody 1 _ hblock).2.1.1 rfl, (hplaces 1 (by omega)).2.2 0 Nat.one_pos⟩

end StoryMend.Reply
