import Mathlib
import StoryMend.Proofs.Repair.ByteTags
import StoryMend.Proofs.Repair.Closing

/-!
Missing closing tags, with the places of the text counted in bytes.  The place for them is looked
for line by line; the text is cut there and once more after braces are added.  No cut has a fault,
and what comes of it is what `reconcileTags` makes of the text (`reconcile_eq_ok`).
-/

namespace StoryMend.Repair.ByteScan

open Text

/-- The lines of a text, each with the line feed that ends it. -/
def splitInclusive : List Char → List (List Char)
  | [] => []
  | c :: rest =>
    if c = '\n' then [c] :: splitInclusive rest
    else
      match splitInclusive rest with
      | [] => [[c]]
      | line :: more => (c :: line) :: more

/-- What has been seen of some lines. -/
structure Lines where
  /-- Where the next line starts. -/
  start : Nat := 0
  /-- Where there are lines that closing tags may go before. -/
  candidates : List Nat := []
  /-- The last line that is not blank, without the blanks at its ends, and where it starts. -/
  last : Option (Nat × List Char) := none

/-- Looks at one more line; lines that start before a place are no candidates. -/
def Lines.add (after : Nat) (seen : Lines) (line : List Char) : Lines where
  start := seen.start + byteLength line
  candidates :=
    if after ≤ seen.start && isExportLine line then seen.candidates ++ [seen.start]
    else seen.candidates
  last := if (trim line).isEmpty then seen.last else some (seen.start, trim line)

/-- Where closing tags may go once all lines have been seen. -/
def Lines.places (after : Nat) (seen : Lines) : List Nat :=
  seen.candidates ++
    (seen.last.filter fun last => last.2 == ['}', ';'] && after ≤ last.1).toList.map Prod.fst

/-- Where closing tags go, at the earliest after a place. -/
def insertionOffset (s : List Char) (after : Nat) : Nat :=
  (((splitInclusive s).foldl (Lines.add after) {}).places after).min?.getD (byteLength (trimEnd s))

/-- A text without the blanks at its end. -/
def truncate (s : List Char) : Access (List Char) := part 0 (byteLength (trimEnd s)) s

/-- Closes the tags that stay open. -/
def reconcile (s : List Char) : Access (List Char) := do
  let o ← scan s
  if o.names.isEmpty then pure s
  else
    let at_ := insertionOffset s o.lastEnd
    let gap := if at_ < byteLength (trimEnd s) then ['\n'] else []
    let front ← part 0 at_ s
    let back ← part at_ (byteLength s) s
    let text := front ++ o.names.flatMap closingTag ++ gap ++ back
    if 0 < braceDeficit text then
      let closed ← truncate (balanceBraces text)
      pure (if closed.getLast? = some ';' then closed else closed ++ [';'])
    else pure text

/-! ### Lines -/

section Lines

variable {s line : List Char} {after : Nat}

theorem splitInclusive_of_not_mem (hne : line ≠ []) (hline : '\n' ∉ line) :
    splitInclusive line = [line] := by
  induction line with
  | nil => exact absurd rfl hne
  | cons c line ih =>
      rw [List.mem_cons, not_or] at hline
      rw [splitInclusive, if_neg (Ne.symm hline.1)]
      cases line with
      | nil => rfl
      | cons d line => rw [ih (List.cons_ne_nil d line) hline.2]

theorem splitInclusive_append (hline : '\n' ∉ line) (rest : List Char) :
    splitInclusive (line ++ '\n' :: rest) = (line ++ ['\n']) :: splitInclusive rest := by
  induction line with
  | nil => rw [List.nil_append, splitInclusive, if_pos rfl, List.nil_append]
  | cons c line ih =>
      rw [List.mem_cons, not_or] at hline
      rw [List.cons_append, splitInclusive, if_neg (Ne.symm hline.1), ih hline.2]
      rfl

/-- The place of a line in bytes. -/
def placeInBytes (s : List Char) (f : Nat × List Char) : Nat := byteLength (s.take f.1)

/-- The lines that closing tags may go before because they export something. -/
def exported (s : List Char) (after : Nat) (placed : List (Nat × List Char)) :
    List (Nat × List Char) :=
  placed.filter fun f => after ≤ placeInBytes s f && isExportLine f.2

/-- The lines that are not blank. -/
def nonBlank (placed : List (Nat × List Char)) : List (Nat × List Char) :=
  placed.filter fun f => !isBlankText f.2

/-- The last of some lines that is not blank, as it is kept in mind. -/
def lastSeen (s : List Char) (placed : List (Nat × List Char)) : Option (Nat × List Char) :=
  (nonBlank placed).getLast?.map fun f => (placeInBytes s f, trim f.2)

theorem lastSeen_cons (f : Nat × List Char) (placed : List (Nat × List Char)) :
    lastSeen s (f :: placed) = (lastSeen s placed).or (lastSeen s [f]) := by
  have hsplit : nonBlank (f :: placed) = nonBlank [f] ++ nonBlank placed :=
    List.filter_append [f] placed
  rw [lastSeen, hsplit, List.getLast?_append, Option.map_or, ← lastSeen, ← lastSeen]

/-- One more line, with or without a line feed after it. -/
theorem add_eq (after : Nat) {seen : Lines} {f : Nat × List Char}
    (hplace : placeInBytes s f = seen.start) (hline : trim line = trim f.2) :
    (seen.add after line).candidates =
        seen.candidates ++ (exported s after [f]).map (placeInBytes s) ∧
      (seen.add after line).last = (lastSeen s [f]).or seen.last := by
  have hexport : isExportLine line = isExportLine f.2 := by
    rw [isExportLine, isExportLine, hline]
  constructor
  · show (if (after ≤ seen.start && isExportLine line) = true then seen.candidates ++ [seen.start]
        else seen.candidates) = _
    rw [exported, List.filter_cons, List.filter_nil, hplace, hexport]
    split
    · rw [List.map_singleton, hplace]
    · exact (List.append_nil _).symm
  · show (if (trim line).isEmpty = true then seen.last else some (seen.start, trim line)) = _
    rw [lastSeen, nonBlank, List.filter_cons, List.filter_nil, hline, ← hplace]
    cases hblank : isBlankText f.2 with
    | true =>
        rw [trim_eq_nil_iff.2 hblank]
        rfl
    | false =>
        have hne : ¬ (trim f.2).isEmpty = true := by
          rw [List.isEmpty_iff, trim_eq_nil_iff, hblank]
          exact Bool.false_ne_true
        rw [if_neg hne]
        rfl

/-- The last line, which no line feed ends and which may be empty. -/
theorem foldl_add_last (after : Nat) {seen : Lines} {f : Nat × List Char}
    (hplace : placeInBytes s f = seen.start) (hline : '\n' ∉ f.2) :
    ((splitInclusive f.2).foldl (Lines.add after) seen).candidates =
        seen.candidates ++ (exported s after [f]).map (placeInBytes s) ∧
      ((splitInclusive f.2).foldl (Lines.add after) seen).last =
        (lastSeen s [f]).or seen.last := by
  obtain ⟨place, line⟩ := f
  by_cases hempty : line = []
  · subst hempty
    have hnone : exported s after [(place, [])] = [] := by
      rw [exported, List.filter_cons, List.filter_nil]
      simp [isExportLine, trim, trimStart, trimEnd, dropWhileEnd]
    rw [hnone]
    exact ⟨(List.append_nil _).symm, rfl⟩
  · rw [splitInclusive_of_not_mem hempty hline]
    exact add_eq after hplace rfl

/-- The lines from a place on, one after the other. -/
theorem foldl_add (after : Nat) (front : List Char) (ls : List (List Char)) (hls : ls ≠ [])
    (hlines : ∀ line ∈ ls, '\n' ∉ line) (hs : s = front ++ unlines ls) (seen : Lines)
    (hstart : seen.start = byteLength front) :
    ((splitInclusive (unlines ls)).foldl (Lines.add after) seen).candidates =
        seen.candidates ++
          (exported s after (placeLines front.length ls)).map (placeInBytes s) ∧
      ((splitInclusive (unlines ls)).foldl (Lines.add after) seen).last =
        (lastSeen s (placeLines front.length ls)).or seen.last := by
  induction ls generalizing front seen with
  | nil => exact absurd rfl hls
  | cons line rest ih =>
      obtain ⟨hline, hrest⟩ := List.forall_mem_cons.1 hlines
      have hplace : placeInBytes s (front.length, line) = seen.start := by
        rw [placeInBytes, hs, List.take_left, hstart]
      rw [placeLines]
      by_cases hmore : rest = []
      · rw [hmore, show unlines [line] = line from rfl, placeLines]
        exact foldl_add_last after hplace hline
      · have htext : s = (front ++ (line ++ ['\n'])) ++ unlines rest := by
          rw [hs, unlines_cons line hmore]
          simp
        have htrim : trim (line ++ ['\n']) = trim line := trim_append_blanks line rfl
        obtain ⟨hcandidates, hlast⟩ := add_eq after hplace htrim
        have hnext : (seen.add after (line ++ ['\n'])).start =
            byteLength (front ++ (line ++ ['\n'])) := by
          rw [byteLength_append, ← hstart]
          rfl
        have hlength : (front ++ (line ++ ['\n'])).length = front.length + line.length + 1 := by
          rw [List.length_append, List.length_append, List.length_singleton, Nat.add_assoc]
        have hsplit : exported s after ((front.length, line) ::
            placeLines (front.length + line.length + 1) rest) =
              exported s after [(front.length, line)] ++
                exported s after (placeLines (front.length + line.length + 1) rest) :=
          List.filter_append [_] _
        obtain ⟨hlater, hlaterLast⟩ := ih _ hmore hrest htext _ hnext
        rw [hlength] at hlater hlaterLast
        rw [unlines_cons line hmore, splitInclusive_append hline, List.foldl_cons, hlater,
          hlaterLast, hcandidates, hlast, hsplit, List.map_append, List.append_assoc,
          lastSeen_cons _ (placeLines _ rest), Option.or_assoc]
        exact ⟨rfl, rfl⟩

/-- The places of lines in bytes, in the order of the text. -/
theorem pairwise_placeInBytes (s : List Char) :
    (placeLines 0 (lines s)).Pairwise fun f g => placeInBytes s f ≤ placeInBytes s g := by
  refine (pairwise_placeLines 0 (lines s)).imp fun hlt => byteLength_take_mono ?_
  omega

/-- A line of some in order that is not after the last one. -/
theorem placeInBytes_le_last {placed : List (Nat × List Char)} {f g : Nat × List Char}
    (hordered : placed.Pairwise fun f g => placeInBytes s f ≤ placeInBytes s g)
    (hf : f ∈ nonBlank placed) (hg : (nonBlank placed).getLast? = some g) :
    placeInBytes s f ≤ placeInBytes s g := by
  obtain ⟨front, hfront⟩ := List.getLast?_eq_some_iff.1 hg
  have hkept := hordered.filter fun f => !isBlankText f.2
  rw [← nonBlank, hfront, List.pairwise_append] at hkept
  rw [hfront, List.mem_append, List.mem_singleton] at hf
  rcases hf with hf | rfl
  · exact hkept.2.2 f hf g (List.mem_singleton_self g)
  · exact Nat.le_refl _

theorem mem_nonBlank_of_mem_exported {after : Nat} {placed : List (Nat × List Char)}
    {f : Nat × List Char} (hf : f ∈ exported s after placed) : f ∈ nonBlank placed := by
  obtain ⟨hmem, htest⟩ := List.mem_filter.1 hf
  refine List.mem_filter.2 ⟨hmem, ?_⟩
  rw [isBlankText_of_isPlace (Or.inl (Bool.and_eq_true_iff.1 htest).2)]
  rfl

/-- The last line, if it ends an object and starts late enough. -/
def objectEnd? (s : List Char) (after : Nat) (placed : List (Nat × List Char)) :
    Option (Nat × List Char) :=
  (nonBlank placed).getLast?.filter fun f => isObjectEnd f.2 && after ≤ placeInBytes s f

theorem places_eq {after : Nat} {seen : Lines} {placed : List (Nat × List Char)}
    (hcandidates : seen.candidates = (exported s after placed).map (placeInBytes s))
    (hlast : seen.last = lastSeen s placed) :
    seen.places after = (exported s after placed).map (placeInBytes s) ++
      ((objectEnd? s after placed).map (placeInBytes s)).toList := by
  rw [Lines.places, hcandidates, hlast, lastSeen, objectEnd?]
  cases (nonBlank placed).getLast? with
  | none => rfl
  | some g =>
      rw [Option.map_some, Option.filter_some, Option.filter_some, isObjectEnd]
      simp only
      split
      · rfl
      · rfl

/-- The first of the places that closing tags may go to. -/
theorem min?_places {after : Nat} {placed : List (Nat × List Char)}
    (hordered : placed.Pairwise fun f g => placeInBytes s f ≤ placeInBytes s g) :
    ((exported s after placed).map (placeInBytes s) ++
        ((objectEnd? s after placed).map (placeInBytes s)).toList).min? =
      ((exported s after placed).head?.or (objectEnd? s after placed)).map (placeInBytes s) := by
  have hsorted : ((exported s after placed).map (placeInBytes s) ++
      ((objectEnd? s after placed).map (placeInBytes s)).toList).Pairwise (· ≤ ·) := by
    refine List.pairwise_append.2 ⟨List.pairwise_map.2 (hordered.filter _), ?_, ?_⟩
    · cases objectEnd? s after placed with
      | none => exact List.Pairwise.nil
      | some g => exact List.pairwise_singleton _ _
    · intro x hx y hy
      obtain ⟨f, hf, rfl⟩ := List.mem_map.1 hx
      obtain ⟨g, hg, rfl⟩ := Option.map_eq_some_iff.1 (Option.mem_toList.1 hy)
      exact placeInBytes_le_last hordered (mem_nonBlank_of_mem_exported hf)
        (Option.filter_eq_some_iff.1 hg).1
  have hmin : ∀ l : List Nat, l.Pairwise (· ≤ ·) → l.min? = l.head? := fun l hl =>
    List.min?_eq_head? (hl.imp fun hle => Nat.min_eq_left hle)
  rw [hmin _ hsorted, List.head?_append, List.head?_map, Option.head?_toList, Option.map_or]

/-- The place for closing tags is the same in bytes. -/
theorem insertionOffset_eq {start : Nat} (hstart : start ≤ s.length) :
    insertionOffset s (byteLength (s.take start)) =
      byteLength (s.take (insertionPoint s start)) := by
  obtain ⟨hcandidates, hlast⟩ := foldl_add (byteLength (s.take start)) [] (lines s)
    (lines_ne_nil s) (fun line hline => newline_not_mem_of_mem_lines hline)
    (unlines_lines s).symm {} rfl
  rw [unlines_lines, List.nil_append, List.length_nil] at hcandidates
  rw [unlines_lines, Option.or_none, List.length_nil] at hlast
  have hend : byteLength (trimEnd s) = byteLength (s.take (trimEnd s).length) := by
    rw [← List.prefix_iff_eq_take.1 (trimEnd_isPrefix s)]
  have hexported : exported s (byteLength (s.take start)) (placeLines 0 (lines s)) =
      (placeLines 0 (lines s)).filter fun f => start ≤ f.1 && isExportLine f.2 := by
    refine List.filter_congr fun f hf => ?_
    rw [placeInBytes]
    simp only [byteLength_take_le_iff hstart]
  rw [insertionOffset, places_eq hcandidates hlast, min?_places (pairwise_placeInBytes s),
    hexported, List.head?_filter, hend, insertionPoint]
  simp only
  cases (placeLines 0 (lines s)).find? fun f => start ≤ f.1 && isExportLine f.2 with
  | some f => rfl
  | none =>
      rw [Option.none_or, objectEnd?, nonBlank]
      cases ((placeLines 0 (lines s)).filter fun f => !isBlankText f.2).getLast? with
      | none => rfl
      | some g =>
          rw [Option.filter_some, placeInBytes]
          simp only [byteLength_take_le_iff hstart]
          split
          · rfl
          · rfl

end Lines

/-! ### Cuts -/

section Cuts

variable {s : List Char}

theorem part_start (s : List Char) (n : Nat) :
    part 0 (byteLength (s.take n)) s = .ok (s.take n) := by
  have hslice := slice?_append [] (s.take n) (s.drop n)
  rw [List.nil_append, List.take_append_drop] at hslice
  apply part_eq_ok
  rwa [show byteLength [] = 0 from rfl, Nat.zero_add] at hslice

theorem part_end (s : List Char) (n : Nat) :
    part (byteLength (s.take n)) (byteLength s) s = .ok (s.drop n) := by
  have hslice := slice?_append (s.take n) (s.drop n) []
  rw [List.append_nil, List.take_append_drop, ← byteLength_append, List.take_append_drop] at hslice
  exact part_eq_ok hslice

theorem trimEnd_eq_take (s : List Char) : trimEnd s = s.take (trimEnd s).length :=
  List.prefix_iff_eq_take.1 (trimEnd_isPrefix s)

theorem truncate_eq_ok (s : List Char) : truncate s = .ok (trimEnd s) := by
  have hpart := part_start s (trimEnd s).length
  rwa [← trimEnd_eq_take] at hpart

/-- Closing tags go no further than to the end of the text without the blanks there. -/
theorem insertionPoint_le (s : List Char) :
    insertionPoint s (openTags s).lastEnd ≤ (trimEnd s).length := by
  rcases insertionPoint_spec s (openTags s).lastEnd with ⟨line, hmem, -, hline⟩ | hend
  · by_contra hlt
    obtain ⟨rest, hrest⟩ := exists_drop_eq_append hmem
    have hblank := isBlankText_afterClosers (fun h => hlt h.le)
    rw [afterClosers, hrest, isBlankText_append, isBlankText_of_isPlace hline] at hblank
    cases hblank
  · exact hend.le

theorem lastEnd_le_insertionPoint (s : List Char) :
    (openTags s).lastEnd ≤ insertionPoint s (openTags s).lastEnd := by
  rcases insertionPoint_spec s (openTags s).lastEnd with ⟨line, -, hle, -⟩ | hend
  · exact hle
  · rw [hend]
    exact lastEnd_openTags_le s

theorem lastEnd_le_length (s : List Char) : (openTags s).lastEnd ≤ s.length :=
  (lastEnd_openTags_le s).trans (trimEnd_isPrefix s).length_le

/-- Closing tags go between the end of the last tag and the blanks at the end. -/
theorem insertionOffset_bounds (s : List Char) :
    byteLength (s.take (openTags s).lastEnd) ≤
        insertionOffset s (byteLength (s.take (openTags s).lastEnd)) ∧
      insertionOffset s (byteLength (s.take (openTags s).lastEnd)) ≤ byteLength (trimEnd s) := by
  rw [insertionOffset_eq (lastEnd_le_length s)]
  constructor
  · exact byteLength_take_mono (lastEnd_le_insertionPoint s)
  · rw [trimEnd_eq_take s]
    exact byteLength_take_mono (insertionPoint_le s)

theorem scan_eq_ok_inBytes (s : List Char) : scan s = .ok ((openTags s).inBytes s) := by
  rw [scan_eq_ok, openTags_bytes]

/-- What is left after braces are added is cut where the blanks at the end start. -/
theorem closeStatement_eq_ok (s : List Char) :
    (if 0 < braceDeficit s then do
        let closed ← truncate (balanceBraces s)
        pure (if closed.getLast? = some ';' then closed else closed ++ [';'])
      else pure s : Access (List Char)) = .ok (closeStatement s) := by
  rw [closeStatement]
  by_cases hdeficit : braceDeficit s = 0
  · rw [if_neg (by omega), if_pos hdeficit]
    rfl
  · rw [if_pos (Nat.pos_of_ne_zero hdeficit), if_neg hdeficit, truncate_eq_ok, ok_bind]
    rfl

/-- No cut has a fault, and what comes of them closes the open tags. -/
theorem reconcile_eq_ok (s : List Char) : reconcile s = .ok (reconcileTags s) := by
  have hplace := insertionOffset_eq (lastEnd_le_length s)
  have hgap : insertionOffset s (byteLength (s.take (openTags s).lastEnd)) <
      byteLength (trimEnd s) ↔
        insertionPoint s (openTags s).lastEnd < (trimEnd s).length := by
    have hend : byteLength (trimEnd s) = byteLength (s.take (trimEnd s).length) :=
      congrArg byteLength (trimEnd_eq_take s)
    rw [hplace, hend, ← not_le, ← not_le, not_iff_not]
    exact byteLength_take_le_iff (trimEnd_isPrefix s).length_le
  rw [reconcile, scan_eq_ok_inBytes, ok_bind, reconcileTags]
  have hnames : ((openTags s).inBytes s).names = (openTags s).names := rfl
  have hlast : ((openTags s).inBytes s).lastEnd = byteLength (s.take (openTags s).lastEnd) := rfl
  rw [hnames, hlast]
  by_cases hclosed : (openTags s).names.isEmpty = true
  · rw [if_pos hclosed, if_pos hclosed]
    rfl
  · rw [if_neg hclosed, if_neg hclosed]
    simp only [hgap]
    rw [hplace, part_start, ok_bind, part_end, ok_bind]
    exact closeStatement_eq_ok _

/-- A scan for tags that goes over the bytes of a text stays within it, comes to its end and is
never at fault.  From every place within the text a step goes on, and not beyond the end; a tag
has some bytes, all of them within the text.  The scan finds the open tags of the text; closing
tags go after the last tag and no further than to the end of the text without the blanks there.
The text is cut only where characters start, and what comes of it has the open tags closed. -/
theorem scan_inBounds (s : List Char) :
    (∀ c : Cursor, c.position < (bytes s).length →
      ∃ next, step s c = .ok next ∧ c.position < next.position ∧
        next.position ≤ (bytes s).length) ∧
    (∀ start, (bytes s)[start]? = some '<' →
      ∃ t?, readTag s start = .ok t? ∧
        ∀ t ∈ t?, start < t.stop ∧ t.stop ≤ (bytes s).length) ∧
    (∃ o, scan s = .ok o ∧ o = (openTags s).inBytes s ∧
      (o.names ≠ [] → o.lastEnd ≤ insertionOffset s o.lastEnd ∧
        insertionOffset s o.lastEnd ≤ byteLength (trimEnd s))) ∧
    reconcile s = .ok (reconcileTags s) := by
  refine ⟨fun c => step_eq_ok, fun start => readTag_eq_ok, ?_, reconcile_eq_ok s⟩
  exact ⟨_, scan_eq_ok_inBytes s, rfl, fun _ => insertionOffset_bounds s⟩

end Cuts

/-- A text that is cut off in a string, after a backslash; the letter before the brace has two
bytes. -/
def cutOffString : List Char := "<Card>\u00e9\x7b\"\\".toList

/-- The backslash takes the loop over the string beyond the end, and the scan stays within it. -/
theorem cutOffString_inBounds :
    (bytes cutOffString).length = 11 ∧
      (∃ next, step cutOffString ⟨9, {}⟩ = .ok next ∧ 9 < next.position ∧
        next.position ≤ (bytes cutOffString).length) ∧
      ∃ o, scan cutOffString = .ok o ∧ o.names = ["Card".toList] ∧
        o.lastEnd ≤ insertionOffset cutOffString o.lastEnd ∧
        insertionOffset cutOffString o.lastEnd ≤ byteLength (trimEnd cutOffString) := by
  have hlength : (bytes cutOffString).length = 11 := by decide
  have hnames : (openTags cutOffString).names = ["Card".toList] := by cbv
  obtain ⟨hstep, -, ⟨o, hscan, rfl, hbounds⟩, -⟩ := scan_inBounds cutOffString
  refine ⟨hlength, hstep ⟨9, {}⟩ (by rw [hlength]; decide), _, hscan, hnames, hbounds ?_⟩
  show (openTags cutOffString).names ≠ []
  rw [hnames]
  exact List.cons_ne_nil _ _

end StoryMend.Repair.ByteScan
