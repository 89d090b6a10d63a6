import StoryMend.Proofs.Repair.Scan
import StoryMend.Proofs.Text.Bytes

/-!
A scan for tags that goes over the bytes of a text by their numbers.  It looks at bytes, cuts parts
out of the text and takes numbers from each other, and each of these has a fault if there is no
such byte, no such part or no such number; a step that does not go on is a fault as well.  Yet from
every place within the text a step has no fault, goes on and stays within the text
(`step_eq_ok`), so the scan comes to its end without one, and it finds what `openTags` finds in
the bytes (`scan_eq_ok`).
-/

namespace StoryMend.Repair.ByteScan

open Text Syntax

/-! ### The scan -/

/-- What can go wrong in a scan. -/
inductive Fault where
  /-- There is no byte at a place. -/
  | index
  /-- A part starts or stops beyond the end or within a character, or stops before it starts. -/
  | slice
  /-- A difference is below zero. -/
  | underflow
  /-- A step does not go on. -/
  | stuck
deriving Repr, DecidableEq

/-- What a scan gives if nothing goes wrong. -/
abbrev Access := Except Fault

/-- The byte at a place. -/
def byteAt (b : List Char) (i : Nat) : Access Char :=
  match b[i]? with
  | some c => pure c
  | none => throw .index

/-- A difference of numbers. -/
def minus (m n : Nat) : Access Nat := if n ≤ m then pure (m - n) else throw .underflow

/-- The bytes before a place. -/
def bytesBefore (b : List Char) (stop : Nat) : Access (List Char) :=
  if stop ≤ b.length then pure (b.take stop) else throw .slice

/-- The part of a text from one byte up to another. -/
def part (start stop : Nat) (s : List Char) : Access (List Char) :=
  match slice? start stop s with
  | some t => pure t
  | none => throw .slice

/-- Where some bytes first stand. -/
def position? (needle : List Char) : List Char → Option Nat
  | [] => none
  | c :: rest =>
    if needle.isPrefixOf (c :: rest) then some 0 else (position? needle rest).map (· + 1)

/-- Where some bytes first stand from a place on. -/
def findFrom (b : List Char) (start : Nat) (needle : List Char) : Option Nat :=
  if start ≤ b.length then (position? needle (b.drop start)).map (· + start) else none

/-- Whether a quote after some bytes, the last of which is no blank, opens a string. -/
def opensAfter (before : List Char) : Access Bool :=
  match before.getLast? with
  | none => pure true
  | some c =>
    if expectsValue c then pure true
    else if "return".toList.isSuffixOf before then do
      let front ← bytesBefore before (← minus before.length 6)
      pure (!front.getLast?.any fun c => c.isAlphanum || c == '_' || c == '$')
    else pure false

/-- Whether a quote at a place opens a string. -/
def inExpression (b : List Char) (i : Nat) : Access Bool := do
  opensAfter (dropWhileEnd isPlainBlank (← bytesBefore b i))

/-- Where a string ends that has been read up to a place. -/
def stringEnd (b : List Char) (quote : Char) (j : Nat) : Nat :=
  if h : j < b.length then
    if b[j] = '\\' then stringEnd b quote (j + 2)
    else if b[j] == quote then j + 1
    else if b[j] == '\n' && quote != '\x60' then j
    else stringEnd b quote (j + 1)
  else b.length
termination_by b.length - j

/-- Whether a colon stands before a place. -/
def followsColon (b : List Char) (i : Nat) : Access Bool :=
  if i = 0 then pure false else return (← byteAt b (← minus i 1)) == ':'

/-- Where a comment or a string that starts at a place ends. -/
def skipLiteral (b : List Char) (i : Nat) : Access (Option Nat) := do
  let c ← byteAt b i
  if c = '/' ∧ b[i + 1]? = some '/' then
    if ← followsColon b i then pure none
    else pure (some ((findFrom b (i + 2) ['\n']).getD b.length))
  else if c = '/' ∧ b[i + 1]? = some '*' then
    pure (some (((findFrom b (i + 2) ['*', '/']).map (· + 2)).getD b.length))
  else if c == '"' || c == '\'' || c == '\x60' then
    if ← inExpression b i then pure (some (stringEnd b c (i + 1))) else pure none
  else pure none

/-- Whether the byte before a place may stand before a tag. -/
def mayStart (b : List Char) : Nat → Access Bool
  | 0 => pure (mayFollow none)
  | p + 1 => return mayFollow (some (← byteAt b p))

/-- Whether a tag starts with the `<` at a place. -/
def isTagStart (b : List Char) (i : Nat) : Access Bool :=
  if b[i + 1]? = some '/' then pure (b[i + 2]?.any fun c => c.isAlpha || c == '>')
  else if b[i + 1]?.any fun c => c.isAlpha || c == '>' then mayStart b i
  else pure false

/-- Where bytes of a kind that stand from a place on end. -/
def runEnd (p : Char → Bool) (b : List Char) (j : Nat) : Nat :=
  if h : j < b.length then if p b[j] then runEnd p b (j + 1) else j else j
termination_by b.length - j

/-- What follows a place within a tag: the kind of the tag and where it ends. -/
def attributesEnd (b : List Char) (j depth : Nat) (quote significant : Option Char) :
    Access (Option (TagKind × Nat)) :=
  if h : j < b.length then
    let significant' := if isPlainBlank b[j] then significant else some b[j]
    match quote with
    | some q =>
      if b[j] == q then do
        let closes := (← byteAt b (← minus j 1)) != '\\'
        attributesEnd b (j + 1) depth (if closes then none else some q) significant'
      else attributesEnd b (j + 1) depth (some q) significant'
    | none =>
      if depth == 0 && b[j] == '>' then
        pure (some (if significant == some '/' then .selfClosing else .opening, j + 1))
      else if depth == 0 && b[j] == '<' then pure none
      else if b[j] == '"' || b[j] == '\'' || b[j] == '\x60' then
        attributesEnd b (j + 1) depth (some b[j]) significant'
      else if b[j] == '\x7b' then attributesEnd b (j + 1) (depth + 1) none significant'
      else if b[j] == '\x7d' then attributesEnd b (j + 1) (depth - 1) none significant'
      else attributesEnd b (j + 1) depth none significant'
  else pure none
termination_by b.length - j

/-- A tag that has been read, and where it ends. -/
structure Token where
  name : List Char
  kind : TagKind
  stop : Nat
deriving Repr, DecidableEq

/-- Reads the name that starts at a place, and tells where it ends. -/
def readName (s : List Char) (start : Nat) : Access (List Char × Nat) := do
  let stop := runEnd isNameChar (bytes s) start
  return (← part start stop s, stop)

/-- The closing tag with a name that ends at a place. -/
def closingToken (b name : List Char) (j : Nat) : Option Token :=
  if b[runEnd isPlainBlank b j]? = some '>' then
    some ⟨name, .closing, runEnd isPlainBlank b j + 1⟩
  else none

/-- Reads the tag that starts with the `<` at a place. -/
def readTag (s : List Char) (start : Nat) : Access (Option Token) :=
  if (bytes s)[start + 1]? = some '/' then do
    let (name, j) ← readName s (start + 2)
    pure (closingToken (bytes s) name j)
  else do
    let (name, j) ← readName s (start + 1)
    let found ← attributesEnd (bytes s) j 0 none none
    pure (found.map fun (kind, stop) => ⟨name, kind, stop⟩)

/-- The place that a scan has come to, and the tags that are open there. -/
structure Cursor where
  position : Nat := 0
  tags : OpenTags := {}
deriving Repr, DecidableEq

/-- Goes on to another place. -/
def Cursor.goTo (c : Cursor) (position : Nat) : Cursor := { c with position }

/-- Takes a tag into account and goes on to its end. -/
def Cursor.take (c : Cursor) (t : Token) : Cursor where
  position := t.stop
  tags := c.tags.add ⟨t.name, t.kind, t.stop - c.position⟩ t.stop

/-- Goes over what stands at the place of a scan. -/
def step (s : List Char) (c : Cursor) : Access Cursor := do
  match ← skipLiteral (bytes s) c.position with
  | some stop => pure (c.goTo stop)
  | none =>
    if (← byteAt (bytes s) c.position) == '<' then
      if ← isTagStart (bytes s) c.position then
        match ← readTag s c.position with
        | some t => pure (c.take t)
        | none => pure (c.goTo (c.position + 1))
      else pure (c.goTo (c.position + 1))
    else pure (c.goTo (c.position + 1))

/-- Goes on to the end of a text. -/
def run (s : List Char) (c : Cursor) : Access OpenTags :=
  if c.position < (bytes s).length then do
    let next ← step s c
    if c.position < next.position then run s next else throw .stuck
  else pure c.tags
termination_by (bytes s).length - c.position

/-- The tags that are open at the end of a text. -/
def scan (s : List Char) : Access OpenTags := run s {}

/-! ### Accesses -/

section Accesses

variable {b : List Char} {i j m n : Nat} {c : Char}

theorem byteAt_eq_ok (h : b[i]? = some c) : byteAt b i = .ok c := by
  rw [byteAt, h]
  rfl

theorem minus_eq_ok (h : n ≤ m) : minus m n = .ok (m - n) := if_pos h

theorem bytesBefore_eq_ok (h : i ≤ b.length) : bytesBefore b i = .ok (b.take i) := if_pos h

theorem part_eq_ok {s t : List Char} (h : slice? i j s = some t) : part i j s = .ok t := by
  rw [part, h]
  rfl

/-- The byte before a place. -/
theorem head?_reverse_take (hi : i ≤ b.length) (hpos : 0 < i) :
    (b.take i).reverse.head? = b[i - 1]? := by
  rw [List.head?_reverse, List.getLast?_take, if_neg (by omega),
    List.getElem?_eq_getElem (by omega)]
  rfl

theorem drop_succ_of_drop {x : List Char} (hx : b.drop i = c :: x) : b.drop (i + 1) = x := by
  rw [← List.tail_drop, hx, List.tail_cons]

end Accesses

/-! ### Loops -/

section Loops

variable {b : List Char} {i j : Nat}

theorem runEnd_eq (p : Char → Bool) (b : List Char) (j : Nat) :
    runEnd p b j = j + ((b.drop j).takeWhile p).length := by
  induction j using runEnd.induct p b with
  | case1 j h hp ih =>
      rw [runEnd, dif_pos h, if_pos hp, ih, List.drop_eq_getElem_cons h,
        List.takeWhile_cons_of_pos hp, List.length_cons]
      omega
  | case2 j h hp =>
      rw [runEnd, dif_pos h, if_neg hp, List.drop_eq_getElem_cons h, List.takeWhile_cons_of_neg hp]
      rfl
  | case3 j h =>
      rw [runEnd, dif_neg h, List.drop_eq_nil_of_le (Nat.not_lt.1 h)]
      rfl

/-- A backslash before the end takes the loop beyond the end. -/
theorem stringEnd_eq (quote : Char) (hj : j ≤ b.length) :
    stringEnd b quote j = j + stringLength quote (b.drop j) := by
  induction j using stringEnd.induct b quote with
  | case1 j h hslash ih =>
      rw [stringEnd, dif_pos h, if_pos hslash, List.drop_eq_getElem_cons h, hslash]
      by_cases hnext : j + 1 < b.length
      · rw [ih (by omega), List.drop_eq_getElem_cons hnext, stringLength]
        exact Nat.add_assoc j 2 _
      · have hend : j + 1 = b.length := by omega
        rw [stringEnd, dif_neg (by omega), List.drop_eq_nil_of_le hend.ge]
        exact hend.symm
  | case2 j h hslash hquote =>
      rw [stringEnd, dif_pos h, if_neg hslash, if_pos hquote, List.drop_eq_getElem_cons h,
        stringLength_cons hslash, if_pos hquote]
  | case3 j h hslash hquote hline =>
      rw [stringEnd, dif_pos h, if_neg hslash, if_neg hquote, if_pos hline,
        List.drop_eq_getElem_cons h, stringLength_cons hslash, if_neg hquote, if_pos hline]
      rfl
  | case4 j h hslash hquote hline ih =>
      rw [stringEnd, dif_pos h, if_neg hslash, if_neg hquote, if_neg hline, ih (by omega),
        List.drop_eq_getElem_cons h, stringLength_cons hslash, if_neg hquote, if_neg hline]
      omega
  | case5 j h =>
      rw [stringEnd, dif_neg h, List.drop_eq_nil_of_le (Nat.not_lt.1 h)]
      exact (Nat.le_antisymm hj (Nat.not_lt.1 h)).symm

/-- A line comment ends before the line feed, or at the end. -/
theorem findFrom_newline (hj : j ≤ b.length) :
    (findFrom b j ['\n']).getD b.length = j + ((b.drop j).takeWhile (· != '\n')).length := by
  have hfind (x : List Char) :
      (position? ['\n'] x).getD x.length = (x.takeWhile (· != '\n')).length := by
    induction x with
    | nil => rfl
    | cons c x ih =>
        rw [position?]
        by_cases hc : c = '\n'
        · simp [hc]
        · have hne : (c != '\n') = true := bne_iff_ne.2 hc
          rw [if_neg (by simpa using Ne.symm hc), List.takeWhile_cons, if_pos hne, List.length_cons,
            List.length_cons, ← ih]
          cases position? ['\n'] x <;> rfl
  have hlength : b.length = (b.drop j).length + j := by
    rw [List.length_drop]
    omega
  rw [findFrom, if_pos hj, ← hfind, Nat.add_comm j]
  cases position? ['\n'] (b.drop j) with
  | none => exact hlength
  | some n => rfl

/-- A block comment ends after its mark, or at the end. -/
theorem findFrom_mark (hj : j ≤ b.length) :
    ((findFrom b j ['*', '/']).map (· + 2)).getD b.length =
      j + blockCommentLength (b.drop j) := by
  have hfind (x : List Char) :
      ((position? ['*', '/'] x).map (· + 2)).getD x.length = blockCommentLength x := by
    induction x using blockCommentLength.induct with
    | case1 => rfl
    | case2 x => rfl
    | case3 c x hmark ih =>
        rw [position?, blockCommentLength]
        · rw [if_neg, List.length_cons, ← ih]
          · cases position? ['*', '/'] x with
            | none => exact Nat.add_comm _ 1
            | some n =>
                show n + 1 + 2 = 1 + (n + 2)
                omega
          · intro hstarts
            obtain ⟨rest, hrest⟩ := List.isPrefixOf_iff_prefix.1 hstarts
            obtain ⟨rfl, rfl⟩ := List.cons.inj hrest
            exact hmark rest rfl rfl
        · exact hmark
  have hlength : b.length = (b.drop j).length + j := by
    rw [List.length_drop]
    omega
  rw [findFrom, if_pos hj, ← hfind, Nat.add_comm j]
  cases position? ['*', '/'] (b.drop j) with
  | none => exact hlength
  | some n =>
      show n + j + 2 = n + 2 + j
      omega

end Loops

/-! ### What stands at a place -/

section Places

variable {b : List Char} {i : Nat}

@[simp]
theorem ok_bind {α β : Type} (a : α) (f : α → Access β) : (Except.ok a >>= f) = f a := rfl

theorem opensAfter_reverse (before : List Char) :
    opensAfter (before.dropWhile isPlainBlank).reverse = .ok (Repair.inExpression before) := by
  rw [Repair.inExpression]
  generalize before.dropWhile isPlainBlank = x
  cases x with
  | nil => rfl
  | cons c x =>
      rw [opensAfter, List.getLast?_reverse, List.head?_cons]
      simp only
      cases hc : expectsValue c with
      | true => rfl
      | false =>
          rw [Bool.false_or, if_neg Bool.false_ne_true]
          cases hword : after? "nruter".toList (c :: x) with
          | none =>
              rw [if_neg]
              · rfl
              · intro hsuffix
                obtain ⟨rest, hrest⟩ := List.isPrefixOf_iff_prefix.1 hsuffix
                rw [List.reverse_reverse] at hrest
                have hfound : after? "nruter".toList (c :: x) = some rest :=
                  after?_eq_some_iff.2 hrest.symm
                rw [hfound] at hword
                cases hword
          | some rest =>
              have hx := after?_eq_some_iff.1 hword
              have hlength : "return".toList.length = 6 := rfl
              have hreverse : (c :: x).reverse = rest.reverse ++ "return".toList := by
                rw [hx, List.reverse_append]
                rfl
              rw [hreverse, if_pos (List.isSuffixOf_iff_suffix.2 (List.suffix_append _ _)),
                minus_eq_ok (by simp), ok_bind, List.length_append, hlength,
                Nat.add_sub_cancel_right, bytesBefore_eq_ok (by simp), ok_bind, List.take_left,
                List.getLast?_reverse]
              rfl

/-- The bytes before a place, last one first, as they stand before what is read there. -/
theorem inExpression_eq (hi : i ≤ b.length) :
    inExpression b i = .ok (Repair.inExpression (b.take i).reverse) := by
  rw [inExpression, bytesBefore_eq_ok hi, ok_bind, dropWhileEnd, opensAfter_reverse]

theorem followsColon_eq (hi : i ≤ b.length) :
    followsColon b i = .ok ((b.take i).reverse.head? == some ':') := by
  by_cases hzero : i = 0
  · rw [followsColon, if_pos hzero, hzero]
    rfl
  · have hpos : 0 < i := Nat.pos_of_ne_zero hzero
    have hbyte : b[i - 1]? = some b[i - 1] := List.getElem?_eq_getElem (by omega)
    rw [followsColon, if_neg hzero, head?_reverse_take hi hpos, minus_eq_ok hpos, ok_bind,
      byteAt_eq_ok hbyte, ok_bind, hbyte]
    rfl

/-- A literal starts at a place as it does in the bytes from there on. -/
theorem skipLiteral_eq (hi : i < b.length) :
    skipLiteral b i = .ok ((literalLength? (b.take i).reverse (b.drop i)).map (i + ·)) := by
  have hdrop := List.drop_eq_getElem_cons hi
  have hbyte : b[i]? = some b[i] := List.getElem?_eq_getElem hi
  have hlast : b[i + 1]? = (b.drop (i + 1)).head? := by rw [List.head?_drop]
  rw [skipLiteral, byteAt_eq_ok hbyte, ok_bind, hdrop, hlast]
  by_cases hline : b[i] = '/' ∧ (b.drop (i + 1)).head? = some '/'
  · obtain ⟨rest, hrest⟩ := List.head?_eq_some_iff.1 hline.2
    have hafter : b.drop (i + 2) = rest := drop_succ_of_drop hrest
    rw [if_pos hline, followsColon_eq hi.le, ok_bind, hline.1, hrest, literalLength?]
    split
    · rfl
    · rw [findFrom_newline (by have := congrArg List.length hrest; simp at this; omega), hafter,
        Option.map_some, Nat.add_assoc]
      rfl
  · rw [if_neg hline]
    by_cases hblock : b[i] = '/' ∧ (b.drop (i + 1)).head? = some '*'
    · obtain ⟨rest, hrest⟩ := List.head?_eq_some_iff.1 hblock.2
      have hafter : b.drop (i + 2) = rest := drop_succ_of_drop hrest
      rw [if_pos hblock, hblock.1, hrest, literalLength?]
      rw [findFrom_mark (by have := congrArg List.length hrest; simp at this; omega), hafter,
        Option.map_some, Nat.add_assoc]
      rfl
    · rw [if_neg hblock, literalLength?_cons]
      · cases hquote : b[i] == '"' || b[i] == '\'' || b[i] == '\x60' with
        | false => rfl
        | true =>
            rw [if_pos rfl, inExpression_eq hi.le, ok_bind, Bool.true_and]
            split
            · rw [stringEnd_eq _ (show i + 1 ≤ b.length from hi), Option.map_some, Nat.add_assoc]
              rfl
            · rfl
      · intro more hslash hmore
        exact hline ⟨hslash, by rw [hmore]; rfl⟩
      · intro more hslash hmore
        exact hblock ⟨hslash, by rw [hmore]; rfl⟩

theorem isTagStart_eq (hi : i < b.length) :
    isTagStart b i = .ok (Repair.isTagStart (b.take i).reverse.head? (b.drop (i + 1))) := by
  have hmay : mayStart b i = .ok (mayFollow (b.take i).reverse.head?) := by
    cases i with
    | zero => rfl
    | succ p =>
        have hbyte : b[p]? = some b[p] := List.getElem?_eq_getElem (by omega)
        rw [head?_reverse_take hi.le (Nat.succ_pos p), mayStart, byteAt_eq_ok hbyte, ok_bind,
          Nat.succ_sub_one, hbyte]
        rfl
  have hlast : b[i + 1]? = (b.drop (i + 1)).head? := by rw [List.head?_drop]
  have hlater : b[i + 2]? = (b.drop (i + 1)).tail.head? := by
    rw [List.tail_drop, List.head?_drop]
  rw [isTagStart, hlast, hlater, hmay]
  cases hrest : b.drop (i + 1) with
  | nil => rfl
  | cons c rest =>
      by_cases hc : c = '/'
      · subst hc
        rw [List.head?_cons, if_pos rfl, List.tail_cons]
        cases rest with
        | nil => rfl
        | cons d rest => rfl
      · rw [List.head?_cons, if_neg (by simpa using hc), Repair.isTagStart]
        · show (if (c.isAlpha || c == '>') = true then _ else _) = _
          cases hstart : c.isAlpha || c == '>' with
          | true => rfl
          | false => rfl
        · exact fun _ _ h => absurd h hc

end Places

/-! ### Tags -/

section Tags

variable {b : List Char} {s : List Char}

/-- The loop over the attributes of a tag reads the bytes from its place on.  The state that they
are read with knows the byte before the place. -/
theorem attributesEnd_eq (d : Nat) {n : Nat} {st : AttributeState} (hpos : 0 < n + d)
    (hle : n + d ≤ b.length) (hprevious : st.previous = b[n + d - 1]?) :
    attributesEnd b (n + d) st.depth st.quote st.significant =
      .ok ((readAttributes st n (b.drop (n + d))).map fun found => (found.1, found.2 + d)) := by
  generalize hx : b.drop (n + d) = x
  induction x generalizing n st with
  | nil =>
      have hend : ¬ n + d < b.length := Nat.not_lt.2 (List.drop_eq_nil_iff.1 hx)
      rw [attributesEnd, dif_neg hend, readAttributes]
      rfl
  | cons c x ih =>
      have hlt : n + d < b.length := by
        by_contra hge
        rw [List.drop_eq_nil_of_le (Nat.not_lt.1 hge)] at hx
        cases hx
      rw [List.drop_eq_getElem_cons hlt] at hx
      obtain ⟨hbyte, hrest⟩ := List.cons.inj hx
      have hnext : n + 1 + d = n + d + 1 := by omega
      -- the byte that has been read stands before the next place
      have hread : (st.step c).previous = b[n + 1 + d - 1]? := by
        rw [hnext, Nat.add_sub_cancel, List.getElem?_eq_getElem hlt, hbyte]
        rfl
      have ih := ih (by omega) (by omega) hread (by rw [hnext]; exact hrest)
      rw [hnext] at ih
      rw [AttributeState.step_quote, AttributeState.step_depth] at ih
      rw [attributesEnd, dif_pos hlt, hbyte, readAttributes]
      cases hquote : st.quote with
      | some q =>
          have hbefore : b[n + d - 1]? = some b[n + d - 1] :=
            List.getElem?_eq_getElem (by omega)
          simp only [hquote, hprevious, hbefore, Option.isSome_some, Bool.true_or, if_true] at ih
          simp only [Option.isNone_some, Bool.false_and, Bool.false_eq_true, if_false]
          rw [← ih, minus_eq_ok hpos, ok_bind, byteAt_eq_ok hbefore, ok_bind]
          cases c == q with
          | false => rfl
          | true => rfl
      | none =>
          simp only [hquote, Option.isSome_none, Bool.false_or] at ih
          simp only [Option.isNone_none, Bool.true_and]
          split
          · rw [← hnext]
            rfl
          · split
            · rfl
            · rw [← ih]
              cases c == '"' || c == '\'' || c == '\x60' with
              | true => rfl
              | false =>
                  cases c == '\x7b' with
                  | true => rfl
                  | false => cases c == '\x7d' <;> rfl

theorem onPlain_isNameChar : OnPlain isNameChar :=
  (((onPlain_isAlphanum.or (onPlain_beq (by decide))).or (onPlain_beq (by decide))).or
    (onPlain_beq (by decide))).or (onPlain_beq (by decide))

/-- A name after a byte of the first 128 is a part of the text. -/
theorem readName_eq {start : Nat} {u : Char} {x : List Char}
    (hx : (bytes s).drop start = u :: x) (hu : u.toNat < 128) :
    readName s (start + 1) =
      .ok (x.takeWhile isNameChar, start + 1 + (x.takeWhile isNameChar).length) := by
  have hstop : runEnd isNameChar (bytes s) (start + 1) =
      start + 1 + (x.takeWhile isNameChar).length := by
    rw [runEnd_eq, drop_succ_of_drop hx]
  obtain ⟨front, back, rfl, rfl, rfl⟩ := exists_parts_of_drop hx hu
  rw [takeWhile_bytes onPlain_isNameChar] at hstop ⊢
  have hstart : (bytes front).length + 1 = byteLength (front ++ [u]) := by
    rw [byteLength_append, byteLength, byteLength, bytes_plain hu]
    rfl
  have hname : (back.takeWhile isNameChar).length = byteLength (back.takeWhile isNameChar) := by
    rw [byteLength_plain]
    intro c hc
    exact onPlain_isNameChar c (List.mem_takeWhile_imp hc)
  have hs : front ++ u :: back =
      (front ++ [u]) ++ (back.takeWhile isNameChar ++ back.dropWhile isNameChar) := by
    rw [List.takeWhile_append_dropWhile, List.append_assoc, List.singleton_append]
  have hpart : part ((bytes front).length + 1)
      ((bytes front).length + 1 + (back.takeWhile isNameChar).length) (front ++ u :: back) =
        .ok (back.takeWhile isNameChar) := by
    rw [hname, hstart, hs]
    exact part_eq_ok (slice?_append _ _ _)
  simp only [readName, hstop, hpart, ok_bind]
  rfl

theorem drop_runEnd (p : Char → Bool) (b : List Char) (j : Nat) :
    b.drop (runEnd p b j) = (b.drop j).dropWhile p := by
  have hsplit : (b.drop j).takeWhile p ++ (b.drop j).dropWhile p = b.drop j :=
    List.takeWhile_append_dropWhile
  rw [runEnd_eq, ← List.drop_drop]
  exact (congrArg (List.drop _) hsplit).symm.trans List.drop_left

theorem closingToken_eq {name x : List Char} {j : Nat} (hx : b.drop j = x) :
    closingToken b name j =
      if (x.dropWhile isPlainBlank).head? = some '>' then
        some ⟨name, .closing, j + (x.takeWhile isPlainBlank).length + 1⟩
      else none := by
  rw [closingToken, ← List.head?_drop, drop_runEnd, runEnd_eq, hx]

/-- The byte before the attributes of a tag is the last one of its name, or its `<`. -/
theorem previous_attributeStart (x : List Char) :
    (attributeStart x).previous = ('<' :: x)[(x.takeWhile isNameChar).length]? := by
  have hsplit : '<' :: x = ('<' :: x.takeWhile isNameChar) ++ x.dropWhile isNameChar := by
    rw [List.cons_append, List.takeWhile_append_dropWhile]
  have hlast := List.getLast?_cons (a := '<') (l := x.takeWhile isNameChar)
  rw [List.getLast?_eq_getElem?, List.length_cons, Nat.add_sub_cancel] at hlast
  rw [hsplit, List.getElem?_append_left (by simp), hlast, attributeStart, Option.or_some]

/-- The closing tag at a place. -/
theorem readTag_slash {start : Nat} {rest : List Char}
    (hx : (bytes s).drop start = '<' :: '/' :: rest) :
    readTag s start =
      .ok ((Tag.read? ('/' :: rest)).map fun t => ⟨t.name, t.kind, start + t.length⟩) := by
  have hafter : (bytes s).drop (start + 1) = '/' :: rest := drop_succ_of_drop hx
  have hnext : (bytes s)[start + 1]? = some '/' := by
    rw [← List.head?_drop, hafter, List.head?_cons]
  have hblanks : (bytes s).drop (start + 2 + (rest.takeWhile isNameChar).length) =
      rest.dropWhile isNameChar := by
    have hrest : (bytes s).drop (start + 2) = rest := drop_succ_of_drop hafter
    rw [← hrest, ← runEnd_eq, drop_runEnd]
  rw [readTag, if_pos hnext, readName_eq hafter (by decide), ok_bind]
  simp only [closingToken_eq hblanks]
  rw [Tag.read?_slash]
  split
  · have hplace : start + 2 + (rest.takeWhile isNameChar).length +
          ((rest.dropWhile isNameChar).takeWhile isPlainBlank).length + 1 =
        start + (3 + (rest.takeWhile isNameChar).length +
          ((rest.dropWhile isNameChar).takeWhile isPlainBlank).length) := by omega
    rw [hplace]
    rfl
  · rfl

/-- The attributes of a tag at a place, which go on after its name. -/
theorem attributesEnd_of_tag {start : Nat} {x : List Char}
    (hx : (bytes s).drop start = '<' :: x) :
    attributesEnd (bytes s) (start + 1 + (x.takeWhile isNameChar).length) 0 none none =
      .ok ((readAttributes (attributeStart x) (1 + (x.takeWhile isNameChar).length)
        (x.dropWhile isNameChar)).map fun found => (found.1, found.2 + start)) := by
  have hplace : 1 + (x.takeWhile isNameChar).length + start =
      start + 1 + (x.takeWhile isNameChar).length := by omega
  have hrest : (bytes s).drop (start + 1 + (x.takeWhile isNameChar).length) =
      x.dropWhile isNameChar := by rw [← drop_succ_of_drop hx, ← runEnd_eq, drop_runEnd]
  have hbefore : (attributeStart x).previous = ('<' :: x)[(x.takeWhile isNameChar).length]? :=
    previous_attributeStart x
  rw [← hx, List.getElem?_drop, Nat.add_comm start] at hbefore
  have hprevious : (attributeStart x).previous =
      (bytes s)[1 + (x.takeWhile isNameChar).length + start - 1]? := by
    rw [hbefore]
    congr 1
    omega
  have hle : 1 + (x.takeWhile isNameChar).length + start ≤ (bytes s).length := by
    have hlength := congrArg List.length hx
    have hname := (List.takeWhile_prefix (l := x) isNameChar).length_le
    rw [List.length_drop, List.length_cons] at hlength
    omega
  have hattributes := attributesEnd_eq start (by omega) hle hprevious
  rwa [hplace, hrest] at hattributes

/-- The tag at a place is the one that is read from the bytes after its `<`. -/
theorem readTag_eq {start : Nat} {x : List Char} (hx : (bytes s).drop start = '<' :: x) :
    readTag s start =
      .ok ((Tag.read? x).map fun t => ⟨t.name, t.kind, start + t.length⟩) := by
  by_cases hslash : x.head? = some '/'
  · obtain ⟨rest, rfl⟩ := List.head?_eq_some_iff.1 hslash
    exact readTag_slash hx
  · have hne : ∀ rest, x ≠ '/' :: rest := fun rest h => hslash (h ▸ rfl)
    have hnext : (bytes s)[start + 1]? = x.head? := by
      rw [← drop_succ_of_drop hx, List.head?_drop]
    rw [readTag, hnext, if_neg hslash, readName_eq hx (by decide), ok_bind]
    simp only [attributesEnd_of_tag hx, ok_bind]
    rw [Tag.read?_of_ne_slash hne, Option.map_map, Option.map_map]
    refine congrArg (fun f => Except.ok (Option.map f _)) (funext fun found => ?_)
    show Token.mk _ _ (found.2 + start) = Token.mk _ _ (start + found.2)
    rw [Nat.add_comm]

end Tags

/-! ### Steps -/

section Steps

variable {s : List Char} {c : Cursor}

/-- What stands at the place of a scan, read from the bytes from there on. -/
def found (s : List Char) (c : Cursor) : Finding :=
  Finding.at ((bytes s).take c.position).reverse ((bytes s).drop c.position)

/-- A step goes over what stands at its place, and takes it into account if it is a tag. -/
theorem step_eq (h : c.position < (bytes s).length) :
    step s c = .ok {
      position := c.position + (found s c).length
      tags := (found s c).addTo c.tags (c.position + (found s c).length) } := by
  have hdrop := List.drop_eq_getElem_cons h
  have hbyte : (bytes s)[c.position]? = some (bytes s)[c.position] := List.getElem?_eq_getElem h
  rw [step, skipLiteral_eq h, ok_bind, found]
  cases hliteral : literalLength? ((bytes s).take c.position).reverse
      ((bytes s).drop c.position) with
  | some n =>
      rw [Finding.at_of_literalLength? hliteral]
      rfl
  | none =>
      rw [Option.map_none, byteAt_eq_ok hbyte, ok_bind]
      by_cases hlt : (bytes s)[c.position] = '<'
      · rw [hlt] at hdrop
        rw [hlt, hdrop, isTagStart_eq h, ok_bind, Finding.at, literalLength?_lt]
        simp only [beq_self_eq_true, if_true]
        split
        · rw [readTag_eq hdrop, ok_bind]
          cases Tag.read? ((bytes s).drop (c.position + 1)) with
          | none => rfl
          | some t =>
              show Except.ok (c.take ⟨t.name, t.kind, c.position + t.length⟩) = _
              rw [Cursor.take, Nat.add_sub_cancel_left]
              rfl
        · rfl
      · rw [hdrop] at hliteral ⊢
        rw [if_neg (by simpa using hlt), Finding.at_of_ne_lt _ hlt, hliteral]
        rfl

/-- What is found takes at least one byte and does not go beyond the end. -/
theorem found_length (h : c.position < (bytes s).length) :
    0 < (found s c).length ∧ c.position + (found s c).length ≤ (bytes s).length := by
  have hne : (bytes s).drop c.position ≠ [] := by
    intro hnil
    have hle := List.drop_eq_nil_iff.1 hnil
    omega
  have hle : (found s c).length ≤ ((bytes s).drop c.position).length := Finding.length_le _ hne
  rw [List.length_drop] at hle
  exact ⟨Finding.length_pos _ hne, by omega⟩

/-- From every place within a text a step has no fault, goes on and does not go beyond the end. -/
theorem step_eq_ok (h : c.position < (bytes s).length) :
    ∃ next, step s c = .ok next ∧ c.position < next.position ∧
      next.position ≤ (bytes s).length := by
  obtain ⟨hpos, hle⟩ := found_length h
  exact ⟨_, step_eq h, Nat.lt_add_of_pos_right hpos, hle⟩

/-- A scan that goes on from a place finds what is found in the bytes from there on. -/
theorem run_eq (c : Cursor) (hle : c.position ≤ (bytes s).length) :
    run s c =
      .ok (scanTags ((bytes s).take c.position).reverse c.tags ((bytes s).drop c.position)) := by
  induction hn : (bytes s).length - c.position using Nat.strong_induction_on generalizing c with
  | h n ih =>
      rw [run]
      by_cases hlt : c.position < (bytes s).length
      · obtain ⟨hpos, hnext⟩ := found_length hlt
        have hpassed : passed ((bytes s).take c.position).reverse ((bytes s).drop c.position) =
            ((bytes s).take (c.position + (found s c).length)).reverse := by
          rw [passed, ← List.reverse_append, List.take_add]
          rfl
        have hahead : ahead ((bytes s).take c.position).reverse ((bytes s).drop c.position) =
            (bytes s).drop (c.position + (found s c).length) := List.drop_drop
        have hne : (bytes s).drop c.position ≠ [] := fun h => by
          have hend := List.drop_eq_nil_iff.1 h
          omega
        rw [if_pos hlt, step_eq hlt, ok_bind, if_pos (Nat.lt_add_of_pos_right hpos),
          scanTags_step _ _ hne, hpassed, hahead, List.length_reverse, List.length_take,
          Nat.min_eq_left hnext]
        exact ih _ (by simp only; omega) _ hnext rfl
      · rw [if_neg hlt, List.drop_eq_nil_of_le (Nat.not_lt.1 hlt), scanTags]
        rfl

/-- A scan has no fault, and finds what is found in the bytes of its text. -/
theorem scan_eq_ok (s : List Char) : scan s = .ok (openTags (bytes s)) :=
  run_eq {} (Nat.zero_le _)

/-- A tag that is read has some bytes, all of them within the text. -/
theorem readTag_eq_ok {start : Nat} (hstart : (bytes s)[start]? = some '<') :
    ∃ t?, readTag s start = .ok t? ∧
      ∀ t ∈ t?, start < t.stop ∧ t.stop ≤ (bytes s).length := by
  obtain ⟨hlt, hbyte⟩ := List.getElem?_eq_some_iff.1 hstart
  have hdrop := List.drop_eq_getElem_cons hlt
  rw [hbyte] at hdrop
  refine ⟨_, readTag_eq hdrop, ?_⟩
  intro t ht
  obtain ⟨tag, hread, rfl⟩ := Option.map_eq_some_iff.1 ht
  obtain ⟨front, back, hafter, hlength⟩ := Tag.exists_end_of_read? hread
  have hbytes := congrArg List.length hafter
  rw [List.length_drop, List.length_append, List.length_cons] at hbytes
  constructor
  · show start < start + tag.length
    omega
  · show start + tag.length ≤ (bytes s).length
    omega

end Steps

end StoryMend.Repair.ByteScan
