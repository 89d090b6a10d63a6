import StoryMend.Proofs.Repair.TagEnds

/-!
Attributes as they are written, and how a tag is read with them.  Within a tag the reading rests
while no quote and no brace is open; a name, a quoted value and a braced value each bring it to
rest again (`passesOver_quoted`, `passesOver_braced`), so a tag ends at the bracket after its
attributes and not at one within a value (`Tag.read?_opening_source`).
-/

namespace StoryMend.Repair

open Text

/-! ### Attributes as text -/

/-- Whether a character within a tag neither ends it nor opens or closes anything. -/
def isTagPlain (c : Char) : Bool := isAttributePlain c && c != '<' && c != '>' && c != '/'

/-- Whether a character may be part of the name of an attribute. -/
def isAttributeChar (c : Char) : Bool := isTagPlain c && !isBlank c && c != '='

/-- The name of an attribute, with the blanks before it. -/
structure AttributeName where
  gap : List Char
  chars : List Char
  gap_ne_nil : gap ≠ []
  gap_blank : ∀ c ∈ gap, isBlank c = true
  ne_nil : chars ≠ []
  isAttributeChar_of_mem : ∀ c ∈ chars, isAttributeChar c = true

/-- A value between quotes, which holds anything but its quote. -/
structure QuotedValue where
  quote : Char
  chars : List Char
  isQuote : quote = '"' ∨ quote = '\''
  quote_not_mem : quote ∉ chars

/-- A value between braces, which holds no quotes and braces in pairs only. -/
structure BracedValue where
  chars : List Char
  not_quote : ∀ c ∈ chars, c ∉ ['"', '\'', '\x60']
  closing_le_opening : ∀ front, front <+: chars → front.count '}' ≤ front.count '{'
  balanced : chars.count '{' = chars.count '}'

/-- The text of a name. -/
def AttributeName.source (a : AttributeName) : List Char := a.gap ++ a.chars

/-- The text of a value, with the equals sign before it. -/
def QuotedValue.source (v : QuotedValue) : List Char := '=' :: v.quote :: (v.chars ++ [v.quote])

/-- The text of a value, with the equals sign before it. -/
def BracedValue.source (v : BracedValue) : List Char := '=' :: '{' :: (v.chars ++ ['}'])

/-- The attributes of a tag, each with a value, and the blanks after them. -/
structure Attributes (Value : Type) where
  items : List (AttributeName × Value)
  tail : List Char
  tail_blank : ∀ c ∈ tail, isBlank c = true

/-- Attributes with no blanks after them. -/
def Attributes.ofItems {Value : Type} (items : List (AttributeName × Value)) :
    Attributes Value where
  items
  tail := []
  tail_blank := fun _ h => absurd h List.not_mem_nil

/-- The text of attributes, told the text of a value. -/
def Attributes.source {Value : Type} (value : Value → List Char) (a : Attributes Value) :
    List Char :=
  a.items.flatMap (fun item => item.1.source ++ value item.2) ++ a.tail

/-- Whether a value does not escape its closing quote. -/
def QuotedValue.Ends (v : QuotedValue) : Prop := v.chars.getLast? ≠ some '\\'

/-- A blank neither ends a tag nor opens or closes anything in it. -/
theorem isTagPlain_of_isBlank {c : Char} (hc : isBlank c = true) : isTagPlain c = true := by
  have hmark : ∀ d ∈ ['"', '\'', '\x60', '{', '}', '<', '>', '/'], c ≠ d := by
    rintro d hd rfl
    simp only [List.mem_cons, List.not_mem_nil, or_false] at hd
    rcases hd with rfl | rfl | rfl | rfl | rfl | rfl | rfl | rfl <;> cases hc
  simp only [List.forall_mem_cons] at hmark
  simp [isTagPlain, isAttributePlain, hmark]

/-! ### Reading on -/

/-- Whether no quote and no brace is open, and the tag would not close itself here. -/
structure AttributeState.Rests (st : AttributeState) : Prop where
  quote : st.quote = none
  depth : st.depth = 0
  significant : st.significant ≠ some '/'

/-- Whether a tag that is read up to here is read on over a text. -/
def AttributeState.GoesOver (st : AttributeState) (w : List Char) : Prop :=
  ∀ n x, readAttributes st n (w ++ x) =
    readAttributes (w.foldl AttributeState.step st) (n + w.length) x

/-- Whether the reading of a tag rests after a text if it rests before. -/
def PassesOver (w : List Char) : Prop :=
  ∀ st : AttributeState, st.Rests → st.GoesOver w ∧ (w.foldl AttributeState.step st).Rests

namespace AttributeState

variable {st : AttributeState} {a b w : List Char} {c : Char}

theorem goesOver_nil (st : AttributeState) : st.GoesOver [] := fun _ _ => rfl

theorem GoesOver.cons (hc : st.quote = none → st.depth = 0 → c ≠ '>' ∧ c ≠ '<')
    (h : (st.step c).GoesOver w) : st.GoesOver (c :: w) := by
  intro n x
  have hon : readAttributes st n (c :: (w ++ x)) =
      readAttributes (st.step c) (n + 1) (w ++ x) := by
    rw [readAttributes]
    by_cases hrest : st.quote = none ∧ st.depth = 0
    · obtain ⟨hend, hstart⟩ := hc hrest.1 hrest.2
      simp [hrest, hend, hstart]
    · have hopen : (st.quote.isNone && st.depth == 0) = false := by
        simpa using hrest
      simp [hopen]
  rw [List.cons_append, hon, h, List.foldl_cons, List.length_cons, Nat.add_assoc, Nat.add_comm 1]

theorem GoesOver.append (ha : st.GoesOver a)
    (hb : (a.foldl AttributeState.step st).GoesOver b) : st.GoesOver (a ++ b) := by
  intro n x
  rw [List.append_assoc, ha, hb, List.foldl_append, List.length_append, Nat.add_assoc]

/-- Within a quoted value the reading goes on up to the quote. -/
theorem goesOver_of_quote {q : Char} (hq : st.quote = some q) (hw : q ∉ w) :
    st.GoesOver w ∧ (w.foldl step st).quote = some q ∧ (w.foldl step st).depth = st.depth := by
  induction w generalizing st with
  | nil => exact ⟨goesOver_nil st, hq, rfl⟩
  | cons c w ih =>
      rw [List.mem_cons, not_or] at hw
      have hstep : (st.step c).quote = some q := by
        rw [step_quote, hq]
        simp [Ne.symm hw.1]
      have hdepth : (st.step c).depth = st.depth := by
        rw [step_depth, hq]
        rfl
      obtain ⟨hgoes, hquote, hsame⟩ := ih hstep hw.2
      exact ⟨.cons (fun hnone => by simp [hq] at hnone) hgoes, hquote, hsame.trans hdepth⟩

/-- A brace that is read changes how many are open. -/
theorem depth_step (hquote : st.quote = none) (hc : c ∉ ['"', '\'', '\x60'])
    (hclosing : [c].count '}' ≤ st.depth) :
    (st.step c).depth + [c].count '}' = st.depth + [c].count '{' := by
  simp only [List.mem_cons, List.not_mem_nil, or_false, not_or] at hc
  rw [step_depth, hquote]
  by_cases hopen : c = '{'
  · subst hopen
    simp
  · by_cases hclose : c = '}'
    · subst hclose
      simp only [List.count_singleton_self] at hclosing
      simp
      omega
    · simp [hc, hopen, hclose]

/-- Within a braced value the reading goes on up to the brace that closes it. -/
theorem goesOver_of_depth {d : Nat} (hquote : st.quote = none) (hdepth : st.depth = d + 1)
    (hw : ∀ c ∈ w, c ∉ ['"', '\'', '\x60'])
    (hle : ∀ front, front <+: w → front.count '}' ≤ d + front.count '{') :
    st.GoesOver w ∧ (w.foldl step st).quote = none ∧
      (w.foldl step st).depth + w.count '}' = st.depth + w.count '{' := by
  induction w generalizing st d with
  | nil => exact ⟨goesOver_nil st, hquote, rfl⟩
  | cons c w ih =>
      obtain ⟨hc, hrest⟩ := List.forall_mem_cons.1 hw
      have hstep : (st.step c).quote = none := by
        rw [step_quote, hquote]
        simpa [and_assoc] using hc
      have hsplit : ∀ x front, (c :: front).count x = [c].count x + front.count x := by
        intro x front
        rw [← List.singleton_append, List.count_append]
      have hmore : ∀ front, front <+: w → [c].count '}' + front.count '}' ≤
          d + ([c].count '{' + front.count '{') := by
        intro front hfront
        rw [← hsplit, ← hsplit]
        exact hle _ (List.cons_prefix_cons.2 ⟨rfl, hfront⟩)
      -- The first character leaves at least one brace open.
      have hfirst := hmore [] List.nil_prefix
      simp only [List.count_nil, Nat.add_zero] at hfirst
      have hone : [c].count '}' ≤ 1 := List.count_le_length
      have hnext := depth_step hquote hc (hone.trans (by omega))
      obtain ⟨d', hd'⟩ : ∃ d', (st.step c).depth = d' + 1 :=
        ⟨(st.step c).depth - 1, by omega⟩
      obtain ⟨hgoes, hq, hd⟩ := ih hstep hd' hrest fun front hfront => by
        have := hmore front hfront
        omega
      refine ⟨.cons (fun _ hzero => by omega) hgoes, hq, ?_⟩
      rw [hsplit '}' w, hsplit '{' w, List.foldl_cons]
      omega

/-- What is read last is what is significant, blanks left out. -/
theorem significant_foldl_concat (st : AttributeState) (w : List Char)
    (hc : isPlainBlank c = false) : ((w ++ [c]).foldl step st).significant = some c := by
  rw [List.foldl_append, List.foldl_cons, List.foldl_nil, step, hc]
  rfl

/-- What stands between two marks is passed over if the second one closes what the first one
opens. -/
theorem goesOver_between {d : Char} (hc : c ≠ '>' ∧ c ≠ '<')
    (hd : d ≠ '>' ∧ d ≠ '<' ∧ d ≠ '/' ∧ isPlainBlank d = false)
    (hgoes : (st.step c).GoesOver w) (hquote : ((w.foldl step (st.step c)).step d).quote = none)
    (hdepth : ((w.foldl step (st.step c)).step d).depth = 0) :
    st.GoesOver (c :: (w ++ [d])) ∧ ((c :: (w ++ [d])).foldl step st).Rests := by
  obtain ⟨hend, hstart, hslash, hblank⟩ := hd
  have hfold : (c :: (w ++ [d])).foldl step st = (w.foldl step (st.step c)).step d := by
    rw [List.foldl_cons, List.foldl_append]
    rfl
  refine ⟨.cons (fun _ _ => hc) (hgoes.append (.cons (fun _ _ => ⟨hend, hstart⟩)
    (goesOver_nil _))), hfold ▸ hquote, hfold ▸ hdepth, ?_⟩
  rw [← List.cons_append, significant_foldl_concat _ _ hblank]
  exact fun h => hslash (Option.some.inj h)

end AttributeState

/-! ### Attributes are passed over -/

section Passes

variable {a b w : List Char}

theorem passesOver_nil : PassesOver [] := fun st hst => ⟨st.goesOver_nil, hst⟩

theorem PassesOver.append (ha : PassesOver a) (hb : PassesOver b) : PassesOver (a ++ b) := by
  intro st hst
  obtain ⟨hgoes, hrests⟩ := ha st hst
  obtain ⟨hgoes', hrests'⟩ := hb _ hrests
  exact ⟨hgoes.append hgoes', by rwa [List.foldl_append]⟩

theorem passesOver_flatMap {α : Type} {f : α → List Char} {l : List α}
    (h : ∀ x ∈ l, PassesOver (f x)) : PassesOver (l.flatMap f) := by
  induction l with
  | nil => exact passesOver_nil
  | cons x l ih =>
      rw [List.forall_mem_cons] at h
      exact h.1.append (ih h.2)

theorem passesOver_plain (hw : ∀ c ∈ w, isTagPlain c = true) : PassesOver w := by
  induction w with
  | nil => exact passesOver_nil
  | cons c w ih =>
      obtain ⟨hc, hw⟩ := List.forall_mem_cons.1 hw
      simp only [isTagPlain, Bool.and_eq_true, bne_iff_ne] at hc
      obtain ⟨⟨⟨hplain, hstart⟩, hend⟩, hslash⟩ := hc
      refine PassesOver.append (a := [c]) (fun st hst => ⟨?_, ?_⟩) (ih hw)
      · exact .cons (fun _ _ => ⟨hend, hstart⟩) (st.step c).goesOver_nil
      · have hproper : st.IsProper := fun q hq => by rw [hst.quote] at hq; cases hq
        obtain ⟨hquote, hdepth⟩ := AttributeState.step_of_isAttributePlain hproper hplain
        refine ⟨hquote.trans hst.quote, hdepth.trans hst.depth, ?_⟩
        show (if isPlainBlank c then st.significant else some c) ≠ some '/'
        split
        · exact hst.significant
        · exact fun h => hslash (Option.some.inj h)

/-- A quoted value that does not escape its closing quote is passed over. -/
theorem passesOver_quoted (v : QuotedValue) (hv : v.Ends) : PassesOver v.source := by
  obtain ⟨q, chars, hq, hmem⟩ := v
  have hequals : PassesOver ['='] := passesOver_plain (List.forall_mem_singleton.2 rfl)
  refine hequals.append fun st hst => ?_
  have hopen : (st.step q).quote = some q ∧ (st.step q).depth = 0 := by
    rw [AttributeState.step_quote, AttributeState.step_depth, hst.quote, hst.depth]
    rcases hq with rfl | rfl <;> exact ⟨rfl, rfl⟩
  have hmark : (q ≠ '>' ∧ q ≠ '<' ∧ q ≠ '/' ∧ isPlainBlank q = false) ∧ q ≠ '\\' := by
    rcases hq with rfl | rfl <;> decide
  obtain ⟨hgoes, hin, hdepth⟩ := AttributeState.goesOver_of_quote hopen.1 hmem
  have hprevious : (chars.foldl AttributeState.step (st.step q)).previous ≠ some '\\' := by
    rw [← List.foldl_cons, AttributeState.foldl_previous st (List.cons_ne_nil q chars),
      List.getLast?_cons]
    cases hlast : chars.getLast? with
    | none => exact fun h => hmark.2 (Option.some.inj h)
    | some c => exact fun h => hv (hlast.trans h)
  refine AttributeState.goesOver_between ⟨hmark.1.1, hmark.1.2.1⟩ hmark.1 hgoes ?_ ?_
  · rw [AttributeState.step_quote, hin]
    simp [hprevious]
  · rw [AttributeState.step_depth, hin, hdepth, hopen.2]
    rfl

/-- A braced value is passed over. -/
theorem passesOver_braced (v : BracedValue) : PassesOver v.source := by
  obtain ⟨chars, hquote, hle, hbalanced⟩ := v
  have hequals : PassesOver ['='] := passesOver_plain (List.forall_mem_singleton.2 rfl)
  refine hequals.append fun st hst => ?_
  have hopen : (st.step '{').quote = none ∧ (st.step '{').depth = 0 + 1 := by
    rw [AttributeState.step_quote, AttributeState.step_depth, hst.quote, hst.depth]
    exact ⟨rfl, rfl⟩
  obtain ⟨hgoes, hout, hdepth⟩ := AttributeState.goesOver_of_depth hopen.1 hopen.2 hquote
    (by simpa using hle)
  have hlast : (chars.foldl AttributeState.step (st.step '{')).depth = 1 := by omega
  refine AttributeState.goesOver_between (by decide) (by decide) hgoes ?_ ?_
  · rw [AttributeState.step_quote, hout]
    rfl
  · rw [AttributeState.step_depth, hout, hlast]
    rfl

theorem AttributeName.isTagPlain_of_mem {a : AttributeName} {c : Char} (hc : c ∈ a.source) :
    isTagPlain c = true := by
  rcases List.mem_append.1 hc with hc | hc
  · exact isTagPlain_of_isBlank (a.gap_blank c hc)
  · have hchar := a.isAttributeChar_of_mem c hc
    simp only [isAttributeChar, Bool.and_eq_true] at hchar
    exact hchar.1.1

/-- Attributes are passed over if each value is. -/
theorem passesOver_attributes {Value : Type} {value : Value → List Char} {a : Attributes Value}
    (h : ∀ item ∈ a.items, PassesOver (value item.2)) : PassesOver (a.source value) :=
  (passesOver_flatMap fun item hitem =>
    (passesOver_plain fun _ => AttributeName.isTagPlain_of_mem).append (h item hitem)).append
    (passesOver_plain fun c hc => isTagPlain_of_isBlank (a.tail_blank c hc))

/-! ### A name before attributes -/

/-- A blank is no part of a name. -/
theorem isNameChar_of_isBlank {c : Char} (hc : isBlank c = true) : isNameChar c = false := by
  have halpha := isAlphanum_of_isBlank hc
  have hmark : ∀ d ∈ ['_', '.', '-', ':'], c ≠ d := by
    rintro d hd rfl
    simp only [List.mem_cons, List.not_mem_nil, or_false] at hd
    rcases hd with rfl | rfl | rfl | rfl <;> cases hc
  simp only [List.forall_mem_cons] at hmark
  simp [isNameChar, halpha, hmark]

/-- A name ends before the attributes. -/
theorem Attributes.head?_source {Value : Type} (value : Value → List Char)
    (a : Attributes Value) : ∀ c ∈ (a.source value).head?, isNameChar c = false := by
  obtain ⟨items, tail, hblank⟩ := a
  intro c hc
  refine isNameChar_of_isBlank ?_
  cases items with
  | nil => exact hblank c (List.mem_of_head? hc)
  | cons item items =>
      obtain ⟨d, gap, hgap⟩ := List.exists_cons_of_ne_nil item.1.gap_ne_nil
      rw [Attributes.source, List.flatMap_cons, AttributeName.source, hgap] at hc
      obtain rfl : d = c := Option.some.inj hc
      exact item.1.gap_blank d (by rw [hgap]; exact List.mem_cons_self)

/-! ### Whole tags -/

/-- A tag ends at the bracket after its attributes. -/
theorem readAttributes_passes (hw : PassesOver w) {st : AttributeState} (hst : st.Rests)
    (n : Nat) (rest : List Char) :
    readAttributes st n (w ++ '>' :: rest) = some (.opening, n + w.length + 1) ∧
      readAttributes st n (w ++ '/' :: '>' :: rest) = some (.selfClosing, n + w.length + 2) := by
  obtain ⟨hgoes, hquote, hdepth, hsignificant⟩ := hw st hst
  rw [hgoes, hgoes]
  generalize w.foldl AttributeState.step st = st' at hquote hdepth hsignificant ⊢
  constructor
  · rw [readAttributes]
    simp [hquote, hdepth, hsignificant]
  · rw [readAttributes]
    simp only [hquote, hdepth, Option.isNone_none, BEq.rfl, Bool.and_self, Bool.true_and,
      beq_iff_eq, Char.reduceEq, ↓reduceIte]
    rw [readAttributes]
    simp [AttributeState.step, hquote, hdepth, isPlainBlank]

namespace Tag

variable {name : List Char}

theorem read?_of_passesOver (hne : name ≠ []) (hname : ∀ c ∈ name, isNameChar c = true)
    (hstart : ∀ c ∈ w.head?, isNameChar c = false) {back : List Char}
    (hback : ∀ c ∈ back.head?, isNameChar c = false) :
    read? (name ++ (w ++ back)) =
      (readAttributes { previous := name.getLast?.or (some '<') } (1 + name.length)
        (w ++ back)).map fun found => { name := name, kind := found.1, length := found.2 } := by
  have hslash : ∀ rest, name ++ (w ++ back) ≠ '/' :: rest := by
    obtain ⟨c, more, rfl⟩ := List.exists_cons_of_ne_nil hne
    rintro rest heq
    have hc := hname c List.mem_cons_self
    rw [(List.cons.inj heq).1] at hc
    cases hc
  have hstops : (w ++ back).takeWhile isNameChar = [] ∧
      (w ++ back).dropWhile isNameChar = w ++ back := by
    have hhead : ∀ c ∈ (w ++ back).head?, isNameChar c = false := by
      cases w with
      | nil => exact hback
      | cons d w => exact hstart
    cases hwhole : w ++ back with
    | nil => exact ⟨rfl, rfl⟩
    | cons c more =>
        rw [hwhole] at hhead
        have hc := hhead c rfl
        simp [hc]
  rw [read?_of_ne_slash hslash, attributeStart, List.takeWhile_append_of_pos hname,
    List.dropWhile_append_of_pos hname, hstops.1, hstops.2, List.append_nil]

/-- A tag with a name and attributes is read as it is written. -/
theorem read?_opening_source (hne : name ≠ []) (hname : ∀ c ∈ name, isNameChar c = true)
    (hw : PassesOver w) (hstart : ∀ c ∈ w.head?, isNameChar c = false) (rest : List Char) :
    read? (name ++ (w ++ '>' :: rest)) =
        some { name, kind := .opening, length := name.length + w.length + 2 } ∧
      read? (name ++ (w ++ '/' :: '>' :: rest)) =
        some { name, kind := .selfClosing, length := name.length + w.length + 3 } := by
  have hrests : AttributeState.Rests { previous := name.getLast?.or (some '<') } :=
    ⟨rfl, rfl, nofun⟩
  obtain ⟨hopening, hclosing⟩ := readAttributes_passes hw hrests (1 + name.length) rest
  constructor
  · rw [read?_of_passesOver hne hname hstart (by simp; decide), hopening, Option.map_some]
    simp only [Option.some.injEq, mk.injEq, true_and]
    omega
  · rw [read?_of_passesOver hne hname hstart (by simp; decide), hclosing, Option.map_some]
    simp only [Option.some.injEq, mk.injEq, true_and]
    omega

end Tag

end Passes

end StoryMend.Repair
