import Mathlib
import StoryMend.Proofs.Repair.TagTokens

/-!
Markup in which every tag is closed.  A scan of an element opens and closes its tags and leaves
open what was open before, or some of it: where the text before an opening tag keeps it from
being one, its closing tag is passed over or closes a tag around it (`Element.scan_source`).  So
nothing is open after an element on its own (`Element.reconcileTags_eq_source`), unless a scan
takes a part of it for something else: text for a comment or a string that goes on to the tag
after it (`unclosedTags_text_iff`), the end of a value for an escaped quote, or a part of a name
for attributes.
-/

namespace StoryMend.Repair

open Text

/-! ### Trees and their text -/

/-- Whether a character may be part of the text between tags. -/
def isMarkupChar (c : Char) : Bool := c != '<' && c != '>' && c != '\x7b' && c != '\x7d'

/-- Whether a character may be part of a name of an element. -/
def isMarkupNameChar (c : Char) : Bool := isWordChar c || "$.-:".toList.contains c

structure MarkupText where
  chars : List Char
  isMarkupChar_of_mem : ∀ c ∈ chars, isMarkupChar c = true

/-- A letter and what may come after it in a name, a dot among it. -/
structure MarkupName where
  first : Char
  more : List Char
  first_letter : isAlphanumeric first = true ∧ first.isDigit = false
  isMarkupNameChar_of_mem : ∀ c ∈ more, isMarkupNameChar c = true

mutual

inductive Element where
  | fragment (content : Content)
  | empty (name : MarkupName) (attributes : Attributes QuotedValue)
  | element (name : MarkupName) (attributes : Attributes QuotedValue) (content : Content)

/-- Text and elements in turn. -/
inductive Content where
  | text (text : MarkupText)
  | child (text : MarkupText) (child : Element) (rest : Content)

end

def MarkupName.chars (name : MarkupName) : List Char := name.first :: name.more

def openingTag (name : MarkupName) (attributes : Attributes QuotedValue) : List Char :=
  '<' :: (name.chars ++ attributes.source QuotedValue.source ++ ['>'])

def selfClosingTag (name : MarkupName) (attributes : Attributes QuotedValue) : List Char :=
  '<' :: (name.chars ++ attributes.source QuotedValue.source ++ ['/', '>'])

mutual

/-- The text of an element: each opening tag has its closing tag. -/
def Element.source : Element → List Char
  | .fragment content => ['<', '>'] ++ content.source ++ closingTag []
  | .empty name attributes => selfClosingTag name attributes
  | .element name attributes content =>
      openingTag name attributes ++ content.source ++ closingTag name.chars

def Content.source : Content → List Char
  | .text text => text.chars
  | .child text child rest => text.chars ++ child.source ++ rest.source

end

/-! ### What a scan reads as it is meant -/

/-- Whether the values of a tag are read as such.  Where the tag does not count as one they are
read as strings, so they must end in their line. -/
structure HasReadableValues (follows : Bool) (a : Attributes QuotedValue) : Prop where
  ends : ∀ item ∈ a.items, item.2.Ends
  oneLine : follows = false → ∀ item ∈ a.items, '\n' ∉ item.2.chars

/-- Whether text between tags does not end in what a scan takes for a comment or a string. -/
def MarkupText.IsReadable (t : MarkupText) : Prop := endsInLiteral ['>'] t.chars = false

mutual

/-- Whether an element is read as it is meant, told whether a tag may follow what stands before
it. -/
def Element.IsReadable (follows : Bool) : Element → Prop
  | .fragment content => content.IsReadable
  | .empty name attributes => IsElementName name.chars ∧ HasReadableValues follows attributes
  | .element name attributes content =>
      IsElementName name.chars ∧ HasReadableValues follows attributes ∧ content.IsReadable

def Content.IsReadable : Content → Prop
  | .text text => text.IsReadable
  | .child text child rest =>
      text.IsReadable ∧ child.IsReadable (mayFollow text.chars.getLast?) ∧ rest.IsReadable

end

/-! ### Text in a scan -/

/-- Whether a scan goes over a text whatever comes after it, and what it knows then. -/
def ScansTo (before : List Char) (o : OpenTags) (w : List Char) (o' : OpenTags) : Prop :=
  ∀ x, scanTags before o (w ++ x) = scanTags (w.reverse ++ before) o' x

/-- Whether a scan goes over a text and finds no tag, whatever comes before and after it. -/
def IsPassedOver (w : List Char) : Prop := ∀ before o, ScansTo before o w o

section Passed

variable {a b w : List Char}

theorem isPassedOver_plain (hw : ∀ c ∈ w, startsNothing c = true) : IsPassedOver w :=
  fun before o x => scanTags_append_of_startsNothing hw before o x

theorem IsPassedOver.append (ha : IsPassedOver a) (hb : IsPassedOver b) :
    IsPassedOver (a ++ b) := by
  intro before o x
  rw [List.append_assoc, ha, hb, List.reverse_append, List.append_assoc]

theorem isPassedOver_flatMap {α : Type} {f : α → List Char} {l : List α}
    (h : ∀ x ∈ l, IsPassedOver (f x)) : IsPassedOver (l.flatMap f) := by
  induction l with
  | nil => exact fun _ _ _ => rfl
  | cons x l ih =>
      rw [List.forall_mem_cons] at h
      exact h.1.append (ih h.2)

theorem startsNothing_of_isTagPlain {c : Char} (hc : isTagPlain c = true) :
    startsNothing c = true := by
  simp only [isTagPlain, isAttributePlain, Bool.and_eq_true] at hc
  simp [startsNothing, hc]

theorem startsNothing_of_isNameChar {c : Char} (hc : isNameChar c = true) :
    startsNothing c = true := by
  by_contra hnot
  rw [Bool.not_eq_true] at hnot
  simp only [startsNothing, Bool.and_eq_false_iff, bne_eq_false_iff_eq] at hnot
  rcases hnot with (((rfl | rfl) | rfl) | rfl) | rfl <;> cases hc

/-- A string ends at the quote that closes a value. -/
theorem stringLength_quoted {q : Char} (hq : q ≠ '\\') {s : List Char} (hquote : q ∉ s)
    (hline : '\n' ∉ s) (hlast : s.getLast? ≠ some '\\') (x : List Char) :
    stringLength q (s ++ q :: x) = s.length + 1 := by
  fun_induction stringEnds q s with
  | case1 =>
      rw [List.nil_append, stringLength_cons hq]
      simp
  | case2 c rest ih =>
      simp only [List.mem_cons, not_or] at hquote hline
      have hmore : rest.getLast? ≠ some '\\' := by
        intro hrest
        exact hlast (by rw [List.getLast?_cons, List.getLast?_cons, hrest]; rfl)
      rw [List.cons_append, List.cons_append, stringLength, ih hquote.2.2 hline.2.2 hmore]
      simp only [List.length_cons]
      omega
  | case3 c rest hne ih =>
      simp only [List.mem_cons, not_or] at hquote hline
      have hslash : c ≠ '\\' := by
        rintro rfl
        cases rest with
        | nil => exact hlast rfl
        | cons d rest => exact hne d rest rfl rfl
      have hmore : rest.getLast? ≠ some '\\' := by
        intro hrest
        exact hlast (by rw [List.getLast?_cons, hrest]; rfl)
      have hmark : (c == q) = false ∧ (c == '\n') = false :=
        ⟨beq_eq_false_iff_ne.2 (Ne.symm hquote.1), beq_eq_false_iff_ne.2 (Ne.symm hline.1)⟩
      rw [List.cons_append, stringLength_cons hslash, hmark.1, hmark.2, ih hquote.2 hline.2 hmore]
      simp only [Bool.false_and, Bool.false_eq_true, ↓reduceIte, List.length_cons]
      omega

/-- A value is a string after an operator. -/
theorem isPassedOver_quoted {v : QuotedValue} (hends : v.Ends) (hline : '\n' ∉ v.chars) :
    IsPassedOver v.source := by
  obtain ⟨q, chars, hq, hmem⟩ := v
  intro before o x
  have hslash : q ≠ '\\' := by rcases hq with rfl | rfl <;> decide
  have hlength : literalLength? ('=' :: before) (q :: (chars ++ [q]) ++ x) =
      some (q :: (chars ++ [q])).length := by
    have hstring : (q == '"' || q == '\'' || q == '\x60') = true := by
      rcases hq with rfl | rfl <;> rfl
    have hvalue : inExpression ('=' :: before) = true := rfl
    have hsplit : chars ++ [q] ++ x = chars ++ q :: x := by simp
    rw [List.cons_append, hsplit, literalLength?_cons _ (by rintro _ rfl; cases hstring)
      (by rintro _ rfl; cases hstring), hstring, hvalue,
      stringLength_quoted hslash hmem hline hends]
    simp
    omega
  calc scanTags before o ('=' :: (q :: (chars ++ [q])) ++ x)
      = scanTags ('=' :: before) o (q :: (chars ++ [q]) ++ x) :=
        isPassedOver_plain (List.forall_mem_singleton.2 rfl) before o _
    _ = scanTags ((q :: (chars ++ [q])).reverse ++ '=' :: before) o x := by
        rw [scanTags_of_literal o (by simp) hlength, List.take_left, List.drop_left]
    _ = scanTags (('=' :: q :: (chars ++ [q])).reverse ++ before) o x := by simp

theorem HasReadableValues.passesOver {a : Attributes QuotedValue} {follows : Bool}
    (h : HasReadableValues follows a) : PassesOver (a.source QuotedValue.source) :=
  passesOver_attributes fun item hitem => passesOver_quoted item.2 (h.ends item hitem)

theorem isPassedOver_attributes {a : Attributes QuotedValue} (h : HasReadableValues false a) :
    IsPassedOver (a.source QuotedValue.source) := by
  refine (isPassedOver_flatMap fun item hitem => ?_).append (isPassedOver_plain fun c hc =>
    startsNothing_of_isTagPlain (isTagPlain_of_isBlank (a.tail_blank c hc)))
  exact (isPassedOver_plain fun c hc =>
    startsNothing_of_isTagPlain (AttributeName.isTagPlain_of_mem hc)).append
      (isPassedOver_quoted (h.ends item hitem) (h.oneLine rfl item hitem))

/-- A tag that cannot be one where it stands is passed over like text. -/
theorem scanTags_of_not_follows {before : List Char} (hfollow : mayFollow before.head? = false)
    {c : Char} (hc : c ≠ '/') (hw : IsPassedOver (c :: w)) (o : OpenTags) :
    ScansTo before o ('<' :: c :: w) o := by
  intro x
  have hstart : isTagStart before.head? (c :: w ++ x) = false := by
    rw [List.cons_append, isTagStart, hfollow, Bool.and_false]
    exact fun _ _ hslash _ => hc hslash
  have hplain : Finding.at before ('<' :: (c :: w ++ x)) = .plain := by
    rw [Finding.at, literalLength?_lt]
    simp only [hstart, Bool.false_eq_true, ↓reduceIte]
  rw [List.cons_append, scanTags_of_plain hplain, hw]
  simp

end Passed

/-! ### Text between tags -/

theorem isOpenLiteral_congr {before before' : List Char} (hhead : before.head? = before'.head?)
    (hexpression : inExpression before = inExpression before') (s : List Char) :
    isOpenLiteral before s = isOpenLiteral before' s := by
  unfold isOpenLiteral
  rw [hhead, hexpression]

/-- How a text after a bracket ends does not depend on what is before the bracket. -/
theorem endsInLiteral_bracket (x y y' s : List Char) :
    endsInLiteral (x ++ '>' :: y) s = endsInLiteral (x ++ '>' :: y') s := by
  generalize hbefore : x ++ '>' :: y = before
  -- Each step takes some of the text along, so `x` grows with it.
  induction before, s using scan_induction generalizing x with
  | nil before => rw [endsInLiteral, endsInLiteral]
  | step before s hs ih =>
      subst hbefore
      have hhead : (x ++ '>' :: y).head? = (x ++ '>' :: y').head? := by
        rw [List.head?_append, List.head?_append]
        rfl
      have hexpression : inExpression (x ++ '>' :: y) = inExpression (x ++ '>' :: y') :=
        inExpression_concat (by decide) ⟨'>', by simp, rfl⟩ y y'
      have hfinding := Finding.at_congr hhead hexpression s
      rw [endsInLiteral_step _ hs, endsInLiteral_step _ hs, isOpenLiteral_congr hhead hexpression]
      have hmore := ih ((s.take (Finding.at (x ++ '>' :: y) s).length).reverse ++ x)
        (by rw [passed, List.append_assoc])
      rw [hmore, passed, ahead, ahead, hfinding, List.append_assoc]

section Untagged

variable {before s : List Char} (hlt : '<' ∉ s)

include hlt

theorem Finding.addTo_of_not_mem (o : OpenTags) (place : Nat) :
    (Finding.at before s).addTo o place = o := by
  cases hfinding : Finding.at before s with
  | tag t =>
      obtain ⟨rest, rfl, -⟩ := Finding.at_eq_tag hfinding
      exact absurd List.mem_cons_self hlt
  | literal n => rfl
  | plain => rfl

theorem not_mem_ahead (before : List Char) : '<' ∉ ahead before s :=
  fun hmem => hlt (List.mem_of_mem_drop hmem)

theorem scanTags_of_not_mem (before : List Char) (o : OpenTags) : scanTags before o s = o := by
  induction before, s using scan_induction with
  | nil before => rw [scanTags]
  | step before s hs ih =>
      rw [scanTags_step before o hs, Finding.addTo_of_not_mem hlt, ih (not_mem_ahead hlt before)]

/-- A scan goes over a text without tags if it does not end in a comment or a string. -/
theorem scanTags_append_of_not_mem {x : List Char} (hmeets : s ≠ [] → Meets s x)
    (hends : endsInLiteral before s = false) (o : OpenTags) :
    scanTags before o (s ++ x) = scanTags (s.reverse ++ before) o x := by
  induction before, s using scan_induction with
  | nil before => rfl
  | step before s hs ih =>
      rw [endsInLiteral_step before hs, Bool.or_eq_false_iff] at hends
      obtain ⟨hfinding, hle⟩ := Finding.at_append hs (hmeets hs) hends.1
        fun rest hrest => absurd (hrest ▸ List.mem_cons_self) hlt
      rw [scanTags_step_append o hs hfinding hle, Finding.addTo_of_not_mem hlt,
        ih (not_mem_ahead hlt before) (Meets.ahead hmeets) hends.2, reverse_ahead_append_passed]

end Untagged

/-- A tag makes no mark with the text before it. -/
theorem meets_of_lt {x : List Char} (hx : x.head? = some '<') (s : List Char) : Meets s x := by
  refine Or.inr fun c hc => ?_
  rw [hx] at hc
  cases hc
  decide

theorem MarkupText.not_mem_chars (t : MarkupText) : '<' ∉ t.chars :=
  fun hmem => absurd (t.isMarkupChar_of_mem '<' hmem) (by decide)

theorem MarkupText.scanTags_chars {t : MarkupText} (h : t.IsReadable) {before x : List Char}
    (hbefore : before.head? = some '>') (hx : x.head? = some '<') (o : OpenTags) :
    scanTags before o (t.chars ++ x) = scanTags (t.chars.reverse ++ before) o x := by
  obtain ⟨y, rfl⟩ := List.head?_eq_some_iff.1 hbefore
  exact scanTags_append_of_not_mem t.not_mem_chars (fun _ => meets_of_lt hx t.chars)
    ((endsInLiteral_bracket [] y [] t.chars).trans h) o

/-- A closing tag becomes a part of the comment or the string that the text before it ends in. -/
theorem MarkupText.scanTags_closing_unseen {t : MarkupText} (h : ¬ t.IsReadable)
    {name before : List Char} (hname : IsElementName name) (hbefore : before.head? = some '>')
    {o : OpenTags} (ho : o.lastEnd ≤ before.length) :
    scanTags before o (t.chars ++ closingTag name) = o := by
  obtain ⟨y, rfl⟩ := List.head?_eq_some_iff.1 hbefore
  rw [IsReadable, Bool.not_eq_false] at h
  have hunseen := scanTags_append_of_endsInLiteral (x := []) ho
    ((endsInLiteral_bracket [] y [] t.chars).trans h) (meets_of_lt rfl t.chars)
    (fun c => isQuiet_of_mem_closingTag hname.1) (by simp [closingTag]) (by simp)
    fun rest hrest _ => absurd (hrest.subset List.mem_cons_self) t.not_mem_chars
  rw [List.append_nil] at hunseen
  rw [hunseen, scanTags_of_not_mem t.not_mem_chars]

/-! ### Elements -/

section Elements

variable {before : List Char} {name : MarkupName} {attributes : Attributes QuotedValue}

/-- What is left of the open names when a name is closed that was opened before them. -/
theorem closeName_isSuffix {name : List Char} {names names' : List (List Char)}
    (h : names' <:+ name :: names) : closeName name names' <:+ names := by
  rcases List.suffix_cons_iff.1 h with rfl | h
  · rw [closeName_cons]
  · unfold closeName
    split
    · exact (List.tail_suffix names').trans h
    · exact h

/-- An opening tag that cannot be one where it stands is text. -/
theorem scanTags_unread (hname : IsElementName name.chars)
    (hread : HasReadableValues false attributes) {w : List Char} (hw : IsPassedOver w)
    (hfollow : mayFollow before.head? = false) (o : OpenTags) :
    ScansTo before o ('<' :: (name.chars ++ attributes.source QuotedValue.source ++ w)) o := by
  have hfirst : name.first ≠ '/' := by
    intro hslash
    have hletter := hname.2 name.first rfl
    rw [hslash] at hletter
    cases hletter
  have hpassed : IsPassedOver (name.chars ++ attributes.source QuotedValue.source ++ w) :=
    ((isPassedOver_plain fun c hc => startsNothing_of_isNameChar (hname.1 c hc)).append
      (isPassedOver_attributes hread)).append hw
  exact scanTags_of_not_follows hfollow hfirst hpassed o

/-- An opening tag opens its name, or nothing where it cannot stand. -/
theorem exists_scanTags_opening (hname : IsElementName name.chars)
    (hread : HasReadableValues (mayFollow before.head?) attributes) (o : OpenTags) :
    ∃ o' : OpenTags, o'.names <:+ name.chars :: o.names ∧
      ScansTo before o (openingTag name attributes) o' := by
  cases hfollow : mayFollow before.head? with
  | true =>
      exact ⟨_, List.suffix_rfl, scanTags_opening (List.cons_ne_nil _ _) hname hread.passesOver
        (attributes.head?_source _) hfollow o⟩
  | false =>
      rw [hfollow] at hread
      exact ⟨o, List.suffix_cons _ _, scanTags_unread hname hread
        (isPassedOver_plain (List.forall_mem_singleton.2 rfl)) hfollow o⟩

/-- A self-closing tag opens nothing. -/
theorem exists_scanTags_empty (hname : IsElementName name.chars)
    (hread : HasReadableValues (mayFollow before.head?) attributes) (o : OpenTags) :
    ∃ o' : OpenTags, o'.names <:+ o.names ∧
      ScansTo before o (selfClosingTag name attributes) o' := by
  cases hfollow : mayFollow before.head? with
  | true =>
      refine ⟨_, ?_, scanTags_selfClosing (List.cons_ne_nil _ _) hname hread.passesOver
        (attributes.head?_source _) hfollow o⟩
      exact List.suffix_rfl
  | false =>
      rw [hfollow] at hread
      have hend : IsPassedOver ['/', '>'] := by
        intro before o x
        have hslash : Finding.at before ('/' :: '>' :: x) = .plain := rfl
        have hbracket : Finding.at ('/' :: before) ('>' :: x) = .plain := rfl
        exact (scanTags_of_plain hslash o).trans (scanTags_of_plain hbracket o)
      exact ⟨o, List.suffix_rfl, scanTags_unread hname hread hend hfollow o⟩

/-- A fragment opens an empty name, or nothing where it cannot stand. -/
theorem exists_scanTags_fragment (before : List Char) (o : OpenTags) :
    ∃ o' : OpenTags, o'.names <:+ [] :: o.names ∧ ScansTo before o ['<', '>'] o' := by
  cases hfollow : mayFollow before.head? with
  | true => exact ⟨_, List.suffix_rfl, scanTags_fragment hfollow o⟩
  | false =>
      exact ⟨o, List.suffix_cons _ _, scanTags_of_not_follows hfollow (by decide)
        (isPassedOver_plain (List.forall_mem_singleton.2 rfl)) o⟩

/-- An element starts and ends with a bracket. -/
theorem Element.source_brackets (e : Element) :
    e.source.head? = some '<' ∧ e.source.reverse.head? = some '>' := by
  cases e <;> simp [Element.source, closingTag, openingTag, selfClosingTag]

/-- A closing tag after a content leaves no more open than was before its opening tag. -/
theorem exists_scanTags_closed {name : List Char} (hname : IsElementName name)
    {opening content : List Char} {o o₁ o₂ : OpenTags} (hopening : ScansTo before o opening o₁)
    (hopened : o₁.names <:+ name :: o.names) (hleft : o₂.names <:+ o₁.names)
    (hcontent : ∀ x, x.head? = some '<' →
      scanTags (opening.reverse ++ before) o₁ (content ++ x) =
        scanTags (content.reverse ++ (opening.reverse ++ before)) o₂ x) :
    ∃ o' : OpenTags, o'.names <:+ o.names ∧
      ScansTo before o (opening ++ content ++ closingTag name) o' := by
  have hclosing := scanTags_closingTag hname (content.reverse ++ (opening.reverse ++ before)) o₂
  generalize hlast : ((closingTag name).reverse ++
    (content.reverse ++ (opening.reverse ++ before))).length = lastEnd at hclosing
  refine ⟨{ names := closeName name o₂.names, lastEnd },
    closeName_isSuffix (hleft.trans hopened), fun x => ?_⟩
  calc scanTags before o (opening ++ content ++ closingTag name ++ x)
      = scanTags before o (opening ++ (content ++ (closingTag name ++ x))) := by
        simp only [List.append_assoc]
    _ = scanTags (content.reverse ++ (opening.reverse ++ before)) o₂ (closingTag name ++ x) := by
        rw [hopening, hcontent _ rfl]
    _ = scanTags ((opening ++ content ++ closingTag name).reverse ++ before)
          { names := closeName name o₂.names, lastEnd } x := by
        rw [hclosing]
        simp only [List.reverse_append, List.append_assoc]

end Elements

mutual

/-- After an element no more is open than before it. -/
theorem Element.scan_source : ∀ (e : Element) (before : List Char),
    e.IsReadable (mayFollow before.head?) → ∀ o : OpenTags,
      ∃ o' : OpenTags, o'.names <:+ o.names ∧ ScansTo before o e.source o'
  | .fragment content, before, h, o => by
      rw [Element.IsReadable] at h
      obtain ⟨o₁, hopened, hopening⟩ := exists_scanTags_fragment before o
      obtain ⟨o₂, hleft, hcontent⟩ := content.scan_source (['>', '<'] ++ before) rfl h o₁
      rw [Element.source]
      exact exists_scanTags_closed ⟨by simp, by simp⟩ hopening hopened hleft hcontent
  | .empty name attributes, before, h, o => by
      rw [Element.IsReadable] at h
      rw [Element.source]
      exact exists_scanTags_empty h.1 h.2 o
  | .element name attributes content, before, h, o => by
      rw [Element.IsReadable] at h
      obtain ⟨o₁, hopened, hopening⟩ := exists_scanTags_opening h.1 h.2.1 o
      obtain ⟨o₂, hleft, hcontent⟩ := content.scan_source
        ((openingTag name attributes).reverse ++ before) (by simp [openingTag]) h.2.2 o₁
      rw [Element.source]
      exact exists_scanTags_closed h.1 hopening hopened hleft hcontent

/-- After the content of an element no more is open than before it. -/
theorem Content.scan_source : ∀ (c : Content) (before : List Char), before.head? = some '>' →
    c.IsReadable → ∀ o : OpenTags, ∃ o' : OpenTags, o'.names <:+ o.names ∧
      ∀ x, x.head? = some '<' →
        scanTags before o (c.source ++ x) = scanTags (c.source.reverse ++ before) o' x
  | .text text, before, hbefore, h, o => by
      rw [Content.IsReadable] at h
      rw [Content.source]
      exact ⟨o, List.suffix_rfl, fun x hx => text.scanTags_chars h hbefore hx o⟩
  | .child text child rest, before, hbefore, h, o => by
      rw [Content.IsReadable] at h
      obtain ⟨htext, hchild, hrest⟩ := h
      have hfollow : mayFollow (text.chars.reverse ++ before).head? =
          mayFollow text.chars.getLast? :=
        mayFollow_append (by rw [hbefore]; rfl) text.chars
      obtain ⟨hstart, hend⟩ := child.source_brackets
      obtain ⟨o₁, hleft, hscan⟩ := child.scan_source (text.chars.reverse ++ before)
        (hfollow ▸ hchild) o
      obtain ⟨o₂, hleft', hscan'⟩ := rest.scan_source
        (child.source.reverse ++ (text.chars.reverse ++ before))
        (by rw [List.head?_append, hend]; rfl) hrest o₁
      refine ⟨o₂, hleft'.trans hleft, fun x hx => ?_⟩
      rw [Content.source, List.append_assoc, List.append_assoc,
        text.scanTags_chars htext hbefore (by rw [List.head?_append, hstart]; rfl), hscan,
        hscan' x hx]
      simp only [List.reverse_append, List.append_assoc]

end

theorem Element.unclosedTags_source {e : Element} (h : e.IsReadable true) :
    unclosedTags e.source = [] := by
  obtain ⟨o, hleft, hscan⟩ := e.scan_source [] h {}
  have hwhole := hscan []
  rw [List.append_nil, scanTags] at hwhole
  rw [unclosedTags, openTags, hwhole, List.suffix_nil.1 hleft, List.reverse_nil]

/-- The closing tag after a text is seen exactly if the text is read as it is meant. -/
theorem unclosedTags_text_iff {name : MarkupName} {attributes : Attributes QuotedValue}
    (hname : IsElementName name.chars) (hread : HasReadableValues true attributes)
    (t : MarkupText) :
    unclosedTags (Element.element name attributes (.text t)).source = [] ↔ t.IsReadable := by
  constructor
  · intro hclosed
    by_contra hends
    have hopening : openTags (Element.element name attributes (.text t)).source =
        scanTags ((openingTag name attributes).reverse ++ [])
          { names := [name.chars]
            lastEnd := ((openingTag name attributes).reverse ++ []).length }
          (t.chars ++ closingTag name.chars) := by
      rw [openTags, Element.source, Content.source, List.append_assoc]
      exact scanTags_opening (List.cons_ne_nil _ _) hname hread.passesOver
        (attributes.head?_source _) rfl {} _
    rw [t.scanTags_closing_unseen hends hname (by simp [openingTag]) (Nat.le_refl _)] at hopening
    rw [unclosedTags, hopening] at hclosed
    cases hclosed
  · intro ht
    refine Element.unclosedTags_source ?_
    rw [Element.IsReadable, Content.IsReadable]
    exact ⟨hname, hread, ht⟩

/-- Nothing is open after an element that is read as it is meant, and it stays as it is. -/
theorem Element.reconcileTags_eq_source {e : Element} (h : e.IsReadable true) :
    unclosedTags e.source = [] ∧ reconcileTags e.source = e.source :=
  ⟨e.unclosedTags_source h, (reconcileTags_eq_self_iff _).2 (e.unclosedTags_source h)⟩

def noText : MarkupText := ⟨[], fun _ h => absurd h List.not_mem_nil⟩

/-- A name that attributes below have. -/
def labelName : AttributeName where
  gap := [' ']
  chars := "label".toList
  gap_ne_nil := List.cons_ne_nil _ _
  gap_blank := List.all_eq_true.1 rfl
  ne_nil := List.cons_ne_nil _ _
  isAttributeChar_of_mem := List.all_eq_true.1 rfl

def cardElement : MarkupName := ⟨'C', "ard".toList, ⟨rfl, rfl⟩, List.all_eq_true.1 rfl⟩

def sectionElement : MarkupName :=
  ⟨'C', "ard.Section".toList, ⟨rfl, rfl⟩, List.all_eq_true.1 rfl⟩

/-- Quotes, slashes and a word before a tag that are what they look like. -/
def plainSection : Element :=
  .element sectionElement
    (.ofItems [(labelName, ⟨'"', "it's".toList, Or.inl rfl, by decide⟩)])
    (.child ⟨"don't stop".toList, List.all_eq_true.1 rfl⟩
      (.empty cardElement ⟨[], [' '], List.all_eq_true.1 rfl⟩)
      (.text ⟨" see https://example.com".toList, List.all_eq_true.1 rfl⟩))

theorem plainSection_closed :
    plainSection.IsReadable true ∧ unclosedTags plainSection.source = [] ∧
      reconcileTags plainSection.source = plainSection.source := by
  have hsection : IsElementName sectionElement.chars := isElementName_cons rfl rfl
  have hcard : IsElementName cardElement.chars := isElementName_cons rfl rfl
  have hends : endsInLiteral ['>'] "don't stop".toList = false ∧
      endsInLiteral ['>'] " see https://example.com".toList = false := by decide +kernel
  have hread : plainSection.IsReadable true := by
    simp only [plainSection, Element.IsReadable, Content.IsReadable]
    refine ⟨hsection, ⟨?_, by simp⟩, hends.1, ⟨hcard, by simp, by simp⟩, hends.2⟩
    exact List.forall_mem_singleton.2 (by rw [QuotedValue.Ends]; decide)
  exact ⟨hread, plainSection.reconcileTags_eq_source hread⟩

/-- An element with attributes and text in it. -/
def textElement (name : MarkupName) (items : List (AttributeName × QuotedValue))
    (text : MarkupText) : Element :=
  .element name (.ofItems items) (.text text)

/-- The text in it ends in what looks like a comment. -/
def commented : Element := textElement cardElement [] ⟨"a // b".toList, List.all_eq_true.1 rfl⟩

/-- Elements that are not read as they are meant: text that ends in a comment or in a string, a
value that ends in a backslash, a name with a dollar sign, and a value of two lines in a tag
that comes after a word. -/
def misread : List Element :=
  [commented,
    textElement cardElement [] ⟨"Note: 'tis".toList, List.all_eq_true.1 rfl⟩,
    .fragment (.child noText
      (textElement cardElement [(labelName, ⟨'"', "C:\\".toList, Or.inl rfl, by decide⟩)]
        noText)
      (.text noText)),
    textElement ⟨'C', "$a".toList, ⟨rfl, rfl⟩, List.all_eq_true.1 rfl⟩ [] noText,
    .element sectionElement (.ofItems []) (.child ⟨['x'], List.all_eq_true.1 rfl⟩
      (textElement cardElement [(labelName, ⟨'"', "\n//".toList, Or.inl rfl, by decide⟩)]
        noText)
      (.text noText))]

theorem not_closed_misread :
    ¬ (unclosedTags commented.source = [] ∧ reconcileTags commented.source = commented.source) ∧
      misread.map (fun e => unclosedTags e.source) =
        [["Card".toList], ["Card".toList], [[]], [['C']], ["Card.Section".toList]] := by
  decide +kernel

end StoryMend.Repair
