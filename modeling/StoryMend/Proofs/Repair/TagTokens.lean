import Mathlib
import StoryMend.Proofs.Repair.Attributes
import StoryMend.Proofs.Repair.Tags

/-!
What a scan makes of tags as they are written.  A text of tags with plain text between them
(`TaggedText`) is scanned tag by tag, whatever the tags are and whether or not they match, so
the names that stay open are those a stack machine on the tags leaves (`openTags_source`).
From that follows where they are closed and what else is added (`reconcileTags_source`).
-/

namespace StoryMend.Repair

open Text

/-! ### Tags in a scan -/

section Written

variable {before name w : List Char}

/-- A name starts a tag, if one may start there. -/
theorem isTagStart_name (hne : name ≠ []) (hname : IsElementName name)
    (hfollow : mayFollow before.head? = true) (x : List Char) :
    isTagStart before.head? (name ++ x) = true := by
  obtain ⟨c, more, rfl⟩ := List.exists_cons_of_ne_nil hne
  have hc : c.isAlpha = true := hname.2 c rfl
  rw [List.cons_append, isTagStart]
  · rw [hc, hfollow]
    rfl
  · rintro _ _ rfl
    cases hc

/-- A tag with a name that is read as it is written is taken into account. -/
theorem scanTags_named (hne : name ≠ []) (hname : IsElementName name)
    (hfollow : mayFollow before.head? = true) {ending x : List Char} {kind : TagKind}
    (hread : Tag.read? (name ++ (w ++ (ending ++ x))) =
      some { name, kind, length := (name ++ w ++ ending).length + 1 }) (o : OpenTags) :
    scanTags before o ('<' :: (name ++ w ++ ending) ++ x) =
      scanTags (('<' :: (name ++ w ++ ending)).reverse ++ before)
        (o.add { name, kind, length := (name ++ w ++ ending).length + 1 }
          (('<' :: (name ++ w ++ ending)).reverse ++ before).length) x := by
  have htext : name ++ w ++ ending ++ x = name ++ (w ++ (ending ++ x)) := by simp
  have hstart : isTagStart before.head? (name ++ w ++ ending ++ x) = true := by
    rw [htext]
    exact isTagStart_name hne hname hfollow _
  exact scanTags_of_tag o hstart (htext ▸ hread) rfl

theorem scanTags_opening (hne : name ≠ []) (hname : IsElementName name) (hw : PassesOver w)
    (hstart : ∀ c ∈ w.head?, isNameChar c = false) (hfollow : mayFollow before.head? = true)
    (o : OpenTags) (x : List Char) :
    scanTags before o ('<' :: (name ++ w ++ ['>']) ++ x) =
      scanTags (('<' :: (name ++ w ++ ['>'])).reverse ++ before)
        { names := name :: o.names
          lastEnd := (('<' :: (name ++ w ++ ['>'])).reverse ++ before).length } x := by
  have hread : Tag.read? (name ++ (w ++ (['>'] ++ x))) =
      some { name, kind := .opening, length := (name ++ w ++ ['>']).length + 1 } := by
    rw [List.singleton_append, (Tag.read?_opening_source hne hname.1 hw hstart x).1]
    simp [Nat.add_assoc]
  exact scanTags_named hne hname hfollow hread o

theorem scanTags_selfClosing (hne : name ≠ []) (hname : IsElementName name) (hw : PassesOver w)
    (hstart : ∀ c ∈ w.head?, isNameChar c = false) (hfollow : mayFollow before.head? = true)
    (o : OpenTags) (x : List Char) :
    scanTags before o ('<' :: (name ++ w ++ ['/', '>']) ++ x) =
      scanTags (('<' :: (name ++ w ++ ['/', '>'])).reverse ++ before)
        { names := o.names
          lastEnd := (('<' :: (name ++ w ++ ['/', '>'])).reverse ++ before).length } x := by
  have hread : Tag.read? (name ++ (w ++ (['/', '>'] ++ x))) =
      some { name, kind := .selfClosing, length := (name ++ w ++ ['/', '>']).length + 1 } := by
    rw [List.cons_append, List.singleton_append,
      (Tag.read?_opening_source hne hname.1 hw hstart x).2]
    simp [Nat.add_assoc]
  exact scanTags_named hne hname hfollow hread o

/-- A fragment is opened by a tag without a name. -/
theorem scanTags_fragment (hfollow : mayFollow before.head? = true) (o : OpenTags)
    (x : List Char) :
    scanTags before o (['<', '>'] ++ x) =
      scanTags (['>', '<'] ++ before)
        { names := [] :: o.names, lastEnd := (['>', '<'] ++ before).length } x := by
  have hstart : isTagStart before.head? (['>'] ++ x) = true := by
    show (('>'.isAlpha || '>' == '>') && mayFollow before.head?) = true
    rw [hfollow]
    rfl
  have hread : Tag.read? (['>'] ++ x) = some { name := [], kind := .opening, length := 2 } := rfl
  exact scanTags_of_tag o hstart hread rfl

end Written

/-! ### Tags as they are written -/

/-- What an attribute is set to. -/
inductive AttributeValue where
  | missing
  | quoted (value : QuotedValue) (ends : value.Ends)
  | braced (value : BracedValue)

/-- A letter, and letters, digits and some marks after it. -/
structure ElementName where
  first : Char
  more : List Char
  first_letter : first.isAlpha = true
  more_plain : ∀ c ∈ more, c.isAlphanum = true ∨ c ∈ ['_', '.', '-', ':']

inductive TagToken where
  | opening (name : ElementName) (attributes : Attributes AttributeValue)
  | selfClosing (name : ElementName) (attributes : Attributes AttributeValue)
  | closing (name : ElementName) (gap : List Char) (gap_blank : ∀ c ∈ gap, isPlainBlank c = true)
  | fragment
  | fragmentEnd

def ElementName.chars (name : ElementName) : List Char := name.first :: name.more

def AttributeValue.source : AttributeValue → List Char
  | .missing => []
  | .quoted v _ => v.source
  | .braced v => v.source

namespace TagToken

/-- The text of a tag. -/
def source : TagToken → List Char
  | .opening name attributes =>
      '<' :: (name.chars ++ attributes.source AttributeValue.source ++ ['>'])
  | .selfClosing name attributes =>
      '<' :: (name.chars ++ attributes.source AttributeValue.source ++ ['/', '>'])
  | .closing name gap _ => '<' :: '/' :: (name.chars ++ gap ++ ['>'])
  | .fragment => ['<', '>']
  | .fragmentEnd => ['<', '/', '>']

/-- Whether a tag is an opening or self-closing one. -/
def opens : TagToken → Bool
  | .opening .. | .selfClosing .. | .fragment => true
  | .closing .. | .fragmentEnd => false

/-- The stack machine: an opening tag is put on the stack, a closing tag takes the top away if
it has its name, and no other tag does anything. -/
def run (stack : List (List Char)) : TagToken → List (List Char)
  | .opening name _ => name.chars :: stack
  | .fragment => [] :: stack
  | .selfClosing .. => stack
  | .closing name .. => pop name.chars stack
  | .fragmentEnd => pop [] stack
where
  pop (name : List Char) : List (List Char) → List (List Char)
    | [] => []
    | top :: stack => if name = top then stack else top :: stack

end TagToken

/-! ### One tag -/

theorem ElementName.ne_nil (name : ElementName) : name.chars ≠ [] := List.cons_ne_nil _ _

theorem ElementName.isElementName (name : ElementName) : IsElementName name.chars := by
  refine isElementName_cons name.first_letter ?_
  rw [List.all_cons, Bool.and_eq_true, List.all_eq_true]
  constructor
  · simp [isNameChar, Char.isAlphanum, name.first_letter]
  · intro c hc
    rcases name.more_plain c hc with hplain | hmark
    · simp [isNameChar, hplain]
    · simp only [List.mem_cons, List.not_mem_nil, or_false] at hmark
      rcases hmark with rfl | rfl | rfl | rfl <;> rfl

theorem AttributeValue.passesOver_source (v : AttributeValue) : PassesOver v.source := by
  cases v with
  | missing => exact passesOver_nil
  | quoted v ends => exact passesOver_quoted v ends
  | braced v => exact passesOver_braced v

theorem TagToken.pop_eq_closeName (name : List Char) (stack : List (List Char)) :
    TagToken.run.pop name stack = closeName name stack := by
  cases stack with
  | nil => rfl
  | cons top stack => simp [TagToken.run.pop, closeName, eq_comm]

/-- A scan of a tag does what the stack machine does. -/
theorem scanTags_token (t : TagToken) {before : List Char}
    (hfollow : t.opens = true → mayFollow before.head? = true) (o : OpenTags) (x : List Char) :
    scanTags before o (t.source ++ x) =
      scanTags (t.source.reverse ++ before)
        { names := t.run o.names, lastEnd := (t.source.reverse ++ before).length } x := by
  cases t with
  | opening name attributes =>
      exact scanTags_opening name.ne_nil name.isElementName
        (passesOver_attributes fun item _ => item.2.passesOver_source)
        (attributes.head?_source _) (hfollow rfl) o x
  | selfClosing name attributes =>
      exact scanTags_selfClosing name.ne_nil name.isElementName
        (passesOver_attributes fun item _ => item.2.passesOver_source)
        (attributes.head?_source _) (hfollow rfl) o x
  | closing name gap gap_blank =>
      have hclosing := scanTags_closing name.isElementName gap_blank
        (fun hnil => absurd hnil name.ne_nil) before o x
      rwa [← TagToken.pop_eq_closeName] at hclosing
  | fragment => exact scanTags_fragment (hfollow rfl) o x
  | fragmentEnd =>
      have hclosing := @scanTags_closing [] [] ⟨by simp, by simp⟩ (by simp) (fun _ => rfl) before
        o x
      rwa [← TagToken.pop_eq_closeName] at hclosing

/-! ### Many tags -/

/-- A tag and the plain text before it.  An opening tag does not come right after a name, a
number or a closing bracket. -/
structure TagPiece where
  text : List Char
  token : TagToken
  text_plain : ∀ c ∈ text, startsNothing c = true
  apart : token.opens = true →
    ∀ c ∈ text.getLast?, c.isAlphanum = false ∧ c ∉ ['_', '$', ')', ']']

/-- Tags with plain text before, between and after them. -/
structure TaggedText where
  pieces : List TagPiece
  tail : List Char
  tail_plain : ∀ c ∈ tail, startsNothing c = true

def TagPiece.source (p : TagPiece) : List Char := p.text ++ p.token.source

namespace TaggedText

variable (t : TaggedText)

/-- The text up to the end of the last tag. -/
def tagged : List Char := t.pieces.flatMap TagPiece.source

def source : List Char := t.tagged ++ t.tail

/-- What the stack machine leaves open, innermost first. -/
def stack : List (List Char) := t.pieces.foldl (fun stack p => p.token.run stack) []

end TaggedText

/-- A tag ends with a bracket, which a tag may follow. -/
theorem TagToken.head?_reverse_source (t : TagToken) (before : List Char) :
    (t.source.reverse ++ before).head? = some '>' := by
  cases t <;> simp [TagToken.source]

/-- Whether a tag may follow a text is told by its end, if one may follow what is before it. -/
theorem mayFollow_append {before : List Char} (hfollow : mayFollow before.head? = true)
    (s : List Char) : mayFollow (s.reverse ++ before).head? = mayFollow s.getLast? := by
  rw [List.head?_append, List.head?_reverse]
  cases s.getLast? with
  | none => exact hfollow
  | some c => rfl

theorem TagPiece.mayFollow_text (p : TagPiece) (hopens : p.token.opens = true) :
    mayFollow p.text.getLast? = true := by
  have hapart := p.apart hopens
  cases hlast : p.text.getLast? with
  | none => rfl
  | some c =>
      obtain ⟨hplain, hmark⟩ := hapart c (by rw [hlast]; exact rfl)
      simp only [List.mem_cons, List.not_mem_nil, or_false, not_or] at hmark
      simp [mayFollow, hplain, hmark]

/-- A scan of tags does what the stack machine does, one tag after the other. -/
theorem scanTags_pieces (pieces : List TagPiece) {before : List Char}
    (hfollow : mayFollow before.head? = true) (names : List (List Char)) (x : List Char) :
    scanTags before { names, lastEnd := before.length } (pieces.flatMap TagPiece.source ++ x) =
      scanTags ((pieces.flatMap TagPiece.source).reverse ++ before)
        { names := pieces.foldl (fun stack p => p.token.run stack) names
          lastEnd := ((pieces.flatMap TagPiece.source).reverse ++ before).length } x := by
  induction pieces generalizing before names with
  | nil => rfl
  | cons p pieces ih =>
      have hopen : p.token.opens = true → mayFollow (p.text.reverse ++ before).head? = true := by
        intro hopens
        rw [mayFollow_append hfollow]
        exact p.mayFollow_text hopens
      have hnext :
          mayFollow (p.token.source.reverse ++ (p.text.reverse ++ before)).head? = true := by
        rw [p.token.head?_reverse_source]
        rfl
      rw [List.flatMap_cons, TagPiece.source, List.append_assoc, List.append_assoc,
        scanTags_append_of_startsNothing p.text_plain, scanTags_token p.token hopen, ih hnext]
      simp only [List.foldl_cons, List.reverse_append, List.append_assoc]

theorem TaggedText.openTags_source (t : TaggedText) :
    openTags t.source = { names := t.stack, lastEnd := t.tagged.length } := by
  have hscan := @scanTags_pieces t.pieces [] rfl [] t.tail
  rw [scanTags_of_startsNothing t.tail_plain, List.append_nil, List.length_reverse] at hscan
  exact hscan

/-- The text with the tags closed that the stack machine leaves open, the innermost first;
they stand after the last tag, and a line break comes between them and what follows. -/
def TaggedText.closedBetween (t : TaggedText) (front back : List Char) : List Char :=
  t.tagged ++ front ++ t.stack.flatMap closingTag ++
    (if isBlankText back = true then [] else ['\n']) ++ back

/-- The tags that stay open are those the stack machine leaves open.  If there are any they are
closed at one place after the last tag; if braces are open then, these are closed at the end. -/
theorem TaggedText.reconcileTags_source (t : TaggedText) :
    unclosedTags t.source = t.stack.reverse ∧
      (t.stack = [] → reconcileTags t.source = t.source) ∧
      (t.stack ≠ [] → ∃ front back, t.tail = front ++ back ∧
        reconcileTags t.source =
          t.closedBetween front back ++ statementEnd (t.closedBetween front back)) := by
  have hnames : (openTags t.source).names = t.stack := by rw [t.openTags_source]
  have hunclosed : unclosedTags t.source = t.stack.reverse := by rw [unclosedTags, hnames]
  refine ⟨hunclosed, fun hnone => ?_, fun hsome => ?_⟩
  · exact (reconcileTags_eq_self_iff _).2 (by rw [hunclosed, hnone]; rfl)
  · rw [← hnames] at hsome
    have hle := (lastEnd_le_length_beforeClosers hsome).2
    rw [t.openTags_source] at hle
    have hsplit := beforeClosers_append_afterClosers t.source
    -- The closing tags come after the last tag, so within the text at the end.
    obtain ⟨front, hfront, htail⟩ : ∃ front, beforeClosers t.source = t.tagged ++ front ∧
        t.tail = front ++ afterClosers t.source := by
      rcases List.append_eq_append_iff.1 hsplit with ⟨more, htagged, hafter⟩ | hsplit
      · obtain rfl : more = [] := by
          have hlength := congrArg List.length htagged
          rw [List.length_append] at hlength
          exact List.length_eq_zero_iff.1 (by dsimp only at hle; omega)
        exact ⟨[], by simpa using htagged.symm, by simpa using hafter.symm⟩
      · exact hsplit
    refine ⟨front, afterClosers t.source, htail, ?_⟩
    rw [reconcileTags_of_open hsome, closeStatement_eq, closersEnd_eq, closers, hnames, hfront,
      closedBetween]
    simp only [List.append_assoc]

/-- The name of the tags below. -/
def cardName : ElementName := ⟨'C', "ard".toList, rfl, by simp⟩

/-- An open tag after an open brace and before an export. -/
def cutOff : TaggedText where
  pieces := [{
    text := ['\x7b']
    token := .opening cardName (.ofItems [])
    text_plain := List.all_eq_true.1 rfl
    apart := by simp }]
  tail := '\n' :: "export default x".toList
  tail_plain := List.all_eq_true.1 rfl

/-- The same tag with text in it and closed. -/
def complete : TaggedText where
  pieces := cutOff.pieces ++ [{
    text := "don".toList
    token := .closing cardName [' '] (List.all_eq_true.1 rfl)
    text_plain := List.all_eq_true.1 rfl
    apart := fun h => absurd h Bool.false_ne_true }]
  tail := cutOff.tail
  tail_plain := cutOff.tail_plain

theorem reconcileTags_cutOff :
    (complete.stack = [] ∧ reconcileTags complete.source = complete.source) ∧
      cutOff.stack ≠ [] ∧ ∃ front back, cutOff.tail = front ++ back ∧
        reconcileTags cutOff.source =
          cutOff.closedBetween front back ++ statementEnd (cutOff.closedBetween front back) := by
  have hclosed : complete.stack = [] := rfl
  have hopen : cutOff.stack ≠ [] := List.cons_ne_nil _ _
  exact ⟨⟨hclosed, complete.reconcileTags_source.2.1 hclosed⟩, hopen,
    cutOff.reconcileTags_source.2.2 hopen⟩

/-- More is added than the closing tag, and a closing tag may not hold every blank. -/
theorem not_closersOnly_cutOff :
    (¬ ∃ front back, cutOff.tail = front ++ back ∧
      reconcileTags cutOff.source =
        cutOff.tagged ++ front ++ cutOff.stack.flatMap closingTag ++ back) ∧
      unclosedTags "<Card></Card\u00a0>".toList = ["Card".toList] := by
  have hclosed : reconcileTags cutOff.source = '\x7b' :: "<Card>\n</Card>\n".toList ++
      "export default x\n".toList ++ ['\x7d', ';'] := by cbv
  refine ⟨?_, by cbv⟩
  rintro ⟨front, back, htail, hresult⟩
  have hadded := congrArg List.length (hclosed.symm.trans hresult)
  have hlength := congrArg List.length htail
  have hstack : cutOff.stack.flatMap closingTag = "</Card>".toList := rfl
  have htagged : cutOff.tagged = '\x7b' :: "<Card>".toList := rfl
  rw [hstack, htagged] at hadded
  simp [cutOff] at hadded hlength
  omega

end StoryMend.Repair
