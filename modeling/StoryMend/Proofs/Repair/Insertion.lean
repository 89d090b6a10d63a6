import Mathlib.Data.List.Forall2
import Mathlib.Logic.Relation
import StoryMend.Proofs.Text.Lines
import StoryMend.Repair.Tags
import StoryMend.Runtime

/-!
What repair may add to a text, and where.  `Insertion` lists the single additions, and
`Extends` is a chain of them.  A chain never loses a character (`Extends.sublist`), never
parts or drops a line (`Extends.linesKept`), and brings in no tag names of its own
(`Extends.knows`).
-/

namespace StoryMend.Repair

open Text

/-- Whether a text stops at the start of a line. -/
def EndsLine (s : List Char) : Prop := s = [] ∨ ∃ front, s = front ++ ['\n']

/-- What follows the start of a line has lines of its own. -/
theorem EndsLine.lines_append {s : List Char} (hs : EndsLine s) (t : List Char) :
    lines (s ++ t) = (lines s).dropLast ++ lines t := by
  rcases hs with rfl | ⟨front, rfl⟩
  · rfl
  · rw [lines_append_newline, List.append_assoc, List.singleton_append, lines_append_newline,
      lines_nil, List.dropLast_concat]

/-- A line that is put at the start of a line is one of the lines then. -/
theorem EndsLine.lines_insert {s line : List Char} (hs : EndsLine s) (hline : '\n' ∉ line)
    (t : List Char) :
    lines (s ++ (line ++ ['\n']) ++ t) = (lines s).dropLast ++ line :: lines t := by
  rw [List.append_assoc, hs.lines_append, List.append_assoc, List.singleton_append,
    lines_append_newline, lines_of_not_mem hline, List.singleton_append]

theorem EndsLine.append {s t : List Char} (hs : EndsLine s) (ht : EndsLine t) :
    EndsLine (s ++ t) := by
  rcases ht with rfl | ⟨front, rfl⟩
  · rwa [List.append_nil]
  · exact Or.inr ⟨s ++ front, by rw [List.append_assoc]⟩

/-- The name of a tag: a stretch of name characters after `<`, somewhere in the text or in
the statement that imports the runtime. -/
def IsTagName (runtime : Option Runtime) (text name : List Char) : Prop :=
  (∀ c ∈ name, isNameChar c = true) ∧
    ('<' :: name <:+: text ∨ ∃ r ∈ runtime, '<' :: name <:+: r.statement.toList)

/-- What may be added within a line, if tags with the given names may be closed. -/
inductive Mark (names : List Char → Prop) : List Char → Prop
  | brace : Mark names ['}']
  | quote : Mark names ['"']
  | apostrophe : Mark names ['\'']
  | semicolon : Mark names [';']
  | closingTag {name : List Char} (hname : names name) : Mark names (closingTag name)

/-- One addition to a text: a mark at any place, a line break at the start of a line or at
the end of the text, or a line with the import of the runtime. -/
inductive Insertion (runtime : Option Runtime) (names : List Char → Prop) :
    List Char → List Char → Prop
  | mark (a b : List Char) {mark : List Char} (hmark : Mark names mark) :
      Insertion runtime names (a ++ b) (a ++ mark ++ b)
  | lineBreak (a b : List Char) (hplace : EndsLine a ∨ b = []) :
      Insertion runtime names (a ++ b) (a ++ ['\n'] ++ b)
  | runtimeLine (a b : List Char) (hplace : EndsLine a) {r : Runtime} (hr : r ∈ runtime) :
      Insertion runtime names (a ++ b) (a ++ (r.statement.toList ++ ['\n']) ++ b)

/-- A text is extended by additions, one after another. -/
def Extends (runtime : Option Runtime) (names : List Char → Prop) :
    List Char → List Char → Prop :=
  Relation.ReflTransGen (Insertion runtime names)

variable {runtime : Option Runtime} {names : List Char → Prop} {s t u : List Char}

namespace Extends

theorem refl (s : List Char) : Extends runtime names s s := Relation.ReflTransGen.refl

theorem single (h : Insertion runtime names s t) : Extends runtime names s t :=
  Relation.ReflTransGen.single h

theorem trans (hst : Extends runtime names s t) (htu : Extends runtime names t u) :
    Extends runtime names s u :=
  Relation.ReflTransGen.trans hst htu

/-- Marks may be added one after another at one place. -/
theorem marks {α : Type} (mark : α → List Char) {l : List α}
    (hmarks : ∀ x ∈ l, Mark names (mark x)) (a b : List Char) :
    Extends runtime names (a ++ b) (a ++ l.flatMap mark ++ b) := by
  induction l generalizing a with
  | nil => simpa using refl (a ++ b)
  | cons x l ih =>
      rw [List.forall_mem_cons] at hmarks
      have hfirst : Extends runtime names (a ++ b) (a ++ mark x ++ b) :=
        single (.mark a b hmarks.1)
      simpa using hfirst.trans (ih hmarks.2 (a ++ mark x))

end Extends

/-! ### Nothing is lost -/

/-- What stands at a place is added to the text around it. -/
theorem sublist_insert (a p b : List Char) : (a ++ b).Sublist (a ++ p ++ b) :=
  (List.sublist_append_left a p).append (List.Sublist.refl b)

theorem Insertion.sublist (h : Insertion runtime names s t) : s.Sublist t := by
  cases h with
  | mark a b _ => exact sublist_insert a _ b
  | lineBreak a b _ => exact sublist_insert a _ b
  | runtimeLine a b _ _ => exact sublist_insert a _ b

/-- No character is lost. -/
theorem Extends.sublist (h : Extends runtime names s t) : s.Sublist t := by
  induction h with
  | refl => exact List.Sublist.refl s
  | tail _ hlast ih => exact ih.trans hlast.sublist

/-- Each of some lines is part of a line of its own among some others, in order. -/
def LinesKept : List (List Char) → List (List Char) → Prop := List.SublistForall₂ List.Sublist

theorem LinesKept.trans {a b c : List (List Char)} (hab : LinesKept a b)
    (hbc : LinesKept b c) : LinesKept a c :=
  IsTrans.trans (r := List.SublistForall₂ List.Sublist) a b c hab hbc

theorem LinesKept.of_sublist {a b : List (List Char)} (h : a.Sublist b) : LinesKept a b :=
  List.sublistForall₂_iff.2 ⟨a, List.forall₂_same.2 fun line _ => List.Sublist.refl line, h⟩

/-- Text without line feeds that is added somewhere only makes a line longer. -/
theorem linesKept_insert {p : List Char} (hp : '\n' ∉ p) (a b : List Char) :
    LinesKept (lines (a ++ b)) (lines (a ++ p ++ b)) := by
  obtain ⟨init, last, ha⟩ := exists_lines_eq_concat a
  obtain ⟨first, rest, hb⟩ := exists_lines_eq_cons b
  have hone : lines p = [] ++ [p] := lines_of_not_mem hp
  have hpb : lines (p ++ b) = (p ++ first) :: rest := lines_append hone hb
  rw [List.append_assoc, lines_append ha hb, lines_append ha hpb]
  have hsame : ∀ ls : List (List Char), List.Forall₂ List.Sublist ls ls :=
    fun ls => List.forall₂_same.2 fun line _ => List.Sublist.refl line
  refine List.sublistForall₂_iff.2 ⟨_, ?_, List.Sublist.refl _⟩
  refine List.rel_append (hsame init) (List.Forall₂.cons ?_ (hsame rest))
  exact (List.Sublist.refl last).append (List.sublist_append_right p first)

/-- Whole lines that are added at the start of a line leave the others as they are. -/
theorem linesKept_insert_lines {a : List Char} (hplace : EndsLine a) (p b : List Char) :
    LinesKept (lines (a ++ b)) (lines (a ++ (p ++ ['\n']) ++ b)) := by
  have hp : p ++ ['\n'] ++ b = p ++ '\n' :: b := by simp
  apply LinesKept.of_sublist
  rw [List.append_assoc, hp, hplace.lines_append, hplace.lines_append, lines_append_newline]
  exact (List.Sublist.refl _).append (List.sublist_append_right _ _)

/-- A mark does not break a line. -/
theorem Mark.newline_not_mem {mark : List Char} (hmark : Mark names mark)
    (hnames : ∀ name, names name → '\n' ∉ name) : '\n' ∉ mark := by
  cases hmark with
  | closingTag hname => simp [Repair.closingTag, hnames _ hname]
  | _ => decide

theorem Insertion.linesKept (hnames : ∀ name, names name → '\n' ∉ name)
    (h : Insertion runtime names s t) : LinesKept (lines s) (lines t) := by
  cases h with
  | mark a b hmark => exact linesKept_insert (hmark.newline_not_mem hnames) a b
  | lineBreak a b hplace =>
      rcases hplace with hplace | rfl
      · exact linesKept_insert_lines hplace [] b
      · apply LinesKept.of_sublist
        rw [List.append_nil, List.append_nil, lines_append_newline]
        exact List.sublist_append_left _ _
  | runtimeLine a b hplace _ => exact linesKept_insert_lines hplace _ b

/-- No line is parted or dropped. -/
theorem Extends.linesKept (hnames : ∀ name, names name → '\n' ∉ name)
    (h : Extends runtime names s t) : LinesKept (lines s) (lines t) := by
  induction h with
  | refl => exact LinesKept.of_sublist (List.Sublist.refl _)
  | tail _ hlast ih => exact ih.trans (hlast.linesKept hnames)

/-! ### No tag name is new -/

/-- A stretch of a text that lacks a character of the text stands before it or after it. -/
theorem infix_of_infix_append_cons {x a b : List Char} {c : Char} (hc : c ∉ x)
    (h : x <:+: a ++ c :: b) : x <:+: a ∨ x <:+: b := by
  rcases List.infix_append_iff.1 h with h | h | ⟨x₁, x₂, rfl, hx₁, hx₂⟩
  · exact Or.inl h
  · rcases List.infix_cons_iff.1 h with h | h
    · cases x with
      | nil => exact Or.inl (List.nil_infix)
      | cons d x =>
          obtain ⟨rfl, -⟩ := List.cons_prefix_cons.1 h
          exact absurd List.mem_cons_self hc
    · exact Or.inr h
  · cases x₂ with
    | nil => exact Or.inl (by simpa using hx₁.isInfix)
    | cons d x₂ =>
        obtain ⟨rfl, -⟩ := List.cons_prefix_cons.1 hx₂
        simp at hc

/-- All tag names of a text are names in a given text, or in the statement that imports the
runtime. -/
def Knows (runtime : Option Runtime) (text s : List Char) : Prop :=
  ∀ name : List Char, (∀ c ∈ name, isNameChar c = true) → '<' :: name <:+: s →
    IsTagName runtime text name

theorem Knows.self (s : List Char) : Knows runtime s s :=
  fun _ hname hs => ⟨hname, Or.inl hs⟩

variable {text : List Char}

/-- What has no name character is no part of what follows `<`. -/
theorem not_mem_opening {name : List Char} (hname : ∀ c ∈ name, isNameChar c = true) {c : Char}
    (hc : isNameChar c = false) (hlt : c ≠ '<') : c ∉ '<' :: name := by
  intro hmem
  rcases List.mem_cons.1 hmem with rfl | hmem
  · exact hlt rfl
  · rw [hname c hmem] at hc
    cases hc

/-- Where there is a tag, there is a `<`. -/
theorem IsTagName.nil {name : List Char} (h : IsTagName runtime text name) :
    IsTagName runtime text [] := by
  have hopening : ['<'] <:+: '<' :: name := ⟨[], name, rfl⟩
  refine ⟨by simp, h.2.imp hopening.trans ?_⟩
  rintro ⟨r, hr, hname⟩
  exact ⟨r, hr, hopening.trans hname⟩

/-- A tag name of a text to which a tag has been added that closes another one. -/
theorem Knows.insert_closingTag {a b n : List Char} (hknows : Knows runtime text (a ++ b))
    (hn : IsTagName runtime text n) : Knows runtime text (a ++ closingTag n ++ b) := by
  intro name hname ht
  have hsplit : a ++ closingTag n ++ b = (a ++ ['<']) ++ '/' :: (n ++ '>' :: b) := by
    simp [closingTag]
  rw [hsplit] at ht
  rcases infix_of_infix_append_cons (not_mem_opening hname rfl (by decide)) ht with ht | ht
  · rcases List.infix_concat_iff.1 ht with hsuffix | ht
    · -- The stretch ends with the `<` of the added tag, so no name follows its own.
      rcases List.eq_nil_or_concat name with rfl | ⟨front, c, rfl⟩
      · exact hn.nil
      · rw [List.concat_eq_append] at hsuffix hname
        obtain ⟨before, hbefore⟩ := hsuffix
        rw [← List.cons_append, ← List.append_assoc] at hbefore
        obtain ⟨-, hc⟩ := List.append_inj' hbefore rfl
        have hlast := hname c (by simp)
        simp only [List.cons.injEq, and_true] at hc
        rw [hc] at hlast
        exact absurd hlast (by decide)
    · exact hknows name hname (ht.trans (List.prefix_append _ _).isInfix)
  · rcases infix_of_infix_append_cons (not_mem_opening hname rfl (by decide)) ht with ht | ht
    · have hlt : isNameChar '<' = true := hn.1 '<' (ht.subset List.mem_cons_self)
      exact absurd hlt (by decide)
    · exact hknows name hname (ht.trans (List.suffix_append _ _).isInfix)

/-- A tag name of a text to which a character has been added that parts names. -/
theorem Knows.insert_char {a b : List Char} {c : Char} (hknows : Knows runtime text (a ++ b))
    (hc : isNameChar c = false) (hlt : c ≠ '<') : Knows runtime text (a ++ [c] ++ b) := by
  intro name hname ht
  rw [List.append_assoc, List.singleton_append] at ht
  rcases infix_of_infix_append_cons (not_mem_opening hname hc hlt) ht with ht | ht
  · exact hknows name hname (ht.trans (List.prefix_append _ _).isInfix)
  · exact hknows name hname (ht.trans (List.suffix_append _ _).isInfix)

/-- A tag name of a text to which the import of the runtime has been added. -/
theorem Knows.insert_runtimeLine {a b : List Char} {r : Runtime} (hr : r ∈ runtime)
    (hplace : EndsLine a) (hknows : Knows runtime text (a ++ b)) :
    Knows runtime text (a ++ (r.statement.toList ++ ['\n']) ++ b) := by
  intro name hname ht
  have hparts : ∀ {a b : List Char}, '<' :: name <:+: a ++ '\n' :: b →
      '<' :: name <:+: a ∨ '<' :: name <:+: b :=
    infix_of_infix_append_cons (not_mem_opening hname rfl (by decide))
  have hsplit : a ++ (r.statement.toList ++ ['\n']) ++ b =
      (a ++ r.statement.toList) ++ '\n' :: b := by simp
  rw [hsplit] at ht
  rcases hparts ht with ht | ht
  · rcases hplace with rfl | ⟨front, rfl⟩
    · exact ⟨hname, Or.inr ⟨r, hr, ht⟩⟩
    · rw [List.append_assoc, List.singleton_append] at ht
      rcases hparts ht with ht | ht
      · refine hknows name hname (ht.trans ?_)
        rw [List.append_assoc]
        exact (List.prefix_append _ _).isInfix
      · exact ⟨hname, Or.inr ⟨r, hr, ht⟩⟩
  · exact hknows name hname (ht.trans (List.suffix_append _ _).isInfix)

/-- An addition brings no new tag name. -/
theorem Insertion.knows (h : Insertion runtime (IsTagName runtime text) s t)
    (hknows : Knows runtime text s) : Knows runtime text t := by
  cases h with
  | mark a b hmark =>
      cases hmark with
      | closingTag hn => exact hknows.insert_closingTag hn
      | _ => exact hknows.insert_char rfl (by decide)
  | lineBreak a b _ => exact hknows.insert_char rfl (by decide)
  | runtimeLine a b hplace hr => exact hknows.insert_runtimeLine hr hplace

/-- Additions bring no new tag name. -/
theorem Extends.knows (h : Extends runtime (IsTagName runtime text) s t)
    (hknows : Knows runtime text s) : Knows runtime text t := by
  induction h with
  | refl => exact hknows
  | tail _ hlast ih => exact hlast.knows ih

end StoryMend.Repair
