import StoryMend.Pattern.Reading
import StoryMend.Placeholder
import StoryMend.Proofs.Text.Blank

/-!
The string literals of a placeholder.  A title and a prompt are set between single quotes,
where a reader of the story goes by the rules of the language: a backslash takes the next
character with it, and the first quote that is not taken ends the literal.  `IsIntact`
says that the reader and the skeleton agree on where the literals end; the main statement
tells for which titles and prompts they do.
-/

namespace StoryMend.Placeholder

open Text
open Pattern.ReadM (hexValue?)

/-- Where the reading of a string literal stands. -/
inductive LiteralState where
  /-- Between two characters. -/
  | plain
  /-- After a backslash. -/
  | escape
  /-- In an escape that goes on for so many digits after the next one. -/
  | digits (more : Nat)
  /-- At the start of the number of a code point. -/
  | codePoint
  /-- In braces, with the number so far, if there are digits. -/
  | braces (number : Option Nat)
deriving DecidableEq

namespace LiteralState

/-- Reads a character that does not end the literal. -/
def step : LiteralState → Char → Option LiteralState
  | plain, c =>
    if c = '\\' then some escape else if c = '\n' ∨ c = '\r' then none else some plain
  | escape, c =>
    if c = 'x' then some (digits 1) else if c = 'u' then some codePoint else some plain
  | digits more, c =>
    match hexValue? c, more with
    | none, _ => none
    | some _, 0 => some plain
    | some _, more + 1 => some (digits more)
  | codePoint, c =>
    if c = '{' then some (braces none)
    else if (hexValue? c).isSome then some (digits 2) else none
  | braces number, c =>
    match hexValue? c, number with
    | some d, _ => some (braces (some (16 * number.getD 0 + d)))
    | none, none => none
    | none, some n => if c = '}' ∧ n ≤ 0x10FFFF then some plain else none

/-- Reads a stretch of a literal. -/
def run (s : LiteralState) (body : List Char) : Option LiteralState := body.foldlM step s

/-- What follows the quote that ends a literal; nothing if no quote does. -/
def rest? : LiteralState → List Char → Option (List Char)
  | _, [] => none
  | s, c :: rest =>
    if s = plain ∧ c = '\'' then some rest else (s.step c).bind fun s' => s'.rest? rest

end LiteralState

open LiteralState

/-- The code of some pieces of a skeleton, for a title and a prompt. -/
def code (title prompt : String) (pieces : List Piece) : List Char :=
  pieces.flatMap (Piece.render (escape title.toList) (escape prompt.toList))

/-- What stands between the quotes of a literal, for a title and a prompt. -/
def literalBody (title prompt : String) (parts : List Part) : List Char :=
  parts.flatMap (Part.render (escape title.toList) (escape prompt.toList))

/-- Whether each literal of a story with the title or the prompt in it, when the story is
read from the opening quote on, ends at the quote that the skeleton closes it with. -/
def IsIntact (f : Framework) (title prompt : String) : Prop :=
  ∀ before parts after, skeleton f = before ++ .literal parts :: after →
    plain.rest? ((story f title prompt).toList.drop ((code title prompt before).length + 1)) =
      some (code title prompt after)

/-! ### Reading literals -/

/-- A stretch without quotes is read to its end. -/
theorem LiteralState.rest?_append {body : List Char} (hbody : '\'' ∉ body) (s : LiteralState)
    (tail : List Char) : s.rest? (body ++ tail) = (s.run body).bind (·.rest? tail) := by
  induction body generalizing s with
  | nil => rfl
  | cons c body ih =>
      simp only [List.mem_cons, not_or] at hbody
      have hc : ¬ (s = plain ∧ c = '\'') := fun h => hbody.1 h.2.symm
      rw [List.cons_append, rest?, if_neg hc, run, List.foldlM_cons]
      cases s.step c with
      | none => rfl
      | some s' => exact ih hbody.2 s'

/-- What follows a literal is shorter than the text. -/
theorem LiteralState.length_lt_of_rest? {s : LiteralState} {l rest : List Char}
    (h : s.rest? l = some rest) : rest.length < l.length := by
  induction l generalizing s with
  | nil => cases h
  | cons c l ih =>
      rw [rest?] at h
      split at h
      · obtain rfl := Option.some.inj h
        exact Nat.lt_succ_self _
      · obtain ⟨s', -, hrest⟩ := Option.bind_eq_some_iff.1 h
        exact Nat.lt_succ_of_lt (ih hrest)

/-- A quote ends a literal only between two characters. -/
theorem LiteralState.rest?_quote (s : LiteralState) (after : List Char) :
    s.rest? ('\'' :: after) = some after ↔ s = plain := by
  by_cases hs : s = plain
  · simp [rest?, hs]
  · rw [rest?, if_neg fun h => hs h.1]
    refine iff_of_false (fun h => ?_) hs
    obtain ⟨s', -, hrest⟩ := Option.bind_eq_some_iff.1 h
    exact absurd (length_lt_of_rest? hrest) (Nat.lt_irrefl _)

/-- A stretch without quotes is the inside of a literal exactly if reading it ends between
two characters. -/
theorem rest?_literal {body : List Char} (hbody : '\'' ∉ body) (after : List Char) :
    plain.rest? (body ++ '\'' :: after) = some after ↔ plain.run body = some plain := by
  rw [rest?_append hbody, Option.bind_eq_some_iff]
  simp only [rest?_quote]
  exact ⟨fun ⟨s, hs, hplain⟩ => hplain ▸ hs, fun h => ⟨plain, h, rfl⟩⟩

/-! ### Titles and prompts between quotes -/

/-- Whether a character stands for itself in a literal, unless it is a quote. -/
def isOrdinary (c : Char) : Bool := c != '\\' && !(c == '\n' || c == '\r')

/-- What stands for a character between quotes holds no quotes, and nothing out of the
ordinary but the character itself. -/
theorem mem_escapeQuote {c d : Char} (hd : d ∈ escapeQuote c) :
    d ≠ '\'' ∧ (isOrdinary d = true ∨ d = c) := by
  have hentities : ("&quot;".toList ++ "&#39;".toList).all
      (fun e => e != '\'' && isOrdinary e) = true := rfl
  simp only [List.all_append, Bool.and_eq_true, List.all_eq_true, bne_iff_ne] at hentities
  unfold escapeQuote at hd
  split at hd
  · exact (hentities.1 d hd).imp_right Or.inl
  · split at hd
    · exact (hentities.2 d hd).imp_right Or.inl
    next hquote =>
      obtain rfl := List.mem_singleton.1 hd
      exact ⟨by simpa using hquote, Or.inr rfl⟩

/-- An escaped text holds no quotes, and nothing out of the ordinary but backslashes of the
text. -/
theorem mem_escape {s : List Char} {c : Char} (hc : c ∈ escape s) :
    c ≠ '\'' ∧ (isOrdinary c = true ∨ c = '\\' ∧ c ∈ s) := by
  obtain ⟨d, hd, hcd⟩ := List.mem_flatMap.1 hc
  obtain ⟨hquote, hordinary | rfl⟩ := mem_escapeQuote hcd
  · exact ⟨hquote, Or.inl hordinary⟩
  · refine ⟨hquote, ?_⟩
    rcases mem_join hd with hspace | ⟨piece, hpiece, hmem⟩
    · rw [List.mem_singleton.1 hspace]
      exact Or.inl rfl
    · obtain ⟨line, hline, rfl⟩ := List.mem_map.1 hpiece
      obtain ⟨hs, hbreak⟩ :=
        mem_of_mem_splitWhere (List.mem_filter.1 hline).1 (mem_of_mem_trim hmem)
      simp only [Bool.or_eq_false_iff, beq_eq_false_iff_ne] at hbreak
      by_cases hbackslash : c = '\\'
      · exact Or.inr ⟨hbackslash, hs⟩
      · exact Or.inl (by simp [isOrdinary, hbackslash, hbreak])

/-- A text with nothing out of the ordinary is read through. -/
theorem LiteralState.run_plain {body : List Char} (hbody : body.all isOrdinary = true) :
    plain.run body = some plain := by
  induction body with
  | nil => rfl
  | cons c body ih =>
      rw [List.all_cons, Bool.and_eq_true] at hbody
      have hc : ¬ c = '\\' ∧ ¬ (c = '\n' ∨ c = '\r') := by
        simpa [isOrdinary] using hbody.1
      have hstep : plain.step c = some plain := by
        rw [step, if_neg hc.1, if_neg hc.2]
      rw [run, List.foldlM_cons, hstep]
      exact ih hbody.2

theorem LiteralState.run_append (s : LiteralState) (a b : List Char) :
    s.run (a ++ b) = (s.run a).bind (·.run b) := List.foldlM_append

/-- The start of a tag may stand between two characters or after a backslash. -/
theorem LiteralState.step_tagStart (s : LiteralState) :
    s.step '<' = if s = plain ∨ s = LiteralState.escape then some plain else none := by
  cases s with
  | plain => rfl
  | escape => rfl
  | digits more => cases more <;> rfl
  | codePoint => rfl
  | braces number =>
      cases number with
      | none => rfl
      | some n =>
          have hbrace : '<' ≠ '}' := by decide
          have hdigit : hexValue? '<' = none := rfl
          simp [step, hdigit, hbrace]

/-- A tag is read to its end if it is reached between two characters or after a backslash. -/
theorem LiteralState.run_tag (s : LiteralState) {tag : List Char}
    (htag : tag.all isOrdinary = true) :
    s.run ('<' :: tag) = some plain ↔ s = plain ∨ s = LiteralState.escape := by
  rw [run, List.foldlM_cons, step_tagStart]
  split
  next hs => exact iff_of_true (run_plain htag) hs
  next hs => exact iff_of_false (by simp) hs

/-! ### The literals of the skeletons -/

/-- The literal of a skeleton that holds the prompt. -/
def promptParts (f : Framework) : List Part :=
  if f.usesMarkup then [.fixed "Generated story placeholder for: ", .prompt]
  else [.fixed "<div style=\"padding: 1rem; border: 1px dashed #999;\"><h3>", .title,
    .fixed "</h3><p>Generated story placeholder for: ", .prompt, .fixed "</p></div>"]

/-- A skeleton has literals for the title alone, and one with the prompt. -/
theorem literal_mem_skeleton {f : Framework} {parts : List Part} :
    .literal parts ∈ skeleton f ↔ parts = [.title] ∨ parts = promptParts f := by
  cases f with
  | react =>
      have htwice : ∀ p q : Prop, p ∨ q ∨ p ↔ p ∨ q := fun p q => by tauto
      simp [skeleton, markupSkeleton, promptParts, Framework.usesMarkup, htwice]
  | _ =>
      simp [skeleton, templateSkeleton, pageSkeleton, plainStart, page, promptParts,
        Framework.usesMarkup]

/-- The fixed texts of a skeleton have no quotes that end a literal. -/
theorem quote_not_mem_literalBody {f : Framework} {parts : List Part}
    (hparts : .literal parts ∈ skeleton f) (title prompt : String) :
    '\'' ∉ literalBody title prompt parts := by
  have hescape : ∀ s : List Char, '\'' ∉ escape s := fun s hmem => (mem_escape hmem).1 rfl
  rcases literal_mem_skeleton.1 hparts with rfl | rfl
  · simp [literalBody, Part.render, hescape]
  · unfold promptParts
    split <;> simp [literalBody, Part.render, hescape]

/-- What stands in a story after the opening quote of a literal. -/
theorem drop_toList_story {f : Framework} {before after : List Piece} {parts : List Part}
    (hsplit : skeleton f = before ++ .literal parts :: after) (title prompt : String) :
    (story f title prompt).toList.drop ((code title prompt before).length + 1) =
      literalBody title prompt parts ++ '\'' :: code title prompt after := by
  have hstory : (story f title prompt).toList = code title prompt before ++ '\'' ::
      (literalBody title prompt parts ++ '\'' :: code title prompt after) := by
    simp [story, hsplit, code, literalBody, Piece.render]
  rw [hstory, ← List.drop_drop, List.drop_left]
  rfl

/-- A story is intact if what stands between the quotes of its literals is read to an end. -/
theorem isIntact_iff_run {f : Framework} {title prompt : String} :
    IsIntact f title prompt ↔ ∀ parts, .literal parts ∈ skeleton f →
      plain.run (literalBody title prompt parts) = some plain := by
  constructor
  · intro h parts hparts
    obtain ⟨before, after, hsplit⟩ := List.append_of_mem hparts
    have hquote := h before parts after hsplit
    rw [drop_toList_story hsplit] at hquote
    exact (rest?_literal (quote_not_mem_literalBody hparts title prompt) _).1 hquote
  · intro h before parts after hsplit
    have hparts : .literal parts ∈ skeleton f := by simp [hsplit]
    rw [drop_toList_story hsplit]
    exact (rest?_literal (quote_not_mem_literalBody hparts title prompt) _).2 (h parts hparts)

/-- The literal with the prompt is read to an end, if the title is. -/
theorem run_promptParts {f : Framework} {title prompt : String}
    (htitle : plain.run (escape title.toList) = some plain) :
    plain.run (literalBody title prompt (promptParts f)) = some plain ↔
      plain.run (escape prompt.toList) = some plain ∨
        f.usesMarkup = false ∧ plain.run (escape prompt.toList) = some LiteralState.escape := by
  cases hmarkup : f.usesMarkup with
  | true =>
      have hfixed : plain.run "Generated story placeholder for: ".toList = some plain :=
        run_plain rfl
      simp only [literalBody, promptParts, hmarkup, if_true, List.flatMap_cons, Part.render,
        List.flatMap_nil, List.append_nil, run_append, hfixed, Option.bind_some]
      simp
  | false =>
      have hstart : plain.run
          "<div style=\"padding: 1rem; border: 1px dashed #999;\"><h3>".toList = some plain :=
        run_plain rfl
      have hmiddle : plain.run
          "</h3><p>Generated story placeholder for: ".toList = some plain :=
        run_plain rfl
      have hend : ∀ s : LiteralState, s.run "</p></div>".toList = some plain ↔
          s = plain ∨ s = LiteralState.escape :=
        fun s => s.run_tag rfl
      simp only [literalBody, promptParts, hmarkup, Bool.false_eq_true, if_false,
        List.flatMap_cons, Part.render, List.flatMap_nil, List.append_nil, run_append, hstart,
        htitle, hmiddle, Option.bind_some, Option.bind_eq_some_iff, hend]
      simp [and_or_left, exists_or]

/-- A story is intact exactly if the title and the prompt, as they are escaped, are read to
an end as the inside of a literal; without markup a prompt may also end with a backslash
that takes the start of a tag. -/
theorem isIntact_iff (f : Framework) (title prompt : String) :
    IsIntact f title prompt ↔
      plain.run (escape title.toList) = some plain ∧
        (plain.run (escape prompt.toList) = some plain ∨
          f.usesMarkup = false ∧
            plain.run (escape prompt.toList) = some LiteralState.escape) := by
  have htitle : literalBody title prompt [.title] = escape title.toList := by
    simp [literalBody, Part.render]
  simp only [isIntact_iff_run, literal_mem_skeleton, forall_eq_or_imp, forall_eq, htitle]
  exact and_congr_right run_promptParts

/-- The escape keeps backslashes: a prompt that ends with one takes the quote with it, and
the literal goes on into the code after it. -/
theorem not_isIntact_backslash : ¬ IsIntact .react "Card" "\\" := by
  intro hintact
  have hbody : plain.run (literalBody "Card" "\\" (promptParts .react)) = some plain :=
    isIntact_iff_run.1 hintact _ (literal_mem_skeleton.2 (Or.inr rfl))
  exact absurd hbody (by decide)

/-- An escaped text without backslashes is read to its end. -/
theorem run_escape_of_no_backslash {s : List Char} (hs : '\\' ∉ s) :
    plain.run (escape s) = some plain := by
  refine run_plain (List.all_eq_true.2 fun c hc => ?_)
  exact (mem_escape hc).2.resolve_right fun ⟨hbackslash, hmem⟩ => hs (hbackslash ▸ hmem)

/-- Next to a title without backslashes, only the prompt tells whether a story is intact. -/
theorem isIntact_iff_run_prompt {f : Framework} {title prompt : String}
    (htitle : '\\' ∉ title.toList) :
    IsIntact f title prompt ↔ plain.run (escape prompt.toList) = some plain ∨
      f.usesMarkup = false ∧ plain.run (escape prompt.toList) = some LiteralState.escape := by
  have hrun := run_escape_of_no_backslash htitle
  rw [isIntact_iff_run, ← run_promptParts hrun]
  constructor
  · intro h
    exact h _ (literal_mem_skeleton.2 (Or.inr rfl))
  · intro h parts hparts
    rcases literal_mem_skeleton.1 hparts with rfl | rfl
    · simpa [literalBody, Part.render] using hrun
    · exact h

end StoryMend.Placeholder
