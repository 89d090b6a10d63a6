import StoryMend.Text.Blank

/-!
Texts in parts: the pieces between separators, lines, and words between blanks.
The main statement is `unlines_lines`: nothing is lost when a text is split.
-/

namespace StoryMend.Text

/-- The pieces of a list between the elements that satisfy `p`; there is one more
piece than there are such elements. -/
def splitWhere {α : Type} (p : α → Bool) : List α → List (List α)
  | [] => [[]]
  | c :: rest =>
    if p c then [] :: splitWhere p rest
    else
      match splitWhere p rest with
      | [] => [[c]]
      | piece :: pieces => (c :: piece) :: pieces

/-- The pieces of a text between line feeds. -/
def lines (s : List Char) : List (List Char) := splitWhere (· == '\n') s

/-- Joins pieces with a separator. -/
def join (separator : List Char) : List (List Char) → List Char
  | [] => []
  | [piece] => piece
  | piece :: rest => piece ++ separator ++ join separator rest

/-- Joins lines with line feeds. -/
def unlines (pieces : List (List Char)) : List Char := join ['\n'] pieces

/-- The words of a text: the pieces between blanks that hold something. -/
def words (s : List Char) : List (List Char) := (splitWhere isBlank s).filter (!·.isEmpty)

theorem splitWhere_ne_nil {α : Type} (p : α → Bool) (l : List α) : splitWhere p l ≠ [] := by
  induction l with
  | nil => simp [splitWhere]
  | cons c rest ih =>
    unfold splitWhere
    split
    · simp
    · split <;> simp

theorem unlines_lines (s : List Char) : unlines (lines s) = s := by
  induction s with
  | nil => rfl
  | cons c rest ih =>
    unfold lines splitWhere
    unfold lines at ih
    by_cases hc : c = '\n'
    · subst hc
      have hne := splitWhere_ne_nil (· == '\n') rest
      obtain ⟨piece, pieces, hs⟩ := List.exists_cons_of_ne_nil hne
      rw [hs] at ih
      simp [hs, unlines, join] at ih ⊢
      exact ih
    · have hb : (c == '\n') = false := by simpa using hc
      simp only [hb]
      cases hs : splitWhere (· == '\n') rest with
      | nil => exact absurd hs (splitWhere_ne_nil _ _)
      | cons piece pieces =>
        rw [hs] at ih
        cases pieces with
        | nil => simp [unlines, join] at ih ⊢; exact ih
        | cons next more => simp [unlines, join] at ih ⊢; exact ih

/-- Whether a text occurs in another one. -/
def contains (needle : List Char) : List Char → Bool
  | [] => needle.isEmpty
  | c :: rest => needle.isPrefixOf (c :: rest) || contains needle rest

/-- Whether `p` holds at some place of a text, told the character before the place and
the text from there on. -/
def anyPlace (p : Option Char → List Char → Bool) (before : Option Char) : List Char → Bool
  | [] => p before []
  | c :: rest => p before (c :: rest) || anyPlace p (some c) rest

/-- What follows a given start. -/
def after? (start : List Char) (s : List Char) : Option (List Char) :=
  match start, s with
  | [], s => some s
  | _ :: _, [] => none
  | a :: start, c :: s => if a = c then after? start s else none

end StoryMend.Text
