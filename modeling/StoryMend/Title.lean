import StoryMend.Text.Letter
import StoryMend.Text.Line

/-!
Titles of stories: the first words of a prompt, each with a capital.
-/

namespace StoryMend.Title

open Text

/-- The title of a story whose prompt has no words. -/
def usual : String := "Generated Story"

/-- How many words a title has at most. -/
def maxWords : Nat := 5

/-- The words of a prompt: its longest stretches of letters and digits. -/
def promptWords (s : List Char) : List (List Char) :=
  (splitWhere (!isAlphanumeric ·) s).filter (!·.isEmpty)

/-- A word with its first character in upper case. -/
def capitalize : List Char → List Char
  | [] => []
  | c :: rest => upperOf c ++ rest

/-- The title that a prompt gives. -/
def ofPrompt (prompt : String) : String :=
  match ((promptWords prompt.toList).take maxWords).map capitalize with
  | [] => usual
  | words => String.ofList (join [' '] words)

end StoryMend.Title
