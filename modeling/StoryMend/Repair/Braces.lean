import StoryMend.Text.Line

/-!
Missing closing braces.  They are added on lines of their own at the end of the
text; closing braces that are too many stay.
-/

namespace StoryMend.Repair

/-- How many more opening than closing braces a text has. -/
def braceDeficit (s : List Char) : Nat := s.count '{' - s.count '}'

/-- Adds the closing braces that a text lacks, each on a line. -/
def balanceBraces (s : List Char) : List Char :=
  match braceDeficit s with
  | 0 => s
  | n =>
    let s := if s.getLast? = some '\n' then s else s ++ ['\n']
    s ++ (List.replicate n ['}', '\n']).flatten

end StoryMend.Repair
