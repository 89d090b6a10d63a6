import StoryMend.Repair.Braces
import StoryMend.Repair.Tag

/-!
Missing closing tags.  All tags that are open at the end of a text are closed at
one place, the innermost first: before the first later line that exports
something, before a last line that ends an object, or at the end of the text.
-/

namespace StoryMend.Repair

open Text

/-- The lines of a text with the places where they start, from `start` on. -/
def placeLines (start : Nat) : List (List Char) → List (Nat × List Char)
  | [] => []
  | line :: rest => (start, line) :: placeLines (start + line.length + 1) rest

/-- Whether a line exports a story or the default of a module. -/
def isExportLine (line : List Char) : Bool :=
  let line := trim line
  "export default".toList.isPrefixOf line || "export const".toList.isPrefixOf line

/-- Whether a line ends an object and the statement around it. -/
def isObjectEnd (line : List Char) : Bool := trim line == ['}', ';']

/-- Where closing tags go, at the earliest after `start`. -/
def insertionPoint (s : List Char) (start : Nat) : Nat :=
  let placed := placeLines 0 (lines s)
  let exported := placed.find? fun (at_, line) => start ≤ at_ && isExportLine line
  match exported with
  | some (at_, _) => at_
  | none =>
    match (placed.filter fun (_, line) => !isBlankText line).getLast? with
    | some (at_, line) =>
      if isObjectEnd line && start ≤ at_ then at_ else (trimEnd s).length
    | none => (trimEnd s).length

/-- The tag that closes the one with the given name. -/
def closingTag (name : List Char) : List Char := ['<', '/'] ++ name ++ ['>']

/-- The names of the tags that stay open, outermost first. -/
def unclosedTags (s : List Char) : List (List Char) := (openTags s).names.reverse

/-- A text with the closing braces that it lacks and a semicolon at the end, if it lacks
any. -/
def closeStatement (s : List Char) : List Char :=
  if braceDeficit s = 0 then s
  else
    let s := trimEnd (balanceBraces s)
    if s.getLast? = some ';' then s else s ++ [';']

/-- Closes the tags that stay open. -/
def reconcileTags (s : List Char) : List Char :=
  let o := openTags s
  if o.names.isEmpty then s
  else
    let at_ := insertionPoint s o.lastEnd
    let gap := if at_ < (trimEnd s).length then ['\n'] else []
    closeStatement (s.take at_ ++ o.names.flatMap closingTag ++ gap ++ s.drop at_)

end StoryMend.Repair
