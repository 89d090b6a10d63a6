import StoryMend.Text.Letter
import StoryMend.Text.Line

/-!
Strings that are left open at the end of their line.  A line with an odd number
of quotes of one kind gets the missing quote at its end.  Quotes after a
backslash do not count, nor do apostrophes within words.
-/

namespace StoryMend.Repair

open Text

/-- The places of the quotes in a text that count, from `place` on, the last one first.
The character before the text is `before`. -/
def countedQuotes (quote : Char) (before : Option Char) (place : Nat) : List Char → List Nat
  | [] => []
  | c :: rest =>
    let later := countedQuotes quote (some c) (place + 1) rest
    let inWord := quote == '\'' && before.any isAlphanumeric && rest.head?.any isAlphanumeric
    if c == quote && before != some '\\' && !inWord then later ++ [place] else later

/-- The place of the last quote that counts, if their number is odd. -/
def openQuote? (quote : Char) (line : List Char) : Option Nat :=
  match countedQuotes quote none 0 line with
  | [] => none
  | place :: rest => if rest.length % 2 = 0 then some place else none

/-- The quotes that a line lacks: the one that was opened last comes first. -/
def missingQuotes (line : List Char) : List Char :=
  match openQuote? '"' line, openQuote? '\'' line with
  | none, none => []
  | some _, none => ['"']
  | none, some _ => ['\'']
  | some double, some single => if double < single then ['\'', '"'] else ['"', '\'']

/-- Adds the quotes that a line lacks, before a carriage return at its end. -/
def closeLine (line : List Char) : List Char :=
  match line.getLast? with
  | some '\r' => line.dropLast ++ missingQuotes line.dropLast ++ ['\r']
  | _ => line ++ missingQuotes line

/-- Adds the quotes that the lines of a text lack. -/
def closeStrings (s : List Char) : List Char := unlines ((lines s).map closeLine)

end StoryMend.Repair
