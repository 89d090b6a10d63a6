import StoryMend.Text.Line

/-!
What is wrong with a pattern, and where.  The rendered error shows the pattern
with marks below the places that it speaks of.
-/

namespace StoryMend.Pattern

/-- A place in a pattern; lines and columns count from one, columns by characters. -/
structure Place where
  offset : Nat := 0
  line : Nat := 1
  column : Nat := 1
deriving Repr, DecidableEq, Inhabited

/-- The place after a character. -/
def Place.after (p : Place) (c : Char) : Place :=
  if c == '\n' then ⟨p.offset + 1, p.line + 1, 1⟩ else ⟨p.offset + 1, p.line, p.column + 1⟩

/-- A stretch of a pattern. -/
structure Span where
  start : Place
  stop : Place
deriving Repr, DecidableEq, Inhabited

/-- Whether a stretch stays on one line. -/
def Span.isOneLine (s : Span) : Bool := s.start.line == s.stop.line

/-- Whether a stretch comes before another one. -/
def Span.notAfter (a b : Span) : Bool :=
  a.start.offset < b.start.offset ||
    (a.start.offset == b.start.offset && a.stop.offset ≤ b.stop.offset)

/-- What is wrong with a pattern. -/
inductive Problem where
  | classEscape
  | classRange
  | classRangeEnd
  | classUnclosed
  | decimalInvalid
  | hexEmpty
  | hexInvalid
  | hexDigit
  | escapeEnd
  | escapeUnknown
  | flagDangling
  | flagRepeated
  | flagNegatedTwice
  | flagEnd
  | flagUnknown
  | nameRepeated
  | nameEmpty
  | nameInvalid
  | nameEnd
  | groupUnclosed
  | groupUnopened
  | countInvalid
  | countEmpty
  | countUnclosed
  | repeatsNothing
  | edgeUnclosed
  | edgeUnknown
  | edgeEnd
  | propertyInvalid
  | backreference
  | lookAround
  | wideCharacter
  | partialCharacter
  | propertyUnknown
  | propertyValueUnknown
deriving Repr, DecidableEq

/-- The message about a problem. -/
def Problem.message : Problem → String
  | classEscape => "invalid escape sequence found in character class"
  | classRange => "invalid character class range, the start must be <= the end"
  | classRangeEnd => "invalid range boundary, must be a literal"
  | classUnclosed => "unclosed character class"
  | decimalInvalid => "decimal literal invalid"
  | hexEmpty => "hexadecimal literal empty"
  | hexInvalid => "hexadecimal literal is not a Unicode scalar value"
  | hexDigit => "invalid hexadecimal digit"
  | escapeEnd => "incomplete escape sequence, reached end of pattern prematurely"
  | escapeUnknown => "unrecognized escape sequence"
  | flagDangling => "dangling flag negation operator"
  | flagRepeated => "duplicate flag"
  | flagNegatedTwice => "flag negation operator repeated"
  | flagEnd => "expected flag but got end of regex"
  | flagUnknown => "unrecognized flag"
  | nameRepeated => "duplicate capture group name"
  | nameEmpty => "empty capture group name"
  | nameInvalid => "invalid capture group character"
  | nameEnd => "unclosed capture group name"
  | groupUnclosed => "unclosed group"
  | groupUnopened => "unopened group"
  | countInvalid => "invalid repetition count range, the start must be <= the end"
  | countEmpty => "repetition quantifier expects a valid decimal"
  | countUnclosed => "unclosed counted repetition"
  | repeatsNothing => "repetition operator missing expression"
  | edgeUnclosed =>
    "special word boundary assertion is either unclosed or contains an invalid character"
  | edgeUnknown =>
    "unrecognized special word boundary assertion, valid choices are: start, end, start-half or end-half"
  | edgeEnd =>
    "found either the beginning of a special word boundary or a bounded repetition on a \\b with an opening brace, but no closing brace"
  | propertyInvalid => "invalid Unicode character class"
  | backreference => "backreferences are not supported"
  | lookAround => "look-around, including look-ahead and look-behind, is not supported"
  | wideCharacter => "Unicode not allowed here"
  | partialCharacter => "pattern can match invalid UTF-8"
  | propertyUnknown => "Unicode property not found"
  | propertyValueUnknown => "Unicode property value not found"

/-- A problem in a pattern, with the stretch that it concerns and, where it repeats
something, the stretch that it repeats. -/
structure Failure where
  problem : Problem
  span : Span
  other : Option Span := none
deriving Repr, DecidableEq

/-- A pattern that does not compile, and what its compiler says about it. -/
structure Error where
  pattern : String
  reason : String
deriving Repr, DecidableEq

namespace Failure

/-- Blanks. -/
def blanks (n : Nat) : List Char := List.replicate n ' '

/-- The lines of a pattern, without a last one that is empty. -/
def patternLines (s : List Char) : List (List Char) :=
  let ls := Text.lines s
  let ls := if ls.getLast? = some [] then ls.dropLast else ls
  ls.map fun l => if l.getLast? = some '\r' then l.dropLast else l

/-- Marks below stretches of a line, from column `at_` on. -/
def marks (at_ : Nat) : List Span → List Char
  | [] => []
  | s :: rest =>
    let gap := s.start.column - 1 - at_
    let width := max 1 (s.stop.column - s.start.column)
    blanks gap ++ List.replicate width '^' ++ marks (at_ + gap + width) rest

/-- The lines of a pattern, each with the marks below it; `width` is the width of line
numbers, zero for none. -/
def notate (width : Nat) (spans : List Span) (n : Nat) : List (List Char) → List Char
  | [] => []
  | line :: rest =>
    let number := (toString n).toList
    let lead := if width = 0 then blanks 4 else blanks (width - number.length) ++ number ++ [':', ' ']
    let here := spans.filter (·.start.line == n)
    let below :=
      if here.isEmpty then []
      else blanks (if width = 0 then 4 else 2 + width) ++ marks 0 here ++ ['\n']
    lead ++ line ++ ['\n'] ++ below ++ notate width spans (n + 1) rest

/-- A stretch over several lines, in words. -/
def describeSpan (s : Span) : String :=
  s!"on line {s.start.line} (column {s.start.column}) through line {s.stop.line} (column {s.stop.column - 1})"

/-- What is wrong with a pattern, shown with the pattern and the marks. -/
def render (pattern : String) (f : Failure) : String :=
  let s := pattern.toList
  let ls := patternLines s
  let count := ls.length + (if s.getLast? = some '\n' then 1 else 0)
  let width := if count ≤ 1 then 0 else (toString count).length
  let spans := (f.span :: f.other.toList).mergeSort Span.notAfter
  let body := String.ofList (notate width (spans.filter Span.isOneLine) 1 ls)
  let last := s!"error: {f.problem.message}"
  if s.contains '\n' then
    let divider := String.ofList (List.replicate 79 '~') ++ "\n"
    let wide := spans.filter (!·.isOneLine)
    let notes :=
      if wide.isEmpty then "" else String.intercalate "\n" (wide.map describeSpan) ++ "\n"
    "regex parse error:\n" ++ divider ++ body ++ divider ++ notes ++ last
  else "regex parse error:\n" ++ body ++ last

end Failure

end StoryMend.Pattern
