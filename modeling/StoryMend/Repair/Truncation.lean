import StoryMend.Repair.Tag

/-!
Texts that were cut off.  A last line that stops in a tag, in a call or after an
operator is dropped, so that the other repairs see whole lines.
-/

namespace StoryMend.Repair

open Text

/-- What speaks for a line having been cut off. -/
structure TruncationSignals where
  /-- The line has an odd number of quotes of one kind.  This alone does not count, since
  an open string can be closed. -/
  oddQuotes : Bool
  /-- The last tag of the line does not end. -/
  openTag : Bool
  /-- The line opens more parentheses than it closes. -/
  openParen : Bool
  /-- The line ends with an operator and a word. -/
  danglingToken : Bool
deriving Repr, DecidableEq

/-- Whether a line was cut off. -/
def TruncationSignals.isTruncated (t : TruncationSignals) : Bool :=
  t.openTag || t.openParen || t.danglingToken

/-- The text from the last place on where a tag starts. -/
def lastTagStart? (before : Option Char) : List Char → Option (List Char)
  | [] => none
  | c :: rest =>
    (lastTagStart? (some c) rest).or <|
      if c == '<' && isTagStart before rest then some (c :: rest) else none

/-- Whether the last tag of a line does not end. -/
def hasOpenTag (line : List Char) : Bool :=
  match lastTagStart? none line with
  | none => false
  | some tag => !tag.contains '>'

/-- Whether a character is an operator that something has to follow. -/
def isOperator (c : Char) : Bool := "=+-*/%.,:?&|(".toList.contains c

/-- Whether a character may be part of a name or a number. -/
def isTokenChar (c : Char) : Bool := c.isAlphanum || c == '_' || c == '$'

/-- Whether a text is one name or number, with blanks before it or not. -/
def isToken (s : List Char) : Bool :=
  let s := trimStart s
  !s.isEmpty && s.all isTokenChar

/-- Whether an operator, or the word `return`, stands here and only a name or a number
follows it. -/
def danglesFrom (before : Option Char) (s : List Char) : Bool :=
  (match s with
    | c :: rest => isOperator c && isToken rest
    | [] => false) ||
  (!endsWord before &&
    match after? "return".toList s with
    | some rest => isToken rest
    | none => false)

/-- Whether a line ends with an operator and a word.  Lines with tags or comparisons, and
lines that start an export or an import, do not count. -/
def hasDanglingToken (line : List Char) : Bool :=
  !line.contains '<' && !line.contains '>' &&
    !"export ".toList.isPrefixOf line && !"import ".toList.isPrefixOf line &&
    anyPlace danglesFrom none line

/-- The signals of a line.  An operator in a string that is left open is just text. -/
def TruncationSignals.ofLine (line : List Char) : TruncationSignals :=
  let line := trim line
  let oddQuotes := line.count '"' % 2 == 1 || line.count '\'' % 2 == 1
  { oddQuotes
    openTag := hasOpenTag line
    openParen := line.count ')' < line.count '('
    danglingToken := !oddQuotes && hasDanglingToken line }

/-- Drops the last line that is not blank, if it was cut off. -/
def trimTruncated (s : List Char) : List Char :=
  match trimEnd s with
  | [] => s
  | c :: rest =>
    let ls := lines (c :: rest)
    if (TruncationSignals.ofLine (ls.getLastD [])).isTruncated then trimEnd (unlines ls.dropLast)
    else s

end StoryMend.Repair
