import StoryMend.Text.CasePairs
import StoryMend.Text.Properties

/-!
Letters, digits and words of all scripts, and the change of case.  The first 128
characters are decided without a table.
-/

namespace StoryMend.Text

/-- Whether a character is a letter or a digit of the first 128 characters. -/
def isPlainAlphanumeric (c : Char) : Bool := c.isAlphanum

/-- Whether a character is a letter of the first 128 characters. -/
def isPlainLetter (c : Char) : Bool := c.isAlpha

/-- Whether a character is a letter or a number. -/
def isAlphanumeric (c : Char) : Bool :=
  if c.toNat < 128 then isPlainAlphanumeric c else CharSet.alphanumeric.contains c

/-- Whether a character may be part of a word. -/
def isWordChar (c : Char) : Bool :=
  if c.toNat < 128 then isPlainAlphanumeric c || c == '_' else CharSet.word.contains c

/-- Whether the character before a place, if any, is part of a word. -/
def endsWord (before : Option Char) : Bool := before.any isWordChar

/-- Whether the text from a place on starts with part of a word. -/
def startsWord : List Char → Bool
  | [] => false
  | c :: _ => isWordChar c

/-- The upper case of a character, which may be several characters. -/
def upperOf (c : Char) : List Char :=
  if c.toNat < 128 then [c.toUpper]
  else
    match CaseMap.upperLong.find? (fun s => s.toList.head? == some c) with
    | some s => s.toList.drop 1
    | none => [(CaseMap.upper.counterpart? c).getD c]

/-- The lower case of a character on its own. -/
def lowerOf (c : Char) : List Char :=
  if c.toNat < 128 then [c.toLower]
  else if c.toNat = 0x130 then ['i', '\u0307']
  else [(CaseMap.lower.counterpart? c).getD c]

/-- The first character that bears on where a word ends has a case. -/
def meetsCased (s : List Char) : Bool :=
  match s.dropWhile CharSet.caseIgnorable.contains with
  | [] => false
  | c :: _ => CharSet.cased.contains c

/-- The lower case of a text whose part before, from its end on, is `before`.  A capital
sigma that ends a word has a form of its own. -/
def lowerFrom (before : List Char) : List Char → List Char
  | [] => []
  | c :: rest =>
    let here :=
      if c.toNat = 0x3A3 then
        if meetsCased before && !meetsCased rest then ['\u03c2'] else ['\u03c3']
      else lowerOf c
    here ++ lowerFrom (c :: before) rest

/-- The lower case of a text. -/
def lowercase (s : String) : String := String.ofList (lowerFrom [] s.toList)

/-- A string with the capitals among its first 128 characters in lower case. -/
def plainLowercase (s : String) : String := String.ofList (s.toList.map Char.toLower)

/-- Whether two strings are the same when the case of the first 128 characters does not
count. -/
def sameUpToCase (a b : String) : Bool := plainLowercase a == plainLowercase b

/-- The characters that differ from a character by case only, itself included. -/
def caseVariants (c : Char) : List Char :=
  match CaseMap.groups.find? (fun g => g.toList.contains c) with
  | some g => g.toList
  | none =>
    if c.toNat = 0x131 then [c]
    else c :: ((CaseMap.upper.counterpart? c).toList ++ (CaseMap.lower.counterpart? c).toList)

end StoryMend.Text
