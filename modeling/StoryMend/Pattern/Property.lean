import StoryMend.Pattern.Error
import StoryMend.Text.Letter

/-!
Properties of characters by their names.  Case, blanks, hyphens and underscores in
a name do not count, nor does the word `is` at its start.
-/

namespace StoryMend.Pattern

open Text

/-- The form in which names are compared. -/
def normalName (name : String) : String :=
  let s := (name.toList.filter fun c => !(isBlank c || c == '_' || c == '-')).map Char.toLower
  let s := s.filter (·.toNat < 128)
  match s with
  | 'i' :: 's' :: rest =>
    if rest == ['c'] then "isc" else String.ofList rest
  | s => String.ofList s

/-- A set given by a table. -/
def ofSet (s : CharSet) : Char → Bool := s.contains

/-- Whether a character lies between two codes, both included. -/
def isBetween (first last : Nat) (c : Char) : Bool := first ≤ c.toNat && c.toNat ≤ last

/-- Control characters. -/
def isControl (c : Char) : Bool := c.toNat < 32 || isBetween 127 159 c

/-- Characters left to private use. -/
def isPrivate (c : Char) : Bool :=
  isBetween 0xE000 0xF8FF c || isBetween 0xF0000 0xFFFFD c || isBetween 0x100000 0x10FFFD c

/-- Characters without a meaning. -/
def isUnassigned (c : Char) : Bool :=
  CharSet.other.contains c && !isControl c && !isPrivate c && !CharSet.format.contains c

/-- The general categories of characters, by short or long name. -/
def category? (name : String) : Option (Char → Bool) :=
  match name with
  | "any" => some fun _ => true
  | "ascii" => some fun c => c.toNat < 128
  | "assigned" => some fun c => !isUnassigned c
  | "l" | "letter" => some (ofSet .letter)
  | "lu" | "uppercaseletter" => some (ofSet .uppercaseLetter)
  | "ll" | "lowercaseletter" => some (ofSet .lowercaseLetter)
  | "lt" | "titlecaseletter" => some (ofSet .titlecaseLetter)
  | "lc" | "casedletter" => some fun c =>
      ofSet .uppercaseLetter c || ofSet .lowercaseLetter c || ofSet .titlecaseLetter c
  | "lm" | "modifierletter" => some (ofSet .modifierLetter)
  | "lo" | "otherletter" => some (ofSet .otherLetter)
  | "m" | "mark" | "combiningmark" => some (ofSet .mark)
  | "mn" | "nonspacingmark" => some (ofSet .nonspacingMark)
  | "me" | "enclosingmark" => some (ofSet .enclosingMark)
  | "mc" | "spacingmark" => some fun c =>
      ofSet .mark c && !ofSet .nonspacingMark c && !ofSet .enclosingMark c
  | "n" | "number" => some (ofSet .number)
  | "nd" | "decimalnumber" | "digit" => some (ofSet .digit)
  | "nl" | "letternumber" => some (ofSet .letterNumber)
  | "no" | "othernumber" => some (ofSet .otherNumber)
  | "p" | "punctuation" | "punct" => some (ofSet .punctuation)
  | "pc" | "connectorpunctuation" => some (ofSet .connectorPunctuation)
  | "pd" | "dashpunctuation" => some (ofSet .dashPunctuation)
  | "ps" | "openpunctuation" => some (ofSet .openPunctuation)
  | "pe" | "closepunctuation" => some (ofSet .closePunctuation)
  | "pi" | "initialpunctuation" => some (ofSet .initialPunctuation)
  | "pf" | "finalpunctuation" => some (ofSet .finalPunctuation)
  | "po" | "otherpunctuation" => some (ofSet .otherPunctuation)
  | "s" | "symbol" => some (ofSet .symbol)
  | "sm" | "mathsymbol" => some (ofSet .mathSymbol)
  | "sc" | "currencysymbol" => some (ofSet .currencySymbol)
  | "sk" | "modifiersymbol" => some (ofSet .modifierSymbol)
  | "so" | "othersymbol" => some (ofSet .otherSymbol)
  | "z" | "separator" => some (ofSet .separator)
  | "zl" | "lineseparator" => some fun c => c.toNat == 0x2028
  | "zp" | "paragraphseparator" => some fun c => c.toNat == 0x2029
  | "zs" | "spaceseparator" => some fun c =>
      ofSet .separator c && c.toNat != 0x2028 && c.toNat != 0x2029
  | "c" | "other" => some (ofSet .other)
  | "cc" | "control" | "cntrl" => some isControl
  | "cf" | "format" => some (ofSet .format)
  | "co" | "privateuse" => some isPrivate
  | "cn" | "unassigned" => some isUnassigned
  | _ => none

/-- Scripts, by their names. -/
def script? (name : String) : Option (Char → Bool) :=
  match name with
  | "greek" | "grek" => some (ofSet .greek)
  | "latin" | "latn" => some (ofSet .latin)
  | "cyrillic" | "cyrl" => some (ofSet .cyrillic)
  | "han" | "hani" => some (ofSet .han)
  | _ => none

/-- Properties that a character has or has not. -/
def plainProperty? (name : String) : Option (Char → Bool) :=
  match name with
  | "alphabetic" | "alpha" => some (ofSet .alphabetic)
  | "uppercase" | "upper" => some (ofSet .uppercase)
  | "lowercase" | "lower" => some (ofSet .lowercase)
  | "whitespace" | "wspace" | "space" => some isBlank
  | "cased" => some (ofSet .cased)
  | "caseignorable" | "ci" => some (ofSet .caseIgnorable)
  | "graphemeextend" | "grext" => some (ofSet .graphemeExtend)
  | _ => none

/-- The characters with a property. -/
def property (name : String) (value : Option String) : Except Problem (Char → Bool) :=
  match value with
  | none =>
    let n := normalName name
    match ((plainProperty? n).or (category? n)).or (script? n) with
    | some p => .ok p
    | none => .error .propertyUnknown
  | some value =>
    let v := normalName value
    let found := match normalName name with
      | "gc" | "generalcategory" => some (category? v)
      | "sc" | "script" | "scx" | "scriptextensions" => some (script? v)
      | _ => none
    match found with
    | none => .error .propertyUnknown
    | some none => .error .propertyValueUnknown
    | some (some p) => .ok p

end StoryMend.Pattern
