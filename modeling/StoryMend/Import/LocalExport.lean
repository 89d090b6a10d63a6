import StoryMend.Text.Letter
import StoryMend.Text.Line

/-!
The names that a source itself exports, as far as its text shows: declarations
after the word `export`, and names after `export default`.
-/

namespace StoryMend.Import

open Text

/-- Whether a character may start a name. -/
def isNameStart (c : Char) : Bool := isPlainLetter c || c == '_' || c == '$'

/-- Whether a character may continue a name. -/
def isNameChar (c : Char) : Bool := isWordChar c || c == '$'

/-- The name at the start of a text, and the rest. -/
def name? : List Char → Option (List Char × List Char)
  | [] => none
  | c :: rest =>
    if isNameStart c then some (c :: rest.takeWhile isNameChar, rest.dropWhile isNameChar)
    else none

/-- What follows a word and the blanks after it; there has to be a blank. -/
def afterWord? (word : String) (s : List Char) : Option (List Char) :=
  match after? word.toList s with
  | some (c :: rest) => if isBlank c then some (trimStart rest) else none
  | _ => none

/-- The words that declare a name. -/
def declarationWords : List String := ["const", "let", "var", "function", "class"]

/-- The name of an exported declaration at the start of a text, and the rest. -/
def declaration? (s : List Char) : Option (List Char × List Char) :=
  match afterWord? "export" s with
  | none => none
  | some rest =>
    let rest := (afterWord? "default" rest).getD rest
    (declarationWords.findSome? (afterWord? · rest)).bind name?

/-- Whether nothing but blanks comes before the end of the line or of the text. -/
def endsLine (s : List Char) : Bool :=
  (s.takeWhile isBlank).contains '\n' || (trimStart s).isEmpty

/-- Whether an exported name may end here: at the end of its line, where a semicolon may
come first. -/
def endsExport (s : List Char) : Bool :=
  endsLine s ||
    match trimStart s with
    | ';' :: rest => endsLine rest
    | _ => false

/-- The name of a default export at the start of a text, and the rest. -/
def defaultExport? (s : List Char) : Option (List Char × List Char) :=
  match (((afterWord? "export" s).bind (afterWord? "default")).bind name?) with
  | some (name, rest) => if endsExport rest then some (name, rest) else none
  | none => none

/-- The names that `find?` sees in a text, from the start on and at edges of words; what
belongs to one find, `skip` characters, is not searched again. -/
def findNames (find? : List Char → Option (List Char × List Char)) (skip : Nat)
    (before : Option Char) : List Char → List String
  | [] => []
  | c :: rest =>
    if skip = 0 then
      match if endsWord before then none else find? (c :: rest) with
      | some (name, after) =>
        String.ofList name :: findNames find? (rest.length - after.length) (some c) rest
      | none => findNames find? 0 (some c) rest
    else findNames find? (skip - 1) (some c) rest

/-- The names that a source exports: of declarations first, then of default exports. -/
def localExports (source : String) : List String :=
  findNames declaration? 0 none source.toList ++ findNames defaultExport? 0 none source.toList

end StoryMend.Import
