import StoryMend.Text.Letter
import StoryMend.Text.Line

/-!
Import statements as they can be seen in the text alone, without a parse: lines
that start with the word `import`, and statements that name a given module.
-/

namespace StoryMend.Import

open Text

/-- The word that starts an import. -/
def keyword : List Char := "import".toList

/-- Whether a line starts, after spaces and tabs, with the word `import`. -/
def startsLine (line : List Char) : Bool :=
  match after? keyword (line.dropWhile isSpace) with
  | none => false
  | some rest => !startsWord rest

/-- The text before the first line that starts an import, and the text from that line
on. -/
def splitAtFirst? (s : List Char) : Option (List Char × List Char) :=
  go [] (lines s)
where
  go (before : List Char) : List (List Char) → Option (List Char × List Char)
    | [] => none
    | line :: rest =>
      if startsLine line then some (before, unlines (line :: rest))
      else go (before ++ line ++ ['\n']) rest

/-- Whether an import statement can start here: the word `import`, and after it a
blank, a brace, a star or a quote. -/
def startsStatement (s : List Char) : Bool :=
  match after? keyword s with
  | some (c :: _) => isBlank c || c == '{' || c == '*' || c == '\'' || c == '"'
  | _ => false

/-- Whether `p` holds for the text from some line on, blanks before it left out. -/
def anyLineStart (p : List Char → Bool) (atStart : Bool) : List Char → Bool
  | [] => atStart && p []
  | c :: rest => (atStart && p (trimStart (c :: rest))) || anyLineStart p (c == '\n') rest

/-- Whether a text holds an import statement. -/
def occursIn (s : List Char) : Bool := anyLineStart startsStatement true s

/-- Whether the part of an import between the keyword and the name of the module is
well formed: blanks, or a clause that ends with the word `from`. -/
def isClause : List Char → Bool
  | [] => false
  | c :: rest =>
    isBlank c &&
      (rest.all isBlank ||
        match after? "morf".toList (trimEnd rest).reverse with
        | none => false
        | some before => !endsWord (before.head?.or (some c)))

/-- Whether the text starts with a quoted module name; the quotes may be of either
kind. -/
def startsQuoted (moduleName : List Char) : List Char → Bool
  | [] => false
  | q :: rest =>
    (q == '\'' || q == '"') &&
      match after? moduleName rest with
      | some (c :: _) => c == '\'' || c == '"'
      | _ => false

/-- Whether a statement that imports the given module starts here. -/
def startsImportOf (moduleName s : List Char) : Bool :=
  match after? keyword s with
  | none => false
  | some rest =>
    let inClause := fun c => !(c == '\'' || c == '"' || c == ';')
    isClause (rest.takeWhile inClause) && startsQuoted moduleName (rest.dropWhile inClause)

/-- Whether a text imports the given module. -/
def importsModule (moduleName s : List Char) : Bool :=
  anyLineStart (startsImportOf moduleName) true s

end StoryMend.Import
