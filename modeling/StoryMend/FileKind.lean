import StoryMend.Text.Blank
import StoryMend.Text.Letter

/-!
The two kinds of component modules and the file name extensions that tell them
apart.
-/

namespace StoryMend

/-- The grammar that a module is written in. -/
inductive FileKind where
  /-- Scripts with type annotations and markup. -/
  | tsx
  /-- Scripts with markup only. -/
  | jsx
deriving Repr, DecidableEq, Inhabited

namespace FileKind

/-- The name of a kind. -/
def name : FileKind → String
  | tsx => "tsx"
  | jsx => "jsx"

/-- The kind of a file with the given extension, in any letter case. -/
def ofExtension? (extension : String) : Option FileKind :=
  match Text.plainLowercase extension with
  | "tsx" | "ts" => some tsx
  | "jsx" | "js" | "mjs" | "cjs" => some jsx
  | _ => none

/-- Reads the name of a kind: an extension, with blanks around it or not. -/
def read? (text : String) : Option FileKind := ofExtension? (Text.trimmed text)

end FileKind

end StoryMend
