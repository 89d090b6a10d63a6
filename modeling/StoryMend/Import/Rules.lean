import StoryMend.Diagnostic
import StoryMend.Import.LocalExport
import StoryMend.Import.Specifier
import StoryMend.Import.StoryNames
import StoryMend.Import.Suggestion

/-!
The check of the names that a story imports from its design system: each has to be
the name of a component and not the name of a story.
-/

namespace StoryMend.Import

/-- Why an imported name is rejected. -/
inductive Offence where
  /-- The name of a story. -/
  | storyName
  /-- A name that is not in the inventory. -/
  | unavailable
deriving Repr, DecidableEq

/-- The rules for imported names. -/
structure Rules where
  storyNames : StoryNames := .usual
  aliases : List Alias := Alias.usual
  maxListed : Nat := 10
  kind : FileKind := .tsx

namespace Rules

/-- The rules of settings, with name patterns that have been compiled. -/
def withNames (s : Settings) (storyNames : StoryNames) : Rules where
  storyNames := storyNames
  aliases := s.aliases
  maxListed := s.maxListed
  kind := s.kind

/-- The rules of settings. -/
def ofSettings (s : Settings) (compiler : Pattern.Compiler := Pattern.compile) :
    Except Pattern.Error Rules :=
  (StoryNames.compile s.patterns compiler).map (withNames s)

/-- Why a name is rejected in a source with the given exports, if it is. -/
def offence? (r : Rules) (inv : Inventory) (exports : List String) (name : String) :
    Option Offence :=
  if r.storyNames.covers exports name then some .storyName
  else if inv.contains name then none
  else some .unavailable

/-- The question whether another component was meant. -/
def hint (r : Rules) (inv : Inventory) (name : String) : String :=
  match suggest? r.aliases inv name with
  | some other => s!" Did you mean `{other}`?"
  | none => ""

/-- The list of the first components of an inventory. -/
def listing (r : Rules) (inv : Inventory) : String :=
  match inv.names.take r.maxListed with
  | [] => ""
  | names => " Available components include: " ++ String.intercalate ", " names

/-- The message about a rejected name. -/
def message (r : Rules) (inv : Inventory) (path name : String) : Offence → String
  | .storyName =>
    s!"`{name}` is not a valid component, it appears to be a story export name." ++ r.hint inv name
  | .unavailable =>
    s!"`{name}` is not available from `{path}`." ++ r.hint inv name ++ r.listing inv

/-- The diagnostic of an imported name, if it is rejected. -/
def checkName (r : Rules) (inv : Inventory) (path : String) (exports : List String)
    (s : Specifier) : Option Diagnostic :=
  (r.offence? inv exports s.name).map fun offence =>
    { message := r.message inv path s.name offence, line := s.line, column := some s.column }

/-- What is wrong with the names that a source imports from a module. -/
def check (r : Rules) (parse : Parser) (inv : Inventory) (path source : String) :
    List Diagnostic :=
  let exports := localExports source
  (importedNames parse r.kind path source).filterMap (r.checkName inv path exports)

end Rules

end StoryMend.Import
