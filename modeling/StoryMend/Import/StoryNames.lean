import StoryMend.Pattern.Meaning
import StoryMend.Settings

/-!
Names that stories, not components, have: the compiled form of name patterns, by any
compiler of patterns.
-/

namespace StoryMend.Import

/-- Name patterns that have been compiled. -/
structure StoryNames where
  always : List Pattern
  whenExported : List Pattern

namespace StoryNames

/-- Compiles name patterns; the first one that does not compile is an error. -/
def compile (p : NamePatterns) (compiler : Pattern.Compiler := Pattern.compile) :
    Except Pattern.Error StoryNames :=
  match p.always.mapM compiler with
  | .error e => .error e
  | .ok always => (p.whenExported.mapM compiler).map fun whenExported => { always, whenExported }

/-- Compiles those name patterns that do compile. -/
def ofWellFormed (p : NamePatterns) (compiler : Pattern.Compiler := Pattern.compile) :
    StoryNames where
  always := p.always.filterMap fun s => (compiler s).toOption
  whenExported := p.whenExported.filterMap fun s => (compiler s).toOption

/-- The usual name patterns. -/
def usual (compiler : Pattern.Compiler := Pattern.compile) : StoryNames :=
  ofWellFormed {} compiler

/-- Whether a name looks like the name of a story, in a source with the given exports. -/
def covers (names : StoryNames) (exports : List String) (name : String) : Bool :=
  names.always.any (·.occursIn name) ||
    (exports.contains name && names.whenExported.any (·.occursIn name))

end StoryNames

end StoryMend.Import
