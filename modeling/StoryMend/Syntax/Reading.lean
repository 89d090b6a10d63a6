import StoryMend.Syntax.Parser
import StoryMend.Syntax.Tree
import StoryMend.Syntax.Tsx
import StoryMend.Syntax.Jsx
import StoryMend.FileKind

/-!
From concrete trees to the trees that readers see.  Phrases and tokens that are
hidden give way to their children, names given by the production above take
precedence, and children learn their roles.
-/

namespace StoryMend.Syntax

open Subtree in
mutual

/-- The visible tree of a subtree that starts at `start`, under a name that its
parent may give. -/
private def showTree (m : Automaton) (start : Extent) (field : Option String)
    (rename : Option SymbolInfo) : Subtree → Tree
  | .node s children =>
    let info := rename.getD (m.info s.symbol)
    let stop := start + s.size
    let production := m.productions.getD s.production {}
    let below := showChildren m production start none 0 true children.toList
    .mk {
      kind := info.name
      named := info.named
      span := ⟨start.bytes, stop.bytes, start.rows, start.cols⟩
      field
      isError := s.symbol == Symbol.error
      isMissing := s.missing
      lacksHidden := below.2 } below.1

/-- The visible trees of the children of a phrase; also whether a hidden token is
missing among them.  `place` counts the children that are not extra. -/
private def showChildren (m : Automaton) (production : Production) (position : Extent)
    (inherited : Option String) (place : Nat) (first : Bool) :
    List Subtree → List Tree × Bool
  | [] => ([], false)
  | .node s children :: rest =>
    let start := if first then position else position + s.padding
    let rename :=
      if s.extra then none
      else ((production.aliases[place]?).join).map fun a => m.aliases.getD a default
    let field :=
      if s.extra then none
      else
        match production.fields.find? (·.1 == place) with
        | some (_, name) => some name
        | none => inherited
    let here :=
      if rename.isSome || s.visible then
        ([showTree m start field rename (.node s children)], false)
      else
        let inner := m.productions.getD s.production {}
        let below := showChildren m inner start field 0 true children.toList
        (below.1, below.2 || s.missing)
    let after := showChildren m production (start + s.size) inherited
      (if s.extra then place else place + 1) false rest
    (here.1 ++ after.1, here.2 || after.2)

end

/-- The grammar of a kind of file. -/
def Language.ofKind : FileKind → Language
  | .tsx => { automaton := Tsx.automaton, typed := true }
  | .jsx => { automaton := Jsx.automaton, typed := false }

/-- Parses a module; the parser always comes to an end, and gives no tree if it
would take too long. -/
def parse : Parser := fun source kind =>
  let language := Language.ofKind kind
  (language.parseSubtree source.toList.toArray).map fun t =>
    showTree language.automaton t.padding none none t

end StoryMend.Syntax
