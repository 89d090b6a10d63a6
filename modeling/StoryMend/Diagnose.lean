import StoryMend.Diagnostic
import StoryMend.Import.Statement
import StoryMend.Markup
import StoryMend.Runtime
import StoryMend.Syntax.Source

/-!
What is wrong with the syntax of a source: the outermost faults of its tree, each
at its place, and markup without the import of the runtime.
-/

namespace StoryMend.Diagnose

open Syntax Text

/-- The start of every message about the structure of a source. -/
def syntaxMark : String := "Syntax error"

/-- The end of the message about a missing runtime. -/
def runtimeMark : String := "is never imported"

/-- How many characters of a faulty stretch a message shows. -/
def snippetLength : Nat := 24

/-- A short description of a faulty stretch: its first line that is not blank. -/
def describe (text : List Char) : String :=
  match ((lines text).map trim).find? (!·.isEmpty) with
  | none => "end of input"
  | some line => s!"`{String.ofList (line.take snippetLength)}`"

/-- The message about a faulty node. -/
def faultMessage (source : List Char) (n : Node) : String :=
  if n.isMissing then s!"{syntaxMark}: missing `{n.kind}`"
  else s!"{syntaxMark}: unexpected {describe (n.text source)}"

/-- Searches the trees on a stack for faults, from its top on.  Nothing below a fault is
searched, and nothing in a tree without faults; of other trees the last child comes to the
top. -/
def search : List Tree → List Node
  | [] => []
  | t :: stack =>
    if t.node.isMissing || t.node.isError then t.node :: search stack
    else if t.hasError then search (t.children.reverse ++ stack)
    else search stack
termination_by stack => (Tree.nodesOf stack).length
decreasing_by
  · rw [Tree.length_nodesOf_cons]
    omega
  · rw [Tree.length_nodesOf_cons, Tree.nodesOf_append, List.length_append,
      Tree.length_nodesOf_reverse]
    omega
  · rw [Tree.length_nodesOf_cons]
    omega

/-- A list in which no element follows an equal one. -/
def dropRepeats {α : Type} [DecidableEq α] : List α → List α
  | [] => []
  | a :: rest =>
    match dropRepeats rest with
    | [] => [a]
    | b :: more => if a = b then b :: more else a :: b :: more

/-- The diagnostic of a faulty node, at its place. -/
def ofFault (source : List Char) (n : Node) : Diagnostic :=
  { message := faultMessage source n, line := n.span.row + 1, column := some (n.span.column + 1) }

/-- The diagnostics of a tree; a fault that no node shows is reported without its
place. -/
def structural (source : List Char) (t : Tree) : List Diagnostic :=
  if t.hasError then
    match dropRepeats ((search [t]).map (ofFault source)) with
    | [] => [{ message := s!"{syntaxMark}: malformed source", line := 1 }]
    | ds => ds
  else []

/-- The diagnostic of a source that the parser gave up on. -/
def noTree (kind : FileKind) : Diagnostic :=
  { message := s!"{syntaxMark}: parser produced no tree for {kind.name} source", line := 1 }

/-- Whether a source has markup and does not import the runtime for it. -/
def lacksRuntime (tree : Option Tree) (runtime : Runtime) (source : String) : Bool :=
  Markup.occursIn tree source &&
    !Import.importsModule runtime.moduleName.toList source.toList

/-- The diagnostic of markup without its runtime. -/
def noRuntime (runtime : Runtime) : Diagnostic where
  message := s!"JSX markup found but `{runtime.moduleName}` {runtimeMark}"
  line := 1
  column := some 1

/-- Everything that is wrong with the syntax of a source, by place. -/
def syntaxErrors (parse : Parser) (kind : FileKind) (runtime : Option Runtime)
    (source : String) : List Diagnostic :=
  let tree := parse source kind
  let found := match tree with
    | some t => structural source.toList t
    | none => [noTree kind]
  let missing := match runtime with
    | some r => if lacksRuntime tree r source then [noRuntime r] else []
    | none => []
  Diagnostic.sortByPlace (found ++ missing)

/-- The diagnostic of a source with neither markup nor imports. -/
def noContent : Diagnostic :=
  { message := "No JSX content or import statements found", line := 1 }

/-- Whether a source has markup or an import. -/
def hasContent (parse : Parser) (kind : FileKind) (source : String) : Bool :=
  !isBlankText source.toList &&
    (Markup.occursIn (parse source kind) source || Import.occursIn source.toList)

/-- The diagnostic of a source that holds nothing to validate. -/
def contentError? (parse : Parser) (kind : FileKind) (source : String) : Option Diagnostic :=
  if hasContent parse kind source then none else some noContent

end StoryMend.Diagnose
