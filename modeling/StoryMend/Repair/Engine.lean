import StoryMend.Repair.RuntimeImport
import StoryMend.Repair.Strings
import StoryMend.Repair.Tags
import StoryMend.Repair.Truncation

/-!
One cycle of repair: the passes run in a fixed order, each at most once and only
if a diagnostic calls for it.
-/

namespace StoryMend.Repair

/-- A way of repairing a source. -/
inductive Pass where
  | truncation
  | runtimeImport (runtime : Runtime)
  | braces
  | strings
  | tags
deriving Repr, DecidableEq

namespace Pass

/-- The name of a pass. -/
def name : Pass → String
  | truncation => "truncation"
  | runtimeImport _ => "runtime-import"
  | braces => "braces"
  | strings => "strings"
  | tags => "jsx-tags"

/-- Whether a diagnostic calls for a pass. -/
def isCalledBy (p : Pass) (d : Diagnostic) : Bool :=
  match p with
  | runtimeImport _ => Text.contains Diagnose.runtimeMark.toList d.message.toList
  | _ => Diagnose.syntaxMark.toList.isPrefixOf d.message.toList

/-- What a pass makes of a source. -/
def apply (parse : Parser) (kind : FileKind) (p : Pass) (source : String) : String :=
  match p with
  | truncation => String.ofList (trimTruncated source.toList)
  | runtimeImport runtime => insertRuntimeImport parse runtime kind source
  | braces => String.ofList (balanceBraces source.toList)
  | strings => String.ofList (closeStrings source.toList)
  | tags => String.ofList (reconcileTags source.toList)

end Pass

/-- What a cycle of repair made of a source, and the names of the passes that changed
it, in order. -/
structure Report where
  source : String
  applied : List String := []
deriving Repr, DecidableEq

/-- Whether a cycle changed anything. -/
def Report.changed (r : Report) : Bool := !r.applied.isEmpty

/-- A chain of passes for one kind of module; without a runtime nothing is imported. -/
structure Engine where
  parse : Parser
  kind : FileKind
  runtime : Option Runtime

namespace Engine

/-- The passes in their order. -/
def passes (e : Engine) : List Pass :=
  [.truncation] ++ (e.runtime.map Pass.runtimeImport).toList ++ [.braces, .strings, .tags]

/-- The names of the passes in their order. -/
def passNames (e : Engine) : List String := e.passes.map Pass.name

/-- Runs one pass on what the passes before it have made of a source. -/
def step (e : Engine) (diagnostics : List Diagnostic) (r : Report) (p : Pass) : Report :=
  if diagnostics.any p.isCalledBy then
    let next := p.apply e.parse e.kind r.source
    if next = r.source then r else { source := next, applied := r.applied ++ [p.name] }
  else r

/-- Runs one cycle of repair on a source and the diagnostics that belong to it. -/
def run (e : Engine) (source : String) (diagnostics : List Diagnostic) : Report :=
  e.passes.foldl (e.step diagnostics) { source }

end Engine

end StoryMend.Repair
