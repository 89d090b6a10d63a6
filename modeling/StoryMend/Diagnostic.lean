import StoryMend.Json.Form

/-!
Located problems in a candidate source.  Lines and columns count from one, and
columns count bytes; they belong to the text that was examined and to no other.
-/

namespace StoryMend

/-- How grave a problem is. -/
inductive Severity where
  | error
  | warning
deriving Repr, DecidableEq, Inhabited

/-- The name of a severity. -/
def Severity.name : Severity → String
  | error => "error"
  | warning => "warning"

/-- A problem at a place in a text; the column may be unknown. -/
structure Diagnostic where
  message : String
  line : Nat
  column : Option Nat := none
  severity : Severity := .error
deriving Repr, DecidableEq, Inhabited

namespace Diagnostic

/-- How diagnostics stand in JSON. -/
def form : Json.Form Diagnostic where
  shape := .record "Diagnostic" <|
    .field "message" .text none <|
    .field "line" .size none <|
    .field "column" (.optional .size) (some .null) <|
    .field "severity" (.choice [Severity.error.name, Severity.warning.name]) none .done
  write d := .object <|
    [("message", .string d.message), ("line", .nat d.line)] ++
      Json.optional "column" .nat d.column ++ [("severity", .string d.severity.name)]
  build j :=
    { message := j.textAt "message", line := j.naturalAt "line", column := j.naturalAt? "column"
      severity := if j.textAt "severity" = Severity.warning.name then .warning else .error }

/-- Whether the problem is an error. -/
def isError (d : Diagnostic) : Bool := d.severity == .error

/-- The text that names the place and the problem. -/
def render (d : Diagnostic) : String :=
  match d.column with
  | some column => s!"Line {d.line}:{column}: {d.message}"
  | none => s!"Line {d.line}: {d.message}"

/-- Whether a place comes before another one or is the same; an unknown column comes
first in its line. -/
def notAfter (a b : Diagnostic) : Bool :=
  a.line < b.line || (a.line == b.line && a.column.getD 0 ≤ b.column.getD 0)

/-- Diagnostics by place; those at one place keep their order. -/
def sortByPlace (ds : List Diagnostic) : List Diagnostic := ds.mergeSort notAfter

/-- The texts of diagnostics, each once, where it first appears. -/
def renderAll (ds : List Diagnostic) : List String :=
  (ds.foldl (fun texts d => if d.render ∈ texts then texts else d.render :: texts) []).reverse

end Diagnostic

end StoryMend
