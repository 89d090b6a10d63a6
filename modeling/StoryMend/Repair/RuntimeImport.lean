import StoryMend.Diagnose

/-!
The missing import of a runtime.  It goes before the first line that starts an
import, or to the top of the text.
-/

namespace StoryMend.Repair

/-- Puts a line before the first line that starts an import, or at the top. -/
def insertBeforeImports (line s : List Char) : List Char :=
  match Import.splitAtFirst? s with
  | some (before, rest) => before ++ line ++ ['\n'] ++ rest
  | none => line ++ ['\n'] ++ s

/-- Inserts the import of the runtime, if the source has markup and lacks it. -/
def insertRuntimeImport (parse : Parser) (runtime : Runtime) (kind : FileKind)
    (source : String) : String :=
  if Diagnose.lacksRuntime (parse source kind) runtime source then
    String.ofList (insertBeforeImports runtime.statement.toList source.toList)
  else source

end StoryMend.Repair
