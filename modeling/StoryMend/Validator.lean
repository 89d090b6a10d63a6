import StoryMend.Import.Rules
import StoryMend.Repair.Engine
import StoryMend.SetupError
import StoryMend.Verdict

/-!
The validation of a story: a check of the syntax, cycles of repair as long as they
change something and the budget lasts, and a check of the imports.  What is wrong
with the imports is never repaired.
-/

namespace StoryMend

/-- A validator: settings, the rules that come of them, and what reads sources and name
patterns for it. -/
structure Validator where
  parse : Parser
  settings : Settings
  rules : Import.Rules
  compiler : Pattern.Compiler := Pattern.compile

namespace Validator

/-- The validator of settings; a name pattern may turn out not to compile. -/
def ofSettings (parse : Parser) (settings : Settings)
    (compiler : Pattern.Compiler := Pattern.compile) : Except SetupError Validator :=
  match Import.Rules.ofSettings settings compiler with
  | .ok rules => .ok { parse, settings, rules, compiler }
  | .error e => .error (.badPattern e)

/-- The validator of settings with the usual name patterns. -/
def withUsualNames (parse : Parser) (settings : Settings)
    (compiler : Pattern.Compiler := Pattern.compile) : Validator where
  parse := parse
  settings := settings
  rules := .withNames settings (.usual compiler)
  compiler := compiler

/-- The chain of repair passes of a validator. -/
def engine (v : Validator) : Repair.Engine where
  parse := v.parse
  kind := v.settings.kind
  runtime := v.settings.runtime

/-- What is wrong with the syntax of a source. -/
def syntaxErrors (v : Validator) (source : String) : List Diagnostic :=
  Diagnose.syntaxErrors v.parse v.settings.kind v.settings.runtime source

/-- What is wrong with the imports of a source. -/
def importErrors (v : Validator) (inv : Inventory) (source : String) : List Diagnostic :=
  v.rules.check v.parse inv v.settings.primaryPath source

/-- Adds the names that are not there yet. -/
def addNames (names more : List String) : List String :=
  more.foldl (fun names n => if names.contains n then names else names ++ [n]) names

/-- Repairs a source with the given diagnostics in at most `budget` cycles: the repaired
source and the names of the passes that changed it, or the diagnostics that are left. -/
def repair (v : Validator) (source : String) (diagnostics : List Diagnostic)
    (applied : List String) (budget : Nat) : Except (List Diagnostic) (String × List String) :=
  if diagnostics.isEmpty then .ok (source, applied)
  else
    match budget with
    | 0 => .error diagnostics
    | budget + 1 =>
      let report := v.engine.run source diagnostics
      if report.changed then
        v.repair report.source (v.syntaxErrors report.source)
          (addNames applied report.applied) budget
      else .error diagnostics

/-- The warning that names the passes that changed a story, if any did. -/
def repairWarnings (applied : List String) : List String :=
  if applied.isEmpty then []
  else ["Auto-fixed syntax (" ++ String.intercalate ", " applied ++ ")"]

/-- The verdict on a story with faultless syntax that was made of the text `raw`. -/
def judgeImports (v : Validator) (inv : Inventory) (raw source : String)
    (warnings : List String) : Verdict :=
  match v.importErrors inv source with
  | [] => .valid warnings (if source = raw then none else some source)
  | errors => .failed (Diagnostic.renderAll errors) warnings

/-- The verdict on a story. -/
def validate (v : Validator) (inv : Inventory) (raw : String) : Verdict :=
  match Diagnose.contentError? v.parse v.settings.kind raw with
  | some d => .failed [d.render] []
  | none =>
    match v.repair raw (v.syntaxErrors raw) [] v.settings.maxRetries with
    | .error diagnostics => .failed (Diagnostic.renderAll diagnostics) []
    | .ok (source, applied) => v.judgeImports inv raw source (repairWarnings applied)

end Validator

/-- The verdict on a story with the usual settings for a module and a number of repair
cycles. -/
def validate (parse : Parser) (inv : Inventory) (primaryPath : String) (maxRetries : Nat)
    (raw : String) (compiler : Pattern.Compiler := Pattern.compile) : Verdict :=
  (Validator.withUsualNames parse (.forPath primaryPath maxRetries) compiler).validate inv raw

end StoryMend
