import StoryMend.Json.Form

/-!
The outcome of a validation: whether a story is accepted, what is wrong with it,
and the text to use when repair has changed it.
-/

namespace StoryMend

/-- The outcome of one validation. -/
structure Verdict where
  isValid : Bool
  errors : List String
  warnings : List String
  /-- The accepted text, if it is not the one that was given. -/
  fixedCode : Option String := none
deriving Repr, DecidableEq, Inhabited

namespace Verdict

/-- How verdicts stand in JSON. -/
def form : Json.Form Verdict where
  shape := .record "ValidationVerdict" <|
    .field "isValid" .flag none <|
    .field "errors" (.list .text) none <|
    .field "warnings" (.list .text) none <|
    .field "fixedCode" (.optional .text) (some .null) .done
  write v := .object <|
    [("isValid", .bool v.isValid), ("errors", .strings v.errors),
      ("warnings", .strings v.warnings)] ++ Json.optional "fixedCode" .string v.fixedCode
  build j :=
    { isValid := j.flagAt "isValid", errors := j.textsAt "errors"
      warnings := j.textsAt "warnings", fixedCode := j.textAt? "fixedCode" }

/-- An accepted story. -/
def valid (warnings : List String) (fixedCode : Option String) : Verdict :=
  { isValid := true, errors := [], warnings, fixedCode }

/-- A rejected story. -/
def failed (errors warnings : List String) : Verdict :=
  { isValid := false, errors, warnings, fixedCode := none }

end Verdict

end StoryMend
