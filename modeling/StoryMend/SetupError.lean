import StoryMend.Json.Reading
import StoryMend.Pattern.Error

/-!
Why a validator, its settings or its inventory cannot be set up.  Once there is a
validator, everything that is wrong with a story is reported as part of a verdict.
-/

namespace StoryMend

/-- A failure before any story is validated. -/
inductive SetupError where
  /-- A file that cannot be read. -/
  | unreadable (reason : String)
  /-- A text that does not have the required form. -/
  | malformed (error : Json.ReadError)
  /-- A name pattern that is not well formed. -/
  | badPattern (error : Pattern.Error)
  /-- A variable that holds no suitable number. -/
  | badNumber (variableName reason : String)
  | unknownFileKind (text : String)
deriving Repr, DecidableEq

namespace SetupError

/-- The message about a failure. -/
def message : SetupError → String
  | unreadable reason => s!"io error: {reason}"
  | malformed e => s!"serde json error: {e.message}"
  | badPattern e => s!"invalid blacklist pattern `{e.pattern}`: {e.reason}"
  | badNumber variableName reason => s!"invalid number in {variableName}: {reason}"
  | unknownFileKind text => s!"unknown file kind: {text}"

end SetupError

end StoryMend
