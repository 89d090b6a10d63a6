import StoryMend.Text.Blank

/-!
Variables of the environment.  Blanks around a value do not count, and a variable
whose value is blank is not set.
-/

namespace StoryMend

/-- The values of variables. -/
abbrev Environment := String → Option String

namespace Environment

/-- The value of a variable, if it is set. -/
def value? (env : Environment) (variableName : String) : Option String :=
  (env variableName).bind Text.trimmed?

/-- The environment of some variables; of several values for a variable the first one
counts. -/
def ofList (values : List (String × String)) : Environment := fun name =>
  values.lookup name

end Environment

end StoryMend
