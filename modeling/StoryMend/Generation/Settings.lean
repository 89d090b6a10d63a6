import StoryMend.Chat.Error
import StoryMend.Environment
import StoryMend.Framework
import StoryMend.Number.Read

/-!
The settings of generation, how they are read from the environment, and why a
story may fail to be generated.
-/

namespace StoryMend.Generation

/-- Why no story is generated. -/
inductive Error where
  /-- The language model fails. -/
  | model (error : Chat.Error)
  | badSetting (variableName reason : String)
  | emptyPrompt
deriving Repr, DecidableEq

/-- The message about a failure. -/
def Error.message : Error → String
  | model e => e.message
  | badSetting variableName reason => s!"invalid value in {variableName}: {reason}"
  | emptyPrompt => "empty prompt"

/-- The settings of generation. -/
structure Settings where
  /-- The framework of a story whose request names none. -/
  framework : Framework := .react
  /-- How often the model is asked before a placeholder takes the story's place. -/
  maxAttempts : Nat := 3
  temperature : Option Number.Binary := none
deriving Repr, DecidableEq, Inhabited

namespace Settings

/-- The variable that holds the number of attempts. -/
def attemptsVariable : String := "STORY_MAX_ATTEMPTS"

/-- Reads the number of attempts, which must not be zero. -/
def readAttempts (env : Environment) (s : Settings) : Except Error Settings :=
  match env.value? attemptsVariable with
  | none => .ok s
  | some v =>
    match Number.natural? UInt64.size v with
    | none => .error (.badSetting attemptsVariable "expected positive integer")
    | some 0 => .error (.badSetting attemptsVariable "must be at least 1")
    | some n => .ok { s with maxAttempts := n }

/-- The framework that the environment names. -/
def readFramework (env : Environment) (s : Settings) : Settings :=
  match env.value? "STORY_FRAMEWORK" with
  | none => s
  | some v => { s with framework := .ofName v }

/-- The settings that an environment holds. -/
def ofEnvironment (env : Environment) : Except Error Settings :=
  readAttempts env (readFramework env {})

end Settings

end StoryMend.Generation
