import StoryMend.Environment
import StoryMend.Number.Read
import StoryMend.Settings
import StoryMend.SetupError

/-!
Settings of a validator from variables of the environment; what is not set keeps
its default.
-/

namespace StoryMend.Settings

/-- Reads the number of repair cycles. -/
def readRetries (env : Environment) (s : Settings) : Except SetupError Settings :=
  match env.value? "STORY_MAX_RETRIES" with
  | none => .ok s
  | some v =>
    match Number.natural? UInt64.size v with
    | some n => .ok { s with maxRetries := n }
    | none => .error (.badNumber "STORY_MAX_RETRIES" "expected non-negative integer")

/-- Reads the kind of module. -/
def readKind (env : Environment) (s : Settings) : Except SetupError Settings :=
  match env.value? "STORY_FILE_KIND" with
  | none => .ok s
  | some v =>
    match FileKind.read? v with
    | some kind => .ok { s with kind }
    | none => .error (.unknownFileKind v)

/-- Reads the module of the runtime; the word `none` switches the runtime off. -/
def readRuntime (env : Environment) (s : Settings) : Settings :=
  match env.value? "STORY_RUNTIME_MODULE" with
  | none => s
  | some v =>
    { s with runtime := if Text.sameUpToCase v "none" then none else some (.ofModule v) }

/-- Reads the statement that imports the runtime, if there is one. -/
def readStatement (env : Environment) (s : Settings) : Settings :=
  match env.value? "STORY_RUNTIME_STATEMENT" with
  | none => s
  | some statement => { s with runtime := s.runtime.map fun r => { r with statement } }

/-- Reads the module whose imports are checked. -/
def readPath (env : Environment) (s : Settings) : Settings :=
  match env.value? "STORY_PRIMARY_IMPORT" with
  | none => s
  | some primaryPath => { s with primaryPath }

/-- The settings that an environment holds. -/
def ofEnvironment (env : Environment) : Except SetupError Settings :=
  ((readRetries env (readPath env {})).bind (readKind env)).map fun s =>
    readStatement env (readRuntime env s)

end StoryMend.Settings
