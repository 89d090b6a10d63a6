import StoryMend.Chat.Error
import StoryMend.Chat.Message
import StoryMend.Environment
import StoryMend.Number.Read

/-!
The settings of a language model, and how they are read from the environment.
Without a kind of server there is no language model.
-/

namespace StoryMend.Chat

open Text

/-- The settings of a language model. -/
structure Settings where
  provider : Provider
  model : String
  endpoint : String
  key : Option String := none
  options : Options := {}
  /-- After how many seconds an answer is given up. -/
  timeout : Option Nat := none
deriving Repr, DecidableEq, Inhabited

/-- After how many seconds an answer is given up unless settings say otherwise. -/
def usualTimeout : Nat := 120

/-- The temperature unless another one is set: one fifth. -/
def usualTemperature : Number.Binary := Number.single.round false 1 5

/-- Whether an address names a web server. -/
def isWebAddress (s : String) : Bool :=
  "http://".toList.isPrefixOf s.toList || "https://".toList.isPrefixOf s.toList

/-- Holds the address of a server against the form it has to have. -/
def checkEndpoint (variableName endpoint : String) : Except SettingError Unit :=
  if isWebAddress endpoint then .ok ()
  else .error (.badFormat variableName "must start with http:// or https://")

/-- Holds a number against a range. -/
def checkRange (field : String) (least most x : Number.Binary) : Except SettingError Unit :=
  if x.isWithin least most then .ok ()
  else .error (.outOfRange field "expected value in inclusive range")

/-- The value of a variable that has to be set. -/
def required (env : Environment) (variableName : String) : Except SettingError String :=
  match env.value? variableName with
  | some v => .ok v
  | none => .error (.missing variableName)

/-- The number in a variable, if it is set. -/
def number? {α : Type} (read : String → Option α) (reason : String) (env : Environment)
    (variableName : String) : Except SettingError (Option α) :=
  match env.value? variableName with
  | none => .ok none
  | some v =>
    match read v with
    | some n => .ok (some n)
    | none => .error (.badNumber variableName reason)

namespace Settings

/-- After how many seconds an answer is given up. -/
def timeoutSeconds (s : Settings) : Nat := s.timeout.getD usualTimeout

/-- The address of the server without slashes at its end. -/
def baseAddress (s : Settings) : String :=
  String.ofList (dropWhileEnd (· == '/') (trim s.endpoint.toList))

/-- Where the server takes conversations. -/
def chatAddress (s : Settings) : String := s.baseAddress ++ s.provider.chatPath

/-- Reads the settings for a kind of server. -/
def ofKind (env : Environment) (kind : String) : Except SettingError Settings := do
  let provider ←
    match Provider.read? kind with
    | some p => .ok p
    | none => .error (.unknownProvider (Provider.normalName kind))
  let model ← required env "LLM_MODEL"
  let endpoint := (env.value? "LLM_ENDPOINT").getD provider.usualEndpoint
  checkEndpoint "LLM_ENDPOINT" endpoint
  let maxTokens ← number? (Number.natural? UInt32.size) "expected u32" env "LLM_MAX_TOKENS"
  let temperature ← number? Number.single.read? "expected f32" env "LLM_TEMPERATURE"
  let temperature := temperature.getD usualTemperature
  checkRange "LLM_TEMPERATURE" (Number.single.ofNat 0) (Number.single.ofNat 2) temperature
  let timeout ← number? (Number.natural? UInt64.size) "expected u64" env "LLM_TIMEOUT_SECS"
  return {
    provider, model, endpoint
    key := env.value? "LLM_API_KEY"
    options := { temperature := some temperature, maxTokens }
    timeout := some (timeout.getD usualTimeout) }

/-- Reads the settings of a language model, if a kind of server is set. -/
def ofEnvironment (env : Environment) : Except SettingError (Option Settings) :=
  match env.value? "LLM_KIND" with
  | none => .ok none
  | some kind => (ofKind env kind).map some

end Settings

end StoryMend.Chat
