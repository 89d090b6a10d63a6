import StoryMend.Chat.Error
import StoryMend.Generation.Settings
import StoryMend.SetupError

/-!
Why the service does not start, or does not do what a request asks for.
-/

namespace StoryMend.Server

/-- A failure of the service. -/
inductive Error where
  /-- Settings that cannot be used. -/
  | settings (reason : String)
  /-- An address on which the service cannot listen. -/
  | address (address : String)
  | badRequest (reason : String)
  /-- No language model is set up. -/
  | noModel
  /-- The language model fails. -/
  | model (error : Chat.Error)
deriving Repr, DecidableEq

namespace Error

/-- The message about a failure. -/
def message : Error → String
  | settings reason => s!"configuration error: {reason}"
  | address a => s!"failed to bind listener on {a}"
  | badRequest reason => s!"bad request: {reason}"
  | noModel => "no LLM is configured; set LLM_KIND to enable generation"
  | model e => e.message

/-- The status of the answer to a request that fails. -/
def status : Error → Nat
  | settings _ | address _ => 500
  | badRequest _ => 400
  | noModel => 503
  | model _ => 502

/-- The name of a kind of failures. -/
def code : Error → String
  | settings _ => "CONFIG_ERROR"
  | address _ => "BIND_ERROR"
  | badRequest _ => "BAD_REQUEST"
  | noModel => "LLM_UNAVAILABLE"
  | model _ => "LLM_ERROR"

/-- A failure of setting up, as one of the service. -/
def ofSetup (e : SetupError) : Error := .settings e.message

/-- A failure of a language model, as one of the service: wrong settings are known when the
service starts. -/
def ofChat : Chat.Error → Error
  | .setting e => .settings (Chat.Error.setting e).message
  | e => .model e

/-- A failure of generation, as one of the service. -/
def ofGeneration : Generation.Error → Error
  | .model e => ofChat e
  | .emptyPrompt => .badRequest "`prompt` must not be empty"
  | .badSetting variableName reason =>
    .settings (Generation.Error.badSetting variableName reason).message

end Error

end StoryMend.Server
