import StoryMend.Chat.Provider
import StoryMend.Http.Exchange
import StoryMend.Http.Status
import StoryMend.Text.Line

/-!
What goes wrong with a language model: in its settings, at its provider, or on the
way to it.
-/

namespace StoryMend.Chat

open Text

/-- What is wrong with a setting. -/
inductive SettingError where
  | missing (variableName : String)
  | badNumber (variableName reason : String)
  | unknownProvider (name : String)
  | badFormat (variableName reason : String)
  | outOfRange (field detail : String)
  | noModel
deriving Repr, DecidableEq

/-- The message about a setting, without the mark of all messages. -/
def SettingError.describe : SettingError → String
  | missing variableName => s!"missing required environment variable: {variableName}"
  | badNumber variableName reason => s!"invalid number in {variableName}: {reason}"
  | unknownProvider name => s!"unsupported provider: {name}"
  | badFormat variableName reason => s!"invalid format in {variableName}: {reason}"
  | outOfRange field detail => s!"{field} is out of range: {detail}"
  | noModel => "model name must not be empty"

/-- What is wrong with a provider or its answers. -/
inductive ProviderFault where
  /-- The settings are for another provider. -/
  | wrongProvider
  | noKey
  | badEndpoint (endpoint : String)
  /-- An answer whose status is no success, with a snippet of its body. -/
  | badStatus (status : Nat) (address snippet : String)
  | undecodable (reason : String)
  /-- An answer that holds no message. -/
  | noContent
deriving Repr, DecidableEq

/-- The message about a provider. -/
def ProviderFault.describe : ProviderFault → String
  | wrongProvider => "config is for a different provider"
  | noKey => "missing API key"
  | badEndpoint endpoint => s!"invalid endpoint: {endpoint}"
  | badStatus status address snippet =>
    "HTTP " ++ Http.describeStatus status ++ s!" from {address}: {snippet}"
  | undecodable reason => s!"decode error: {reason}"
  | noContent => "response contained no message content"

/-- What goes wrong with a language model. -/
inductive Error where
  | setting (error : SettingError)
  | provider (provider : Provider) (fault : ProviderFault)
  | transport (outage : Http.Outage)
deriving Repr, DecidableEq

/-- The mark that all messages start with. -/
def mark : String := "[AI LLM Service] "

/-- The message about what goes wrong. -/
def Error.message : Error → String
  | setting e => mark ++ e.describe
  | provider p fault => mark ++ p.name ++ ": " ++ fault.describe
  | transport outage => mark ++ "transport error: " ++ outage.message

/-- How many characters of a body a message shows. -/
def snippetLength : Nat := 240

/-- The start of a body, on one line. -/
def snippet (body : String) : String :=
  String.ofList ((join [' '] (words body.toList)).take snippetLength)

end StoryMend.Chat
