import StoryMend.Text.Blank
import StoryMend.Text.Letter

/-!
The kinds of servers that offer language models.
-/

namespace StoryMend.Chat

/-- A kind of server. -/
inductive Provider where
  | ollama
  | openai
deriving Repr, DecidableEq, Inhabited

namespace Provider

/-- The name of a provider. -/
def name : Provider → String
  | ollama => "ollama"
  | openai => "openai"

/-- The address of a provider's server unless another one is set. -/
def usualEndpoint : Provider → String
  | ollama => "http://localhost:11434"
  | openai => "https://api.openai.com"

/-- The name of a provider as it is compared: in lower case and without blanks around it. -/
def normalName (name : String) : String := Text.plainLowercase (Text.trimmed name)

/-- The provider of a name. -/
def read? (name : String) : Option Provider :=
  match normalName name with
  | "ollama" => some ollama
  | "openai" | "chatgpt" => some openai
  | _ => none

/-- Where a provider's server takes conversations. -/
def chatPath : Provider → String
  | ollama => "/api/chat"
  | openai => "/v1/chat/completions"

end Provider

end StoryMend.Chat
