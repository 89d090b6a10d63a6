import StoryMend.Json.Value

/-!
Conversations with a language model, and what may be chosen for one call.
-/

namespace StoryMend.Chat

/-- The author of a message. -/
inductive Role where
  | system
  | user
  | assistant
deriving Repr, DecidableEq, Inhabited

/-- The name of a role. -/
def Role.name : Role → String
  | system => "system"
  | user => "user"
  | assistant => "assistant"

/-- One turn of a conversation. -/
structure Message where
  role : Role
  content : String
deriving Repr, DecidableEq, Inhabited

/-- How a message is written. -/
def Message.write (m : Message) : Json :=
  .object [("role", .string m.role.name), ("content", .string m.content)]

/-- Choices for one call; what is not chosen is as in the settings. -/
structure Options where
  temperature : Option Number.Binary := none
  maxTokens : Option Nat := none
  topP : Option Number.Binary := none
deriving Repr, DecidableEq, Inhabited

/-- The choices of a call, with those of settings where it has none. -/
def Options.orElse (a b : Options) : Options where
  temperature := a.temperature.or b.temperature
  maxTokens := a.maxTokens.or b.maxTokens
  topP := a.topP.or b.topP

end StoryMend.Chat
