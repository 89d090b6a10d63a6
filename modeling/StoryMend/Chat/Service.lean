import StoryMend.Chat.Settings
import StoryMend.Json.Form

/-!
A language model behind a server: what is sent to it for a conversation, and what
its answers say.
-/

namespace StoryMend.Chat

open Text

/-- Whether a character may stand in the value of a header. -/
def isHeaderChar (c : Char) : Bool := (32 ≤ c.toNat && c.toNat ≠ 127) || c == '\t'

/-- A language model that is ready for conversations. -/
structure Service where
  settings : Settings
  /-- What is sent to prove the right to use the model, if it needs proof. -/
  authorization : Option String
deriving Repr, DecidableEq

namespace Service

/-- Holds settings against what a provider needs of every server. -/
def checkServer (p : Provider) (s : Settings) : Except Error Unit :=
  if s.provider ≠ p then .error (.provider p .wrongProvider)
  else if isBlankText s.model.toList then .error (.setting .noModel)
  else if isWebAddress (trimmed s.endpoint) then .ok ()
  else .error (.provider p (.badEndpoint s.endpoint))

/-- What proves the right to use a model, made of the key in its settings. -/
def bearer (s : Settings) : Except Error String :=
  match s.key with
  | none => .error (.provider .openai .noKey)
  | some key =>
    if isBlankText key.toList then .error (.provider .openai .noKey)
    else if key.toList.all isHeaderChar then .ok ("Bearer " ++ key)
    else
      .error <| .provider .openai <|
        .undecodable "invalid API key header: failed to parse header value"

/-- The service of a provider with the given settings. -/
def forProvider (p : Provider) (s : Settings) : Except Error Service :=
  match checkServer p s with
  | .error e => .error e
  | .ok () =>
    match p with
    | .ollama => .ok { settings := s, authorization := none }
    | .openai => (bearer s).map fun b => { settings := s, authorization := some b }

/-- The service that settings describe. -/
def ofSettings (s : Settings) : Except Error Service := forProvider s.provider s

/-- The service that the environment describes, if it describes one. -/
def ofEnvironment (env : Environment) : Except Error (Option Service) :=
  match Settings.ofEnvironment env with
  | .error e => .error (.setting e)
  | .ok none => .ok none
  | .ok (some s) => (ofSettings s).map some

/-- The fields that hold choices, where there are any. -/
def writeOptions (maxTokens : String) (o : Options) : List (String × Json) :=
  let real := fun x => Json.number (.single x)
  Json.optional "temperature" real o.temperature ++ Json.optional "top_p" real o.topP ++
    Json.optional maxTokens .nat o.maxTokens

/-- What is sent for a conversation. -/
def requestBody (s : Settings) (messages : List Message) (o : Options) : Json :=
  let o := o.orElse s.options
  let start := [("model", .string s.model), ("messages", .array (messages.map Message.write))]
  match s.provider with
  | .ollama =>
    let options := match writeOptions "num_predict" o with
      | [] => []
      | fields => [("options", .object fields)]
    .object (start ++ [("stream", .bool false)] ++ options)
  | .openai => .object (start ++ writeOptions "max_tokens" o)

/-- What the answers of a provider have to look like. -/
def answerShape : Provider → Json.Shape
  | .ollama =>
    .record "ChatResponse" <|
      .field "message"
        (.optional <| .record "ChatResponseMessage" <| .field "content" .text none .done)
        (some .null) .done
  | .openai =>
    .record "ChatCompletionResponse" <|
      .field "choices"
        (.list <| .record "ChatChoice" <|
          .field "message"
            (.record "ChatMessageOut" <| .field "content" (.optional .text) (some .null) .done)
            none .done)
        none .done

/-- The contents that an answer of the regular form carries, in order. -/
def contents (p : Provider) (answer : Json) : List String :=
  match p with
  | .ollama => ((answer.field? "message").bind (Json.textAt? "content")).toList
  | .openai =>
    (answer.itemsAt "choices").filterMap fun choice =>
      (choice.field? "message").bind (Json.textAt? "content")

/-- What an answer of a provider that is not of the required form is said to be. -/
def formFault : Provider → ProviderFault
  | .ollama =>
    .undecodable "serde error: error decoding response body; ensure `stream=false` is used"
  | .openai =>
    .undecodable
      "serde error: error decoding response body; expected `choices[0].message.content`"

/-- The reply in an answer: its first content, which must not be blank. -/
def replyOf (s : Settings) (answer : Http.Answer) : Except Error String :=
  let p := s.provider
  if !Http.isSuccess answer.status then
    .error (.provider p (.badStatus answer.status s.chatAddress (snippet answer.text)))
  else
    match (answerShape p).read answer.body with
    | .error _ => .error (.provider p (formFault p))
    | .ok j =>
      match (contents p j).head? with
      | none => .error (.provider p .noContent)
      | some c =>
        if isBlankText c.toList then .error (.provider p .noContent) else .ok c

/-- The request for a conversation. -/
def post (service : Service) (messages : List Message) (o : Options) : Http.Post where
  address := service.settings.chatAddress
  authorization := service.authorization
  body := (requestBody service.settings messages o).text

/-- The model's reply to a conversation. -/
def ask {σ : Type} (service : Service) (peer : Http.Peer σ) (messages : List Message)
    (o : Options) (state : σ) : Except Error String × σ :=
  match peer (service.post messages o) state with
  | (.error outage, state) => (.error (.transport outage), state)
  | (.ok answer, state) => (replyOf service.settings answer, state)

end Service

end StoryMend.Chat
