import StoryMend.Proofs.Chat.Reply
import StoryMend.Proofs.Generation.Dialogue
import StoryMend.Proofs.Json.RoundTrip
import StoryMend.Proofs.Server.Envelope
import StoryMend.Proofs.Text.Blank

/-!
What requests for stories come to, and what is sent to the provider for them.  A record of
what is sent changes nothing, and holds one request for each call of the dialogue.  The main
statement sorts the answers: there is no language model, the prompt is blank, a call fails
before a reply is accepted, or there is a story.
-/

namespace StoryMend

/-- The same client in a world that keeps a record of what it is to send. -/
def Http.Peer.recorded {σ : Type} (peer : Http.Peer σ) : Http.Peer (σ × List Http.Post) :=
  fun post world =>
    let (answer, state) := peer post world.1
    (answer, state, world.2 ++ [post])

namespace Chat.Service

variable {σ : Type} (service : Service) (peer : Http.Peer σ) (messages : List Message)
  (o : Options) (state : σ)

theorem replyOf_ne_setting (s : Settings) (answer : Http.Answer) (e : SettingError) :
    replyOf s answer ≠ .error (.setting e) := by
  cases hstatus : Http.isSuccess answer.status with
  | false => simp [replyOf_of_refusal hstatus]
  | true =>
      cases hbody : (answerShape s.provider).read answer.body with
      | error fault => simp [replyOf_of_misfit hstatus hbody]
      | ok j =>
          rw [replyOf_of_read hstatus hbody]
          cases contents s.provider j with
          | nil => simp
          | cons c rest => cases hspeaks : speaks c <;> simp [hspeaks]

/-- Settings are not at fault when a call fails. -/
theorem ask_ne_setting (e : SettingError) :
    (service.ask peer messages o state).1 ≠ .error (.setting e) := by
  cases hpeer : peer (service.post messages o) state with
  | mk answer after =>
      cases answer with
      | error outage => simp [ask, hpeer]
      | ok answer =>
          rw [ask_of_answer hpeer]
          exact replyOf_ne_setting service.settings answer e

/-- A call fails where no server is reached. -/
theorem exists_ask_silent : ∃ e, (service.ask Http.silent messages o state).1 = .error e := by
  rw [ask, Http.silent]
  cases Http.Address.read? (service.post messages o).address with
  | none => exact ⟨_, rfl⟩
  | some address => exact ⟨_, rfl⟩

/-- A call adds one request to the record. -/
theorem ask_recorded (sent : List Http.Post) :
    service.ask peer.recorded messages o (state, sent) =
      ((service.ask peer messages o state).1, (service.ask peer messages o state).2,
        sent ++ [service.post messages o]) := by
  rw [ask, ask]
  cases hpeer : peer (service.post messages o) state with
  | mk answer after => cases answer <;> simp [Http.Peer.recorded, hpeer]

/-- What is sent for some calls: one request for each. -/
def postsOf (calls : List Generation.Call) : List Http.Post :=
  calls.map fun call => service.post call.messages call.options

/-- The record of what is sent is made of the record of the calls. -/
theorem ask_recorded_follows :
    Generation.Model.Follows (service.ask peer.recorded)
      (Generation.Model.recorded (service.ask peer))
      fun world => (world.1, service.postsOf world.2) := by
  intro messages options world
  simp [ask_recorded, Generation.Model.recorded, postsOf]

end Chat.Service

namespace Server

open Generation Text

/-- An answer is a failure of the given status and kind. -/
def Response.Fails (response : Response) (status : Nat) (code : String) : Prop :=
  response.status = status ∧
    ∃ message, response.content = .json (failureEnvelope code message [])

/-- What a handler answers is a failure if the handler fails in that way. -/
theorem fails_respond_iff {outcome : Except Error Json} {status : Nat} {code : String}
    (hstatus : status ≠ 200) :
    (respond outcome).Fails status code ↔
      ∃ e, outcome = .error e ∧ e.status = status ∧ e.code = code := by
  cases outcome with
  | ok data =>
      have hok : (respond (.ok data)).status = 200 := rfl
      simp [Response.Fails, hok, Ne.symm hstatus]
  | error e =>
      simp [Response.Fails, respond, Response.failure, Response.ofJson, failureEnvelope,
        eq_comm]

/-- A call that fails is a failure of the model. -/
theorem Error.ofChat_eq_model {e : Chat.Error} (he : ∀ fault, e ≠ .setting fault) :
    Error.ofChat e = .model e := by
  cases e with
  | setting fault => exact absurd rfl (he fault)
  | provider p fault => rfl
  | transport outage => rfl

variable {σ : Type} (state : State) (peer : Http.Peer σ) (world : σ)

/-- The answer to a request for a story is that of its handler. -/
theorem answer_of_generate {r : Request} {body : Generation.Request}
    (hreaches : r.Reaches .generate) (hbody : r.read Generation.Request.form = .ok body) :
    answer state peer r world =
      (respond (answerGenerate state peer body world).1,
        (answerGenerate state peer body world).2) := by
  rw [answer_of_reaches state peer world hreaches, routeAnswer, hbody]
  simp only [enveloped_respond]

/-- The dialogue that a request for a story leads to. -/
def dialogueOf (model : Chat.Service) (body : Generation.Request) : Dialogue σ :=
  .about (model.ask peer) state.validator state.inventory state.generation body
    (trimmed body.prompt) world

/-- The replies of such a dialogue are those of the model. -/
theorem exists_reply_dialogueOf (model : Chat.Service) (body : Generation.Request) (k : Nat) :
    ∃ messages o after, ((dialogueOf state peer world model body).call k).reply =
      (model.ask peer messages o after).1 := by
  have hask : (dialogueOf state peer world model body).ask = model.ask peer := by
    rw [dialogueOf, Dialogue.about]
  rw [Dialogue.call, hask]
  exact ⟨_, _, _, rfl⟩

/-- Settings are not at fault when a call of such a dialogue fails. -/
theorem reply_ne_setting (model : Chat.Service) (body : Generation.Request) (k : Nat)
    (fault : Chat.SettingError) :
    ((dialogueOf state peer world model body).call k).reply ≠ .error (.setting fault) := by
  obtain ⟨messages, o, after, hreply⟩ := exists_reply_dialogueOf state peer world model body k
  rw [hreply]
  exact model.ask_ne_setting peer messages o after fault

variable {state} {model : Chat.Service} {body : Generation.Request}

theorem answerGenerate_of_no_model (hmodel : state.model = none) :
    answerGenerate state peer body world = (.error .noModel, world) := by
  rw [answerGenerate, hmodel]

/-- Without a prompt nothing is asked. -/
theorem answerGenerate_of_blank (hmodel : state.model = some model)
    (hblank : trimmed body.prompt = "") :
    answerGenerate state peer body world =
      (.error (.badRequest "`prompt` must not be empty"), world) := by
  rw [answerGenerate, hmodel]
  simp only [generate, trimmed?_eq, if_pos hblank]
  rfl

/-- What the handler makes of a dialogue, with the record of what is sent. -/
theorem answerGenerate_recorded (hmodel : state.model = some model)
    (hprompt : trimmed body.prompt ≠ "") {ended : Except Chat.Error Ending} {after : σ}
    {calls : List Call}
    (hrun : (dialogueOf state peer world model body).run state.generation.maxAttempts =
      (ended, after, calls)) :
    answerGenerate state peer.recorded body (world, []) =
      (((outcomeOf state.generation body (trimmed body.prompt) ended).mapError
        Error.ofGeneration).map Story.write, after, model.postsOf calls) := by
  have htrimmed : trimmed? body.prompt = some (trimmed body.prompt) := by
    rw [trimmed?_eq, if_neg hprompt]
  have hmade := generate_of_run _ _ _ _ _ _ htrimmed hrun
  have hsame := generate_of_follows (model.ask_recorded_follows peer) state.validator
    state.inventory state.generation body (world, [])
  simp only [hmade, Chat.Service.postsOf, List.map_nil] at hsame
  rw [answerGenerate, hmodel]
  simp only [hsame, Chat.Service.postsOf]

/-- The record changes neither the answer nor the world. -/
theorem answerGenerate_eq_recorded (sent : List Http.Post) :
    answerGenerate state peer body world =
      ((answerGenerate state peer.recorded body (world, sent)).1,
        (answerGenerate state peer.recorded body (world, sent)).2.1) := by
  cases hmodel : state.model with
  | none => simp only [answerGenerate_of_no_model _ _ hmodel]
  | some model =>
      have hfollows : Model.Follows (model.ask peer) (model.ask peer.recorded) Prod.fst := by
        intro messages options world
        rw [model.ask_recorded]
      have hsame := generate_of_follows hfollows state.validator state.inventory
        state.generation body (world, sent)
      simp only [answerGenerate, hmodel, hsame]

/-- The first call that fails ends the dialogue with a failure of the model. -/
theorem answerGenerate_of_failed (hmodel : state.model = some model)
    (hprompt : trimmed body.prompt ≠ "") {k : Nat} (hk : k < state.generation.maxAttempts)
    (hrejected : (dialogueOf state peer world model body).RejectedUpTo k) {e : Chat.Error}
    (hreply : ((dialogueOf state peer world model body).call k).reply = .error e) :
    ∃ after, answerGenerate state peer.recorded body (world, []) =
      (.error (.model e), after,
        model.postsOf ((List.range (k + 1)).map (dialogueOf state peer world model body).call)) := by
  have hrun := Dialogue.run_of_failed _ hk hrejected hreply
  refine ⟨((dialogueOf state peer world model body).turn (k + 1)).2, ?_⟩
  rw [answerGenerate_recorded peer world hmodel hprompt hrun]
  have hfault : ∀ fault, e ≠ .setting fault := by
    rintro fault rfl
    exact reply_ne_setting state peer world model body k fault hreply
  have hmodelFault : Error.ofGeneration (.model e) = .model e := Error.ofChat_eq_model hfault
  simp only [outcomeOf, Except.mapError, hmodelFault, Except.map]

/-- A dialogue in which no call fails ends with a story. -/
theorem answerGenerate_of_not_failed (hmodel : state.model = some model)
    (hprompt : trimmed body.prompt ≠ "")
    (hnone : ¬(dialogueOf state peer world model body).FailsWithin
      state.generation.maxAttempts) :
    ∃ story, (generate (model.ask peer) state.validator state.inventory state.generation body
        world).1 = .ok story ∧
      (answerGenerate state peer.recorded body (world, [])).1 = .ok story.write := by
  obtain ⟨ending, ⟨after, calls⟩, hrun⟩ := Dialogue.exists_ending_of_not_failsWithin _ hnone
  have htrimmed : trimmed? body.prompt = some (trimmed body.prompt) := by
    rw [trimmed?_eq, if_neg hprompt]
  have hmade := generate_of_run _ _ _ _ _ _ htrimmed hrun
  refine ⟨_, ?_, by rw [answerGenerate_recorded peer world hmodel hprompt hrun]; rfl⟩
  rw [generate_recorded _ _ _ _ _ _ [], hmade]
  rfl

/-- The three ways in which the handler ends if there is a model. -/
theorem answerGenerate_cases (body : Generation.Request) (hmodel : state.model = some model) :
    let outcome := (answerGenerate state peer.recorded body (world, [])).1
    let failed := (dialogueOf state peer world model body).FailsWithin
      state.generation.maxAttempts
    (trimmed body.prompt = "" ∧ outcome = .error (.badRequest "`prompt` must not be empty")) ∨
      (trimmed body.prompt ≠ "" ∧ failed ∧ ∃ e, outcome = .error (.model e)) ∨
      (trimmed body.prompt ≠ "" ∧ ¬failed ∧ ∃ data, outcome = .ok data) := by
  intro outcome failed
  by_cases hprompt : trimmed body.prompt = ""
  · refine Or.inl ⟨hprompt, ?_⟩
    simp only [outcome, answerGenerate_of_blank _ _ hmodel hprompt]
  · by_cases hfailed : failed
    · obtain ⟨k, hk, hrejected, e, hreply⟩ := hfailed
      obtain ⟨after, hended⟩ :=
        answerGenerate_of_failed peer world hmodel hprompt hk hrejected hreply
      refine Or.inr (Or.inl ⟨hprompt, ⟨k, hk, hrejected, e, hreply⟩, e, ?_⟩)
      simp only [outcome, hended]
    · obtain ⟨story, -, hended⟩ := answerGenerate_of_not_failed peer world hmodel hprompt hfailed
      exact Or.inr (Or.inr ⟨hprompt, hfailed, _, hended⟩)

/-- With a model, a request fails for its prompt or for a call, and never otherwise. -/
theorem fails_answerGenerate_iff (body : Generation.Request) (hmodel : state.model = some model) :
    let response := respond (answerGenerate state peer.recorded body (world, [])).1
    response.status ≠ 500 ∧ ¬response.Fails 503 "LLM_UNAVAILABLE" ∧
      (response.Fails 400 "BAD_REQUEST" ↔ trimmed body.prompt = "") ∧
      (response.Fails 502 "LLM_ERROR" ↔ trimmed body.prompt ≠ "" ∧
        (dialogueOf state peer world model body).FailsWithin state.generation.maxAttempts) := by
  intro response
  simp only [response]
  rw [fails_respond_iff (by decide), fails_respond_iff (by decide), fails_respond_iff (by decide)]
  rcases answerGenerate_cases peer world body hmodel with
    ⟨hblank, h⟩ | ⟨hprompt, hfailed, e, h⟩ | ⟨hprompt, hfailed, data, h⟩
  · simp [h, hblank, respond, Response.failure, Response.ofJson, Error.status, Error.code]
  · simp [h, hprompt, hfailed, respond, Response.failure, Response.ofJson, Error.status, Error.code]
  · simp [h, hprompt, hfailed, respond, Response.success, Response.ofJson]

/-- A dialogue whose replies are all rejected meets no call that fails. -/
theorem not_failsWithin_of_rejectedUpTo {d : Dialogue σ} {attempts : Nat}
    (hrejected : d.RejectedUpTo attempts) : ¬d.FailsWithin attempts := by
  rintro ⟨k, hk, -, e, hreply⟩
  obtain ⟨reply, hreplied, -⟩ := hrejected k hk
  cases hreply.symm.trans hreplied

variable (state)

end Server

namespace Choices

open Server

/-- A service whose model is behind a provider with several choices. -/
def state : State := { CutOffStory.state with model := some service }

/-- A request whose body asks for a story. -/
def storyRequest : Request where
  method := "POST"
  target := "/story/generate"
  headers := [("Content-Type", "application/json")]
  body := (Generation.Request.form.write CutOffStory.request).text.toUTF8.toList

theorem reaches_storyRequest : storyRequest.Reaches .generate := ⟨rfl, rfl⟩

theorem read_storyRequest :
    storyRequest.read Generation.Request.form = .ok CutOffStory.request := by
  have hnames : storyRequest.NamesJson := ⟨"application/json", by decide, by decide, by decide⟩
  have hshort : storyRequest.body.length ≤ maxBody := by
    rw [storyRequest, Json.toList_toUTF8_text]
    decide
  exact Request.read_of_readText hnames hshort rfl
    (Generation.Request.keeps CutOffStory.request).readsAs.readText

/-- The provider's first choice says something, but holds no code. -/
theorem rejectedUpTo_shown (k : Nat) :
    (dialogueOf state (peer (answerOf ["ok", " "])) () service CutOffStory.request).RejectedUpTo
      k := by
  intro i _
  have hcode : Reply.code? "ok" = none := by decide
  obtain ⟨messages, o, after, hasked⟩ := exists_reply_dialogueOf state
    (peer (answerOf ["ok", " "])) () service CutOffStory.request i
  have hreplied : ((dialogueOf state (peer (answerOf ["ok", " "])) () service
      CutOffStory.request).call i).reply = .ok "ok" := by
    rw [hasked, Chat.Service.ask_of_answer rfl, Chat.Service.replyOf_of_read rfl read_shown]
    rfl
  refine ⟨"ok", hreplied, fun code hfound => ?_⟩
  rw [hcode] at hfound
  cases hfound

end Choices

end StoryMend
