import StoryMend.Generation.Dialogue
import StoryMend.Server.Rejection
import StoryMend.Server.State

/-!
The routes of the service, and what each of them answers.
-/

namespace StoryMend.Server

/-- A route of the service. -/
inductive Route where
  | health
  | validate
  | extract
  | fallback
  | generate
deriving Repr, DecidableEq

namespace Route

/-- The path of a route. -/
def path : Route → String
  | health => "/health"
  | validate => "/story/validate"
  | extract => "/story/extract"
  | fallback => "/story/fallback"
  | generate => "/story/generate"

/-- The method of a route. -/
def method : Route → String
  | health => "GET"
  | _ => "POST"

/-- All routes. -/
def all : List Route := [health, validate, extract, fallback, generate]

/-- The route of a path. -/
def ofPath? (path : String) : Option Route := all.find? (·.path == path)

end Route

/-- The answer to a question about the health of the service. -/
def answerHealth (state : State) : Json :=
  .object <|
    [("status", .string "ok"), ("components", .nat state.inventory.size),
      ("primaryImportPath", .string state.validator.settings.primaryPath),
      ("llmConfigured", .bool state.model.isSome)] ++
      Json.optional "llmModel" .string (state.model.map fun m => m.settings.model)

/-- A request to validate a story, perhaps with settings of its own. -/
structure ValidateRequest where
  code : String
  primaryPath : Option String
  maxRetries : Option Nat
deriving Repr, DecidableEq

namespace ValidateRequest

/-- How such requests stand in JSON. -/
def form : Json.Form ValidateRequest where
  shape := .record "ValidateRequest" <|
    .field "code" .text none <|
    .field "primaryImportPath" (.optional .text) (some .null) <|
    .field "maxRetries" (.optional .size) (some .null) .done
  write r := .object [("code", .string r.code),
    ("primaryImportPath", Json.ofOption .string r.primaryPath),
    ("maxRetries", Json.ofOption .nat r.maxRetries)]
  build j :=
    { code := j.textAt "code", primaryPath := j.textAt? "primaryImportPath"
      maxRetries := j.naturalAt? "maxRetries" }

/-- Settings with those of the request in their place. -/
def override (r : ValidateRequest) (s : Settings) : Settings :=
  { s with
    primaryPath := r.primaryPath.getD s.primaryPath
    maxRetries := r.maxRetries.getD s.maxRetries }

/-- The validator for a request. -/
def validator (r : ValidateRequest) (v : Validator) : Except Error Validator :=
  if r.primaryPath.isSome || r.maxRetries.isSome then
    (Validator.ofSettings v.parse (r.override v.settings) v.compiler).mapError .ofSetup
  else .ok v

end ValidateRequest

/-- The answer to a request to validate a story. -/
def answerValidate (state : State) (r : ValidateRequest) : Except Error Json :=
  (r.validator state.validator).map fun v =>
    Verdict.form.write (v.validate state.inventory r.code)

/-- How a request to extract code stands in JSON. -/
def extractForm : Json.Form String where
  shape := .record "ExtractRequest" <| .field "text" .text none .done
  write text := .object [("text", .string text)]
  build j := j.textAt "text"

/-- The answer to a request to extract code. -/
def answerExtract (text : String) : Json :=
  .object [("code", Json.ofOption .string (Reply.code? text))]

/-- A request for a placeholder. -/
structure FallbackRequest where
  prompt : String
  title : String
  /-- The name of a framework. -/
  framework : Option String
deriving Repr, DecidableEq

/-- How such requests stand in JSON. -/
def FallbackRequest.form : Json.Form FallbackRequest where
  shape := .record "FallbackRequest" <|
    .field "prompt" .text none <|
    .field "title" .text none <|
    .field "framework" (.optional .text) (some .null) .done
  write r := .object [("prompt", .string r.prompt), ("title", .string r.title),
    ("framework", Json.ofOption .string r.framework)]
  build j :=
    { prompt := j.textAt "prompt", title := j.textAt "title", framework := j.textAt? "framework" }

/-- The answer to a request for a placeholder. -/
def answerFallback (state : State) (r : FallbackRequest) : Json :=
  let framework := (r.framework.map Framework.ofName).getD state.generation.framework
  .object [("code", .string (Placeholder.story framework r.title r.prompt))]

/-- The answer to a request for a story, from a service whose language model is behind
`peer`. -/
def answerGenerate {σ : Type} (state : State) (peer : Http.Peer σ) (r : Generation.Request)
    (world : σ) : Except Error Json × σ :=
  match state.model with
  | none => (.error .noModel, world)
  | some model =>
    let (story, world) :=
      Generation.generate (model.ask peer) state.validator state.inventory state.generation r world
    ((story.mapError Error.ofGeneration).map Generation.Story.write, world)

end StoryMend.Server
