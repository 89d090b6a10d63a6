import StoryMend.Server.Route

/-!
The service as a whole: every request is given to the route of its path, and the
answer to a request whose body cannot be used is put into an envelope.
-/

namespace StoryMend.Server

/-- The answer of a route that succeeds or fails. -/
def respond : Except Error Json → Response
  | .ok data => .success data
  | .error e => .failure e

/-- The answer to a request, made of its body. -/
def withBody {α : Type} (r : Request) (form : Json.Form α) (answer : α → Except Error Json) :
    Response :=
  match r.read form with
  | .error e => .ofText e.status e.message
  | .ok a => respond (answer a)

/-- What a route answers to a request of its method. -/
def routeAnswer {σ : Type} (state : State) (peer : Http.Peer σ) (r : Request) (world : σ) :
    Route → Response × σ
  | .health => (.success (answerHealth state), world)
  | .validate => (withBody r ValidateRequest.form (answerValidate state), world)
  | .extract => (withBody r extractForm fun text => .ok (answerExtract text), world)
  | .fallback => (withBody r FallbackRequest.form fun b => .ok (answerFallback state b), world)
  | .generate =>
    match r.read Generation.Request.form with
    | .error e => (.ofText e.status e.message, world)
    | .ok body =>
      let (data, world) := answerGenerate state peer body world
      (respond data, world)

/-- The answer to a request.  What can be got can also be asked for without its content. -/
def answer {σ : Type} (state : State) (peer : Http.Peer σ) (r : Request) (world : σ) :
    Response × σ :=
  match Route.ofPath? r.path with
  | none => (.empty 404, world)
  | some route =>
    if r.method = route.method then
      let (response, world) := routeAnswer state peer r world route
      (response.enveloped, world)
    else if r.method = "HEAD" && route.method = "GET" then
      let (response, world) := routeAnswer state peer r world route
      (response.enveloped.withoutContent, world)
    else (.empty 405, world)

/-- The answers to some requests, one after the other. -/
def answerAll {σ : Type} (state : State) (peer : Http.Peer σ) :
    List Request → σ → List Response × σ
  | [], world => ([], world)
  | r :: rest, world =>
    let (response, world) := answer state peer r world
    let (responses, world) := answerAll state peer rest world
    (response :: responses, world)

end StoryMend.Server
