import StoryMend.Proofs.Validator.Acceptance
import StoryMend.Server.Router

/-!
What answers look like.  Routes have different paths, so that a request reaches at most one
of them, and what a route answers stands in an envelope: handlers write it, and the texts
about bodies that cannot be used are put into it on their way out.  Requests that reach no
route get answers that carry nothing.
-/

namespace StoryMend.Server

/-- A request reaches a route when it has the path and the method of the route. -/
def Request.Reaches (r : Request) (route : Route) : Prop :=
  r.path = route.path ∧ r.method = route.method

/-- A request says that its body is JSON. -/
def Request.NamesJson (r : Request) : Prop :=
  ∃ value, r.header? "content-type" = some value ∧ isPlainValue value = true ∧
    MediaType.isJson value = true

/-- A route that reads bodies refuses the one of a request for its length. -/
def Request.IsOverlong (r : Request) (route : Route) : Prop :=
  route ≠ .health ∧ r.NamesJson ∧ maxBody < r.body.length

/-- What an answer carries is an envelope with the given fields: it says whether the request
succeeded, and holds data if it did and an error with its code and message if it did not. -/
structure Response.HasEnvelope (response : Response) (fields : List (String × Json)) : Prop where
  content : response.content = .json (.object fields)
  mediaType : response.mediaType = some "application/json"
  nodup : (fields.map (·.1)).Nodup
  keys : fields.map (·.1) ⊆ ["success", "data", "error"]
  success : (Json.object fields).field? "success" = some (.bool (response.status == 200))
  data : ((Json.object fields).field? "data").isSome ↔ response.status = 200
  error : ((Json.object fields).field? "error").isSome ↔ response.status ≠ 200
  reason : ∀ e, (Json.object fields).field? "error" = some e →
    ∃ code message : String,
      e.field? "code" = some (.string code) ∧ e.field? "message" = some (.string message)

/-- What an answer carries is an envelope. -/
def Response.IsEnveloped (response : Response) : Prop := ∃ fields, response.HasEnvelope fields

section Routes

/-- Routes have different paths. -/
theorem Route.path_injective : Function.Injective Route.path := by
  intro a b hab
  cases a <;> cases b <;> first | rfl | exact absurd hab (by decide)

theorem Route.ofPath?_path (route : Route) : Route.ofPath? route.path = some route := by
  cases route <;> rfl

/-- The route of a path is the one that has it. -/
theorem Route.ofPath?_eq_some_iff {path : String} {route : Route} :
    Route.ofPath? path = some route ↔ path = route.path := by
  constructor
  · intro h
    have hsame := List.find?_some h
    exact (beq_iff_eq.1 hsame).symm
  · rintro rfl
    exact route.ofPath?_path

theorem Route.ofPath?_eq_none_iff {path : String} :
    Route.ofPath? path = none ↔ ∀ route : Route, path ≠ route.path := by
  simp only [Option.eq_none_iff_forall_ne_some, ne_eq, Route.ofPath?_eq_some_iff]

/-- A request reaches at most one route. -/
theorem Request.Reaches.unique {r : Request} {a b : Route} (ha : r.Reaches a) (hb : r.Reaches b) :
    a = b :=
  Route.path_injective (ha.1.symm.trans hb.1)

variable {σ : Type} (state : State) (peer : Http.Peer σ) {r : Request} (world : σ)

/-- The route that a request reaches gives the answer. -/
theorem answer_of_reaches {route : Route} (h : r.Reaches route) :
    answer state peer r world =
      ((routeAnswer state peer r world route).1.enveloped,
        (routeAnswer state peer r world route).2) := by
  simp only [answer, Route.ofPath?_eq_some_iff.2 h.1, h.2, ↓reduceIte]

/-- On a path that no route has, nothing is found. -/
theorem answer_of_path_ne (h : ∀ route : Route, r.path ≠ route.path) :
    answer state peer r world = (.empty 404, world) := by
  simp only [answer, Route.ofPath?_eq_none_iff.2 h]

/-- The health of the service can be asked for without its content. -/
theorem answer_of_head (hpath : r.path = Route.health.path) (hmethod : r.method = "HEAD") :
    answer state peer r world =
      ((Response.success (answerHealth state)).withoutContent, world) := by
  simp only [answer, Route.ofPath?_eq_some_iff.2 hpath, hmethod]
  rfl

/-- A route refuses the methods of the others. -/
theorem answer_of_method_ne {route : Route} (hpath : r.path = route.path)
    (hmethod : r.method ≠ route.method) (hhead : ¬(route = .health ∧ r.method = "HEAD")) :
    answer state peer r world = (.empty 405, world) := by
  have hget : ¬(r.method = "HEAD" ∧ route.method = "GET") := by
    rintro ⟨hr, hroute⟩
    refine hhead ⟨?_, hr⟩
    cases route <;> first | rfl | exact absurd hroute (by decide)
  simp only [answer, Route.ofPath?_eq_some_iff.2 hpath, hmethod, ↓reduceIte, Bool.and_eq_true,
    decide_eq_true_eq, hget]

end Routes

section Bodies

theorem Rejection.ofReadError_ne_tooLong (e : Json.ReadError) :
    Rejection.ofReadError e ≠ .tooLong := by
  rw [Rejection.ofReadError]
  split <;> exact Rejection.noConfusion

/-- A body is refused for its length when it is said to be JSON and too long. -/
theorem Request.read_eq_tooLong_iff {α : Type} {r : Request} {form : Json.Form α} :
    r.read form = .error .tooLong ↔ r.NamesJson ∧ maxBody < r.body.length := by
  cases hheader : r.header? "content-type" with
  | none => simp [Request.read, Request.NamesJson, hheader]
  | some value =>
      cases hjson : isPlainValue value && MediaType.isJson value with
      | false =>
          have hnot : ¬r.NamesJson := by
            rintro ⟨other, hother, hplain, hnames⟩
            cases hheader.symm.trans hother
            simp [hplain, hnames] at hjson
          simp [Request.read, hheader, hjson, hnot]
      | true =>
          have hnames : r.NamesJson := ⟨value, hheader, Bool.and_eq_true_iff.1 hjson⟩
          by_cases hlong : maxBody < r.body.length
          · simp [Request.read, hheader, hjson, hnames, hlong]
          · cases hread : form.shape.read r.body with
            | ok j => simp [Request.read, hheader, hjson, hlong, hread]
            | error e =>
                simp [Request.read, hheader, hjson, hlong, hread,
                  Rejection.ofReadError_ne_tooLong]

/-- A short body that is said to be JSON is read as its text is. -/
theorem Request.read_of_readText {α : Type} {r : Request} {form : Json.Form α}
    (hnames : r.NamesJson) (hshort : r.body.length ≤ maxBody) {text : String}
    (hbody : r.body = text.toUTF8.toList) {a : α} (hread : form.readText text = .ok a) :
    r.read form = .ok a := by
  obtain ⟨value, hheader, hplain, hjson⟩ := hnames
  rw [Json.Form.readText, Json.Shape.readText, ← hbody] at hread
  cases hshape : form.shape.read r.body with
  | error e => simp [hshape, Except.map] at hread
  | ok j =>
      simp only [hshape, Except.map, Except.ok.injEq] at hread
      simp [Request.read, hheader, hplain, hjson, Nat.not_lt.2 hshort, hshape, hread]

end Bodies

section Envelopes

namespace Response

/-- What a request asked for stands in an envelope. -/
theorem isEnveloped_success (data : Json) : (success data).IsEnveloped :=
  ⟨[("success", .bool true), ("data", data)],
    { content := rfl
      mediaType := rfl
      nodup := by simp
      keys := by simp
      success := rfl
      data := by simp [Json.field?, success, ofJson]
      error := by simp [Json.field?, success, ofJson]
      reason := by simp [Json.field?] }⟩

/-- A failure with a status of its own stands in an envelope. -/
theorem isEnveloped_of_failure {response : Response} {code message : String}
    {details : List Detail} (hstatus : response.status ≠ 200)
    (hmedia : response.mediaType = some "application/json")
    (hcontent : response.content = .json (failureEnvelope code message details)) :
    response.IsEnveloped :=
  ⟨_, { content := hcontent
        mediaType := hmedia
        nodup := by simp
        keys := by simp
        success := by simp [Json.field?, hstatus]
        data := by simp [Json.field?, hstatus]
        error := by simp [Json.field?, hstatus]
        reason := by
          intro e he
          obtain rfl : _ = e := by simpa [Json.field?] using he
          exact ⟨code, message, by simp [Json.field?]⟩ }⟩

end Response

/-- No failure of the service counts as a success. -/
theorem Error.status_ne_ok (e : Error) : e.status ≠ 200 := by
  cases e <;> exact Nat.ne_of_beq_eq_false rfl

/-- What a handler answers stands in an envelope. -/
theorem isEnveloped_respond (outcome : Except Error Json) : (respond outcome).IsEnveloped := by
  cases outcome with
  | ok data => exact Response.isEnveloped_success data
  | error e => exact Response.isEnveloped_of_failure e.status_ne_ok rfl rfl

/-- What a handler answers leaves the service as it is. -/
theorem enveloped_respond (outcome : Except Error Json) :
    (respond outcome).enveloped = respond outcome := by
  cases outcome <;> rfl

/-- The text about a body that cannot be used is put into an envelope, unless the body is
refused for its length. -/
theorem isEnveloped_of_rejection {e : Rejection} (h : e ≠ .tooLong) :
    (Response.ofText e.status e.message).enveloped.IsEnveloped := by
  cases e with
  | tooLong => exact absurd rfl h
  | mediaType | malformed _ | misfit _ =>
      exact Response.isEnveloped_of_failure (Nat.ne_of_beq_eq_false rfl) rfl rfl

/-- What comes of a body stands in an envelope, unless the body is refused for its length. -/
theorem isEnveloped_withBody {α : Type} {r : Request} {form : Json.Form α}
    {handler : α → Except Error Json} (h : r.read form ≠ .error .tooLong) :
    (withBody r form handler).enveloped.IsEnveloped := by
  rw [withBody]
  cases hread : r.read form with
  | error e =>
      refine isEnveloped_of_rejection ?_
      rintro rfl
      exact h hread
  | ok a =>
      simp only [enveloped_respond]
      exact isEnveloped_respond _

variable {σ : Type} (state : State) (peer : Http.Peer σ) {r : Request} (world : σ)

/-- The route for stories answers like the others: only what it asks the model takes place
besides. -/
theorem routeAnswer_generate :
    ∃ handler, (routeAnswer state peer r world .generate).1 =
      withBody r Generation.Request.form handler := by
  refine ⟨fun body => (answerGenerate state peer body world).1, ?_⟩
  rw [routeAnswer, withBody]
  cases r.read Generation.Request.form <;> rfl

/-- Routes answer in envelopes, unless they refuse a body for its length. -/
theorem isEnveloped_routeAnswer {route : Route} (h : ¬r.IsOverlong route) :
    (routeAnswer state peer r world route).1.enveloped.IsEnveloped := by
  -- All routes but one read a body, each in a form of its own.
  have hread {α : Type} (form : Json.Form α) (hroute : route ≠ .health) :
      r.read form ≠ .error .tooLong :=
    fun htoo => h ⟨hroute, Request.read_eq_tooLong_iff.1 htoo⟩
  cases route with
  | health => exact isEnveloped_respond (.ok (answerHealth state))
  | validate => exact isEnveloped_withBody (hread _ Route.noConfusion)
  | extract => exact isEnveloped_withBody (hread _ Route.noConfusion)
  | fallback => exact isEnveloped_withBody (hread _ Route.noConfusion)
  | generate =>
      obtain ⟨handler, hhandler⟩ := routeAnswer_generate state peer (r := r) world
      rw [hhandler]
      exact isEnveloped_withBody (hread _ Route.noConfusion)

/-- A request that reaches a route is answered in an envelope, unless its body is refused for
its length. -/
theorem isEnveloped_answer {route : Route} (hreaches : r.Reaches route)
    (hfits : ¬r.IsOverlong route) : (answer state peer r world).1.IsEnveloped := by
  rw [answer_of_reaches state peer world hreaches]
  exact isEnveloped_routeAnswer state peer world hfits

/-- The envelopes do not depend on what the service was asked before. -/
theorem isEnveloped_of_mem_answerAll {requests : List Request}
    (h : ∀ r ∈ requests, ∃ route, r.Reaches route ∧ ¬r.IsOverlong route) :
    ∀ response ∈ (answerAll state peer requests world).1, response.IsEnveloped := by
  induction requests generalizing world with
  | nil => exact List.forall_mem_nil _
  | cons r rest ih =>
      obtain ⟨⟨route, hreaches, hfits⟩, hrest⟩ := List.forall_mem_cons.1 h
      exact List.forall_mem_cons.2
        ⟨isEnveloped_answer state peer world hreaches hfits, ih _ hrest⟩

variable (r)

/-- A request that reaches a route is answered in an envelope, unless its body is refused for
its length.  Requests that reach no route are answered without content: nothing is found on
paths that no route has, routes refuse the methods of the others, and the health of the
service can be asked for by its status alone. -/
theorem answer_isEnveloped :
    (∀ route, r.Reaches route → ¬r.IsOverlong route →
      (answer state peer r world).1.IsEnveloped) ∧
    ((∀ route : Route, r.path ≠ route.path) → (answer state peer r world).1 = .empty 404) ∧
    ∀ route : Route, r.path = route.path → r.method ≠ route.method →
      (answer state peer r world).1.content = .nothing ∧
        (answer state peer r world).1.status =
          if route = .health ∧ r.method = "HEAD" then 200 else 405 := by
  refine ⟨fun route => isEnveloped_answer state peer world, fun hpath => ?_,
    fun route hpath hmethod => ?_⟩
  · rw [answer_of_path_ne state peer world hpath]
  · by_cases hhead : route = .health ∧ r.method = "HEAD"
    · rw [if_pos hhead]
      obtain ⟨rfl, hasked⟩ := hhead
      rw [answer_of_head state peer world hpath hasked]
      exact ⟨rfl, rfl⟩
    · rw [answer_of_method_ne state peer world hpath hmethod hhead, if_neg hhead]
      exact ⟨rfl, rfl⟩

end Envelopes

end StoryMend.Server

namespace StoryMend.CutOffStory

open Server

/-- A service that validates by the same validator and has no language model. -/
def state : State where
  inventory := inventory
  validator := validator
  model := none
  generation := {}

/-- A request for the status of the service. -/
def statusRequest : Request where
  method := "HEAD"
  target := "/health"

/-- A request on a path that no route has. -/
def strayRequest : Request where
  method := "GET"
  target := "/nope"

/-- A request to validate that does not say what its body is. -/
def untypedRequest : Request where
  method := "POST"
  target := "/story/validate"

/-- Not every answer is an envelope, and not even the successful ones are. -/
theorem not_isEnveloped_status :
    (answer state Http.silent statusRequest ()).1.status = 200 ∧
      ¬(answer state Http.silent statusRequest ()).1.IsEnveloped ∧
      (answer state Http.silent strayRequest ()).1.status = 404 ∧
      ¬(answer state Http.silent strayRequest ()).1.IsEnveloped := by
  refine ⟨rfl, ?_, rfl, ?_⟩
  · rintro ⟨fields, h⟩
    cases h.content
  · rintro ⟨fields, h⟩
    cases h.content

theorem answer_untyped_isEnveloped :
    untypedRequest.Reaches .validate ∧ ¬untypedRequest.IsOverlong .validate ∧
      (answer state Http.silent untypedRequest ()).1.status = 415 ∧
      (answer state Http.silent untypedRequest ()).1.IsEnveloped := by
  have hreaches : untypedRequest.Reaches .validate := ⟨rfl, rfl⟩
  have hfits : ¬untypedRequest.IsOverlong .validate := by
    rintro ⟨-, -, hlong⟩
    exact absurd hlong (by decide)
  exact ⟨hreaches, hfits, rfl,
    (answer_isEnveloped state Http.silent untypedRequest ()).1 _ hreaches hfits⟩

end StoryMend.CutOffStory
