import StoryMend.Framework

/-!
Requests for stories, and the stories that come of them.
-/

namespace StoryMend.Generation

/-- What a story is wanted for. -/
structure Request where
  prompt : String
  title : Option String := none
  framework : Option Framework := none
deriving Repr, DecidableEq, Inhabited

/-- How requests stand in JSON. -/
def Request.form : Json.Form Request where
  shape := .record "GenerationRequest" <|
    .field "prompt" .text none <|
    .field "title" (.optional .text) (some .null) <|
    .field "framework" (.optional Framework.form.shape) (some .null) .done
  write r := .object [("prompt", .string r.prompt),
    ("title", Json.Form.text.optional.write r.title),
    ("framework", Framework.form.optional.write r.framework)]
  build j :=
    { prompt := j.textAt "prompt"
      title := Json.Form.text.optional.inField "title" j
      framework := Framework.form.optional.inField "framework" j }

/-- A story with the history of its generation. -/
structure Story where
  code : String
  title : String
  framework : Framework
  /-- How often the model was asked. -/
  attempts : Nat
  usedFallback : Bool
  /-- The warnings about the story that was accepted. -/
  warnings : List String
  /-- What was wrong with the last reply, if no reply was accepted. -/
  errors : List String
deriving Repr, DecidableEq, Inhabited

/-- How a story is written. -/
def Story.write (s : Story) : Json :=
  .object [("code", .string s.code), ("title", .string s.title),
    ("framework", Framework.form.write s.framework), ("attempts", .nat s.attempts),
    ("usedFallback", .bool s.usedFallback), ("warnings", .strings s.warnings),
    ("errors", .strings s.errors)]

end StoryMend.Generation
