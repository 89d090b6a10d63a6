import StoryMend.Json.Value
import StoryMend.Server.Error

/-!
Answers of the service.  What a route answers stands in an envelope that says whether
the request succeeded.
-/

namespace StoryMend.Server

/-- What an answer carries. -/
inductive Content where
  | nothing
  | text (s : String)
  | json (j : Json)
deriving Repr

/-- An answer of the service. -/
structure Response where
  status : Nat
  /-- The media type that the answer names. -/
  mediaType : Option String := none
  content : Content := .nothing
  /-- Whether the answer has a mark by which it can be found again. -/
  isMarked : Bool := false
deriving Repr

/-- A pointer to the part of a request that is at fault. -/
structure Detail where
  path : Option String := none
  hint : Option String := none
deriving Repr, DecidableEq

/-- How a pointer is written. -/
def Detail.write (d : Detail) : Json :=
  .object (Json.optional "path" .string d.path ++ Json.optional "hint" .string d.hint)

/-- The envelope of what a request asked for. -/
def successEnvelope (data : Json) : Json := .object [("success", .bool true), ("data", data)]

/-- The envelope of a failure. -/
def failureEnvelope (code message : String) (details : List Detail) : Json :=
  let error := [("code", .string code), ("message", .string message)] ++
    if details.isEmpty then [] else [("details", .array (details.map Detail.write))]
  .object [("success", .bool false), ("error", .object error)]

namespace Response

/-- An answer that carries a value. -/
def ofJson (status : Nat) (j : Json) : Response :=
  { status, mediaType := some "application/json", content := .json j }

/-- The answer to a request that succeeds. -/
def success (data : Json) : Response := ofJson 200 (successEnvelope data)

/-- The answer to a request that fails. -/
def failure (e : Error) : Response := ofJson e.status (failureEnvelope e.code e.message [])

/-- An answer that carries a line of text. -/
def ofText (status : Nat) (s : String) : Response :=
  { status, mediaType := some "text/plain; charset=utf-8", content := .text s }

/-- An answer that carries nothing. -/
def empty (status : Nat) : Response := { status }

/-- An answer without what it carries. -/
def withoutContent (r : Response) : Response := { r with content := .nothing }

end Response

end StoryMend.Server
